import Mathlib.Data.List.Nodup
import Mathlib.Data.List.Pairwise
import OrgStacks.Proofs.Respelling

/-!
# Records in other spellings

A record is written member by member, and a member may be left out. It is read member by member in
the order of the document. When no two members share a name, and each of two members is read alike
before and after the other, every spelling of what is written is read as the record.
-/

namespace OrgStacks.Config
set_option autoImplicit false

variable {α β : Type} {p : Place}

namespace Member

def Independent (m m' : Member α) : Prop :=
  ∀ {a b b' : α} {y y' : Yaml}, m.read a y = .ok b → m'.read a y' = .ok b' →
    m.read b' y = m'.read b y'

instance : Std.Symm (Independent (α := α)) where
  symm _ _ h := fun hread hread' => (h hread' hread).symm

@[simp] theorem Independent.of {γ : Type} {name name' : String} {read : Reader β} {read' : Reader γ}
    {set : α → β → α} {set' : α → γ → α} {required required' : Bool}
    {aliases aliases' : List String} (h : ∀ a x x', set (set' a x') x = set' (set a x) x') :
    Independent (.of name read set required aliases)
      (.of name' read' set' required' aliases') := by
  intro a b b' y y' hb hb'
  obtain ⟨x, hx, rfl⟩ := map_eq_ok_iff.mp hb
  obtain ⟨x', hx', rfl⟩ := map_eq_ok_iff.mp hb'
  simp only [Member.of, hx, hx', Except.map, h]

theorem readRecord_map_eq_ok {members : List (Member α)} {start a : α}
    {pairs : List (Yaml × Yaml)} {seen : List String}
    (hsteps : pairs.foldlM (step members) (start, []) = .ok (a, seen))
    (hseen : ∀ m ∈ members, m.required = true → m.name ∈ seen) :
    readRecord members start (.map pairs) = .ok a := by
  have hnone : (members.find? fun m => m.required && !seen.contains m.name) = none := by
    rw [List.find?_eq_none]
    intro m hm hmissing
    simp only [Bool.and_eq_true, Bool.not_eq_true', List.contains_eq_mem,
      decide_eq_false_iff_not] at hmissing
    exact hmissing.2 (hseen m hm hmissing.1)
  simp only [readRecord, readPairs, untag, ok_bind, hsteps, hnone]
  rfl

/-- The members of a record at a place: their names, their aliases and what they set. -/
structure Regular (p : Place) (members : List (Member α)) : Prop where
  distinct : (members.flatMap fun m => m.name :: m.aliases).Nodup
  aliases : ∀ m ∈ members, m.aliases = p.aliases m.name
  independent : members.Pairwise Independent

theorem eq_of_mem_flatMap {γ : Type} {g : α → List γ} {l : List α} (h : (l.flatMap g).Nodup)
    {a a' : α} (ha : a ∈ l) (ha' : a' ∈ l) {x : γ} (hx : x ∈ g a) (hx' : x ∈ g a') : a = a' := by
  by_contra hne
  have : Std.Symm (Function.onFun List.Disjoint g) := ⟨fun _ _ hd _ hx hx' => hd hx' hx⟩
  exact (List.nodup_flatMap.mp h).2.forall ha ha' hne hx hx'

theorem mem_names {m : Member α} {name : String} :
    name ∈ m.names ↔ name ∈ m.name :: m.aliases := by
  rw [names, NameSet.mem_toList, NameSet.mem_ofList]

namespace Regular

variable {members : List (Member α)}

theorem mem_names_iff (h : Regular p members) {m : Member α} (hm : m ∈ members) {name : String} :
    name ∈ m.names ↔ name ∈ p.spellings m.name := by
  rw [mem_names, h.aliases m hm, Place.spellings]

theorem eq_of_mem_names (h : Regular p members) {m m' : Member α} (hm : m ∈ members)
    (hm' : m' ∈ members) {name : String} (hname : name ∈ m.names) (hname' : name ∈ m'.names) :
    m = m' :=
  eq_of_mem_flatMap h.distinct hm hm' (mem_names.mp hname) (mem_names.mp hname')

theorem names_nodup (h : Regular p members) : (members.map (·.name)).Nodup := by
  have hsub : (members.map (·.name)).Sublist
      (members.flatMap fun m => m.name :: m.aliases) := by
    clear h
    induction members with
    | nil => exact .slnil
    | cons m members ih => exact (ih.trans (List.sublist_append_right _ _)).cons_cons m.name
  exact h.distinct.sublist hsub

theorem find?_eq_some (h : Regular p members) {m : Member α} (hm : m ∈ members) {name : String}
    (hname : name ∈ p.spellings m.name) :
    (members.find? fun m => m.names.contains name) = some m := by
  have hself : name ∈ m.names := (h.mem_names_iff hm).mpr hname
  cases hfind : members.find? fun m => m.names.contains name with
  | none => simpa [hself] using List.find?_eq_none.mp hfind m hm
  | some m' =>
    have hmem : m' ∈ members := List.mem_of_find?_eq_some hfind
    have hname' : name ∈ m'.names := by simpa using List.find?_some hfind
    rw [h.eq_of_mem_names hm hmem hself hname']

end Regular

end Member

structure Given (p : Place) (α : Type) where
  member : Member α
  value : Json
  update : α → α
  reads : ∀ a, ReadsAs (member.read a) (p.member member.name) value (update a)

namespace Given

variable {members : List (Member α)}

def entry (g : Given p α) : String × Json := (g.member.name, g.value)

theorem update_comm {g g' : Given p α} (h : Member.Independent g.member g'.member) (a : α) :
    g.update (g'.update a) = g'.update (g.update a) := by
  have hread := h ((g.reads a).read_self) ((g'.reads a).read_self)
  rw [(g.reads _).read_self, (g'.reads _).read_self] at hread
  exact Except.ok.inj hread

theorem step_eq_ok (h : Member.Regular p members) {g : Given p α} (hg : g.member ∈ members)
    {e : String × Json} (he : RespelledEntry p g.entry e) {a : α} {seen : List String}
    (hseen : g.member.name ∉ seen) :
    Member.step members (a, seen) (.str e.1, .ofJson e.2) =
      .ok (g.update a, g.member.name :: seen) := by
  have hread := g.reads a _ he.2
  simp only [Member.step, readText, untag, ok_bind, h.find?_eq_some hg he.1]
  simp [hseen, hread, ok_bind, pure, Except.pure]

/-- Members read one after the other make their updates. -/
theorem foldlM_step_eq_ok (h : Member.Regular p members) {given : List (Given p α)}
    {written : List (String × Json)}
    (hwritten : List.Forall₂ (fun g e => RespelledEntry p (entry g) e) given written)
    (hmem : ∀ g ∈ given, g.member ∈ members) (hnodup : (given.map (·.member.name)).Nodup)
    {a : α} {seen : List String} (hseen : ∀ g ∈ given, g.member.name ∉ seen) :
    (Yaml.ofJsonMembers written).foldlM (Member.step members) (a, seen) =
      .ok (given.foldl (fun a g => g.update a) a,
        (given.map (·.member.name)).reverse ++ seen) := by
  induction hwritten generalizing a seen with
  | nil => rfl
  | @cons g e given written hge _ ih =>
    rw [List.map_cons, List.nodup_cons] at hnodup
    have hstep := step_eq_ok h (hmem g List.mem_cons_self) hge (a := a)
      (hseen g List.mem_cons_self)
    have hseen' : ∀ g' ∈ given, g'.member.name ∉ g.member.name :: seen := by
      intro g' hg' hmem'
      rcases List.mem_cons.mp hmem' with heq | hmem'
      · exact hnodup.1 (heq ▸ List.mem_map.mpr ⟨g', hg', rfl⟩)
      · exact hseen g' (List.mem_cons_of_mem g hg') hmem'
    rw [Yaml.ofJsonMembers, List.foldlM_cons, hstep, ok_bind,
      ih (fun g' hg' => hmem g' (List.mem_cons_of_mem g hg')) hnodup.2 hseen']
    simp

end Given

/-- The members, given as `written` or left out, make `b` of `a`. -/
inductive Fills (p : Place) : List (Member α) → List (String × Json) → α → α → Prop
  | nil {a : α} : Fills p [] [] a a
  | given {m : Member α} {members : List (Member α)} {v : Json} {update : α → α}
      {written : List (String × Json)} {a b : α}
      (reads : ∀ a, ReadsAs (m.read a) (p.member m.name) v (update a))
      (rest : Fills p members written (update a) b) :
      Fills p (m :: members) ((m.name, v) :: written) a b
  | absent {m : Member α} {members : List (Member α)} {written : List (String × Json)} {a b : α}
      (optional : m.required = false) (rest : Fills p members written a b) :
      Fills p (m :: members) written a b

namespace Fills

variable {members : List (Member α)} {written : List (String × Json)} {a b : α}

theorem exists_given (h : Fills p members written a b) :
    ∃ given : List (Given p α), (given.map (·.member)).Sublist members ∧
      (∀ m ∈ members, m.required = true → m ∈ given.map (·.member)) ∧
      written = given.map Given.entry ∧ given.foldl (fun a g => g.update a) a = b := by
  induction h with
  | nil => exact ⟨[], .slnil, by simp, rfl, rfl⟩
  | @given m members v update written a b reads rest ih =>
    obtain ⟨given, hsub, hrequired, rfl, hfold⟩ := ih
    refine ⟨⟨m, v, update, reads⟩ :: given, hsub.cons_cons m, ?_, rfl, hfold⟩
    intro m' hm' hreq
    rcases List.mem_cons.mp hm' with rfl | hm'
    · exact List.mem_cons_self
    · exact List.mem_cons_of_mem m (hrequired m' hm' hreq)
  | @absent m members written a b optional rest ih =>
    obtain ⟨given, hsub, hrequired, hwritten, hfold⟩ := ih
    refine ⟨given, hsub.cons m, ?_, hwritten, hfold⟩
    intro m' hm' hreq
    rcases List.mem_cons.mp hm' with rfl | hm'
    · rw [optional] at hreq
      contradiction
    · exact hrequired m' hm' hreq

section
variable {name : String} {aliases : List String}

theorem value {read : Reader β} {set : α → β → α} {required : Bool} {v : Json} {x : β}
    (h : ReadsAs read (p.member name) v x) (rest : Fills p members written (set a x) b) :
    Fills p (.of name read set required aliases :: members) ((name, v) :: written) a b := by
  have hreads : ∀ c, ReadsAs ((Member.of name read set required aliases).read c)
      (p.member name) v (set c x) := by
    intro c v' hv'
    simp only [Member.of, h v' hv', Except.map]
  exact .given hreads rest

theorem optional {read : Reader β} {set : α → Option β → α} {write : β → Json} {x : Option β}
    (h : ∀ y ∈ x, ReadsAs (readOptional read) (p.member name) (write y) (some y))
    (hset : set a none = a) (rest : Fills p members written (set a x) b) :
    Fills p (.of name (readOptional read) set false aliases :: members)
      (optionalMember name write x ++ written) a b := by
  cases x with
  | none => exact .absent rfl (hset ▸ rest)
  | some y => exact .value (h y rfl) rest

theorem texts {set : α → List String → α} {x : List String} (hset : set a [] = a)
    (rest : Fills p members written (set a x) b) :
    Fills p (.of name (readList readText) set false aliases :: members)
      (listMember name x ++ written) a b := by
  cases x with
  | nil => exact .absent rfl (hset ▸ rest)
  | cons s texts => exact .value (readsAs_texts (s :: texts)) rest

end

end Fills

/-- Every spelling of what is written for a record is read as the record. -/
theorem readsAs_record {members : List (Member α)} {written : List (String × Json)} {start a : α}
    (h : Member.Regular p members) (hfills : Fills p members written start a) :
    ReadsAs (Member.readRecord members start) p (.obj written) a := by
  intro v' hv'
  obtain ⟨given, hsub, hrequired, rfl, rfl⟩ := hfills.exists_given
  obtain ⟨given', reordered, rfl, hperm, hforall⟩ := hv'.exists_entries
  have hmem : ∀ g ∈ given, g.member ∈ members :=
    fun g hg => hsub.subset (List.mem_map.mpr ⟨g, hg, rfl⟩)
  have hnodup : (given.map (·.member.name)).Nodup := by
    have hsublist := hsub.map Member.name
    rw [List.map_map] at hsublist
    exact h.names_nodup.sublist hsublist
  have hcomm : ∀ g ∈ given, ∀ g' ∈ given, ∀ a,
      g'.update (g.update a) = g.update (g'.update a) := by
    intro g hg g' hg' a
    by_cases hname : g.member.name = g'.member.name
    · -- No member is given twice.
      rw [List.inj_on_of_nodup_map hnodup hg hg' hname]
    · have hne : g.member ≠ g'.member := fun heq => hname (congrArg Member.name heq)
      exact Given.update_comm (h.independent.forall (hmem g' hg') (hmem g hg) (Ne.symm hne)) a
  -- The document gives the members in its own order, which the updates do not mind.
  have hfold := Given.foldlM_step_eq_ok h hforall (fun g hg => hmem g (hperm.mem_iff.mpr hg))
    ((hperm.map _).nodup_iff.mp hnodup) (a := start) fun _ _ => List.not_mem_nil
  rw [← hperm.foldl_eq' hcomm] at hfold
  refine Member.readRecord_map_eq_ok hfold fun m hm hreq => ?_
  obtain ⟨g, hg, rfl⟩ := List.mem_map.mp (hrequired m hm hreq)
  simpa using ⟨g, hperm.mem_iff.mp hg, rfl⟩

end OrgStacks.Config
