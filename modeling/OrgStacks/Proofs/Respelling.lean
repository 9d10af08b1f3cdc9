import Mathlib.Data.List.Perm.Basic
import OrgStacks.Config.Reader
import OrgStacks.Config.Writer
import OrgStacks.Proofs.NameMap
import OrgStacks.Proofs.Outcome

/-!
# Other spellings of a document

A document says the same with the members of its mappings in another order, and with members of a
configuration under their aliases. `Config.ReadsAs` says that a value is read alike from all its
spellings; it goes from the parts of a value to lists, optional values and maps by name.
-/

namespace OrgStacks
set_option autoImplicit false

/-- The mappings of a configuration that have aliases, and those on the way to them. -/
inductive Place where
  | config | global | names | accounts | account | trails | trail | other

namespace Place

def aliases : Place → String → List String
  | .config, "trails" => ["cloudtrail"]
  | .names, "trails" => ["cloudtrail"]
  | .account, "saml_provider" => ["samlProvider"]
  | .trail, "global_events" => ["GlobalEvents"]
  | _, _ => []

def spellings (p : Place) (name : String) : List String := name :: p.aliases name

/-- Where the value of a member stands. -/
def member : Place → String → Place
  | .config, "global" => .global
  | .config, "accounts" => .accounts
  | .config, "trails" => .trails
  | .global, "names" => .names
  | .accounts, _ => .account
  | .trails, _ => .trail
  | _, _ => .other

end Place

mutual

/-- The second value is the first with members under their aliases and mappings in other orders. -/
inductive Respelled : Place → Json → Json → Prop
  | null {p : Place} : Respelled p .null .null
  | bool {p : Place} {b : Bool} : Respelled p (.bool b) (.bool b)
  | int {p : Place} {n : Int} : Respelled p (.int n) (.int n)
  | float {p : Place} {x : Float} : Respelled p (.float x) (.float x)
  | str {p : Place} {s : String} : Respelled p (.str s) (.str s)
  | arr {p : Place} {items items' : List Json} :
      RespelledItems items items' → Respelled p (.arr items) (.arr items')
  | obj {p : Place} {members members' reordered : List (String × Json)} :
      RespelledMembers p members members' → members'.Perm reordered →
      Respelled p (.obj members) (.obj reordered)

inductive RespelledItems : List Json → List Json → Prop
  | nil : RespelledItems [] []
  | cons {item item' : Json} {items items' : List Json} :
      Respelled .other item item' → RespelledItems items items' →
      RespelledItems (item :: items) (item' :: items')

inductive RespelledMembers : Place → List (String × Json) → List (String × Json) → Prop
  | nil {p : Place} : RespelledMembers p [] []
  | cons {p : Place} {name name' : String} {value value' : Json}
      {members members' : List (String × Json)} :
      name' ∈ p.spellings name → Respelled (p.member name) value value' →
      RespelledMembers p members members' →
      RespelledMembers p ((name, value) :: members) ((name', value') :: members')

end

mutual

theorem Respelled.refl (p : Place) : ∀ v : Json, Respelled p v v
  | .null => .null
  | .bool _ => .bool
  | .int _ => .int
  | .float _ => .float
  | .str _ => .str
  | .arr items => .arr (RespelledItems.refl items)
  | .obj members => .obj (RespelledMembers.refl p members) (.refl members)

theorem RespelledItems.refl : ∀ items : List Json, RespelledItems items items
  | [] => .nil
  | item :: items => .cons (Respelled.refl .other item) (RespelledItems.refl items)

theorem RespelledMembers.refl (p : Place) :
    ∀ members : List (String × Json), RespelledMembers p members members
  | [] => .nil
  | (name, value) :: members =>
    .cons List.mem_cons_self (Respelled.refl (p.member name) value)
      (RespelledMembers.refl p members)

end

theorem Respelled.reversed {p : Place} {members members' : List (String × Json)}
    (h : RespelledMembers p members members') :
    Respelled p (.obj members) (.obj members'.reverse) :=
  .obj h (List.reverse_perm members').symm

theorem Respelled.ofJson_ne_null {p : Place} {v v' : Json} (h : Respelled p v v')
    (hv : v ≠ .null) : Yaml.ofJson v' ≠ .null := by
  cases h with
  | null => exact absurd rfl hv
  | _ => simp [Yaml.ofJson]

theorem RespelledItems.forall₂ {items items' : List Json} (h : RespelledItems items items') :
    List.Forall₂ (Respelled .other) items items' := by
  induction items generalizing items' with
  | nil =>
    cases h
    exact .nil
  | cons item items ih =>
    cases h with
    | cons hitem hitems => exact .cons hitem (ih hitems)

def RespelledEntry (p : Place) (e e' : String × Json) : Prop :=
  e'.1 ∈ p.spellings e.1 ∧ Respelled (p.member e.1) e.2 e'.2

theorem RespelledMembers.forall₂ {p : Place} {members members' : List (String × Json)}
    (h : RespelledMembers p members members') :
    List.Forall₂ (RespelledEntry p) members members' := by
  induction members generalizing members' with
  | nil =>
    cases h
    exact .nil
  | cons e members ih =>
    cases h with
    | cons hname hvalue hmembers => exact .cons ⟨hname, hvalue⟩ (ih hmembers)

theorem exists_perm_forall₂ {α β : Type} {R : α → β → Prop} {l : List α} {m m' : List β}
    (h : List.Forall₂ R l m) (hperm : m.Perm m') :
    ∃ l', l.Perm l' ∧ List.Forall₂ R l' m' := by
  have hcomp : Relation.Comp (List.Forall₂ R) List.Perm l m' := ⟨m, h, hperm⟩
  rwa [List.forall₂_comp_perm_eq_perm_comp_forall₂] at hcomp

theorem Respelled.exists_entries {α : Type} {p : Place} {l : List α} {entry : α → String × Json}
    {v : Json} (h : Respelled p (.obj (l.map entry)) v) :
    ∃ l' members, v = .obj members ∧ l.Perm l' ∧
      List.Forall₂ (fun a e => RespelledEntry p (entry a) e) l' members := by
  cases h with
  | obj hmembers hperm =>
    have hforall := hmembers.forall₂
    rw [List.forall₂_map_left_iff] at hforall
    obtain ⟨l', hl', hforall'⟩ := exists_perm_forall₂ hforall hperm
    exact ⟨l', _, rfl, hl', hforall'⟩

theorem Yaml.ofJsonItems_eq_map (items : List Json) : ofJsonItems items = items.map ofJson := by
  induction items with
  | nil => rfl
  | cons item items ih => rw [ofJsonItems, ih, List.map_cons]

theorem Yaml.ofJsonMembers_eq_map (members : List (String × Json)) :
    ofJsonMembers members = members.map fun e => (.str e.1, ofJson e.2) := by
  induction members with
  | nil => rfl
  | cons e members ih => rw [ofJsonMembers, ih, List.map_cons]

namespace Json

mutual

/-- Every number is finite, and every object has its members once and in name order, as
`Json.object` makes them. -/
def Proper : Json → Prop
  | .float x => Decimal.isFinite x = true
  | .arr items => ProperItems items
  | .obj members => Ordered members ∧ ProperMembers members
  | _ => True

def ProperItems : List Json → Prop
  | [] => True
  | item :: items => Proper item ∧ ProperItems items

def ProperMembers : List (String × Json) → Prop
  | [] => True
  | (_, value) :: members => Proper value ∧ ProperMembers members

end

end Json

theorem NameMap.ofList_eq_of_perm {α : Type} {m : NameMap α} {entries : List (String × α)}
    (h : m.entries.Perm entries) : ofList entries = m := by
  have hnodup : (entries.map (·.1)).Nodup := (h.map _).nodup_iff.mp m.keys_nodup
  have hperm := entries_ofList_perm hnodup
  refine ext_entries ((ofList entries).ordered.ext_mem m.ordered fun name value => ?_)
  rw [hperm.mem_iff, h.mem_iff]

namespace Config

/-- Whatever the spelling of `v`, the reader makes `a` of it. -/
def ReadsAs {α : Type} (read : Reader α) (p : Place) (v : Json) (a : α) : Prop :=
  ∀ v', Respelled p v v' → read (.ofJson v') = .ok a

section
variable {α β : Type} {p : Place}

theorem ReadsAs.read_self {read : Reader α} {v : Json} {a : α} (h : ReadsAs read p v a) :
    read (.ofJson v) = .ok a := h v (.refl p v)

theorem readsAs_text (s : String) : ReadsAs readText p (.str s) s := by
  intro v' h
  cases h
  rfl

theorem readsAs_bool (b : Bool) : ReadsAs readBool p (.bool b) b := by
  intro v' h
  cases h
  rfl

theorem mapM_respelled {read : Reader α} {write : α → Json} {l : List α}
    (h : ∀ a ∈ l, ReadsAs read .other (write a) a) {items : List Json}
    (hitems : RespelledItems (l.map write) items) :
    (Yaml.ofJsonItems items).mapM read = .ok l := by
  have hforall := hitems.forall₂
  rw [List.forall₂_map_left_iff] at hforall
  rw [Yaml.ofJsonItems_eq_map, mapM_eq_ok_iff, List.forall₂_map_left_iff]
  have hread := ((List.forall₂_and_left l items).mpr ⟨h, hforall⟩).flip
  exact hread.imp fun v a ⟨ha, hv⟩ => ha v hv

theorem readsAs_texts (texts : List String) :
    ReadsAs (readList readText) p (.ofStrings texts) texts := by
  intro v' hv'
  cases hv' with
  | arr hitems => exact mapM_respelled (fun s _ => readsAs_text s) hitems

theorem ReadsAs.some {read : Reader α} {v : Json} {a : α} (h : ReadsAs read p v a)
    (hv : v ≠ .null) : ReadsAs (readOptional read) p v (some a) := by
  intro v' hv'
  -- A null would stand for no value.
  have hnull := hv'.ofJson_ne_null hv
  unfold readOptional
  split
  · contradiction
  · rw [h v' hv']
    rfl

def readEntry (read : Reader α) (pair : Yaml × Yaml) : Except String (String × α) := do
  return (← readText pair.1, ← read pair.2)

/-- Where no member has an alias, a mapping in another order is read as its entries in that
order. -/
theorem exists_mapM_readEntry {read : Reader α} {write : α → Json}
    {entries : List (String × α)} (haliases : ∀ name, p.aliases name = [])
    (h : ∀ e ∈ entries, ReadsAs read (p.member e.1) (write e.2) e.2) {v : Json}
    (hv : Respelled p (.obj (entries.map fun e => (e.1, write e.2))) v) :
    ∃ entries' members, v = .obj members ∧ entries.Perm entries' ∧
      (Yaml.ofJsonMembers members).mapM (readEntry read) = .ok entries' := by
  obtain ⟨entries', members, rfl, hperm, hforall⟩ := hv.exists_entries
  refine ⟨entries', members, rfl, hperm, ?_⟩
  rw [Yaml.ofJsonMembers_eq_map, mapM_eq_ok_iff, List.forall₂_map_left_iff]
  have h' : ∀ e ∈ entries', ReadsAs read (p.member e.1) (write e.2) e.2 :=
    fun e he => h e (hperm.mem_iff.mpr he)
  have hread := ((List.forall₂_and_left entries' members).mpr ⟨h', hforall⟩).flip
  refine hread.imp fun e' e ⟨he, hname, hvalue⟩ => ?_
  rw [Place.spellings, haliases, List.mem_singleton] at hname
  simp only [readEntry, readText, untag, ok_bind, hname, he _ hvalue]
  rfl

theorem readNames_map (read : Reader α) (pairs : List (Yaml × Yaml)) :
    readNames read (.map pairs) = (pairs.mapM (readEntry read)).map .ofList := by
  change ((pairs.mapM (readEntry read)) >>= fun entries => .ok (NameMap.ofList entries)) = _
  cases pairs.mapM (readEntry read) <;> rfl

theorem ReadsAs.names {read : Reader α} {write : α → Json} {m : NameMap α}
    (haliases : ∀ name, p.aliases name = [])
    (h : ∀ e ∈ m.entries, ReadsAs read (p.member e.1) (write e.2) e.2) :
    ReadsAs (readNames read) p (namesJson write m) m := by
  intro v' hv'
  obtain ⟨entries, members, rfl, hperm, hread⟩ := exists_mapM_readEntry haliases h hv'
  rw [Yaml.ofJson, readNames_map, hread, Except.map, NameMap.ofList_eq_of_perm hperm]

theorem readJsonItems_eq_mapM (items : List Yaml) : readJsonItems items = items.mapM readJson := by
  induction items with
  | nil => rfl
  | cons item items ih => rw [readJsonItems, ih, List.mapM_cons]

theorem readJsonMembers_eq_mapM (pairs : List (Yaml × Yaml)) :
    readJsonMembers pairs = pairs.mapM (readEntry readJson) := by
  induction pairs with
  | nil => rfl
  | cons pair pairs ih =>
    rw [readJsonMembers, ih, List.mapM_cons]
    simp only [readEntry, bind_assoc, pure_bind]

theorem readsAs_json_arr {items : List Json}
    (h : ∀ item ∈ items, ReadsAs readJson .other item item) :
    ReadsAs readJson .other (.arr items) (.arr items) := by
  intro v' hv'
  cases hv' with
  | arr hitems =>
    rw [← items.map_id] at hitems
    rw [Yaml.ofJson, readJson, readJsonItems_eq_mapM, mapM_respelled h hitems]
    rfl

theorem readsAs_json_obj {members : List (String × Json)} (hordered : Ordered members)
    (h : ∀ e ∈ members, ReadsAs readJson .other e.2 e.2) :
    ReadsAs readJson .other (.obj members) (.obj members) := by
  intro v' hv'
  have hid : (members.map fun e => (e.1, id e.2)) = members := members.map_id
  rw [← hid] at hv'
  obtain ⟨entries, reordered, rfl, hperm, hread⟩ :=
    exists_mapM_readEntry (fun _ => rfl) (fun e he => h e he) hv'
  rw [Yaml.ofJson, readJson, readJsonMembers_eq_mapM, hread]
  have hmap := NameMap.ofList_eq_of_perm (m := ⟨members, hordered⟩) hperm
  simp only [Except.map, Json.object, hmap]

mutual

theorem readsAs_json : ∀ {v : Json}, v.Proper → ReadsAs readJson .other v v
  | .null, _ => fun _ h => by cases h; rfl
  | .bool _, _ => fun _ h => by cases h; rfl
  | .int _, _ => fun _ h => by cases h; rfl
  | .float x, hx => fun _ h => by
    cases h
    exact congrArg Except.ok (if_pos hx)
  | .str _, _ => fun _ h => by cases h; rfl
  | .arr _, h => readsAs_json_arr (readsAs_json_items h)
  | .obj _, h => readsAs_json_obj h.1 (readsAs_json_members h.2)

theorem readsAs_json_items : ∀ {items : List Json}, Json.ProperItems items →
    ∀ item ∈ items, ReadsAs readJson .other item item
  | [], _ => by simp
  | _ :: _, h => List.forall_mem_cons.mpr ⟨readsAs_json h.1, readsAs_json_items h.2⟩

theorem readsAs_json_members : ∀ {members : List (String × Json)}, Json.ProperMembers members →
    ∀ e ∈ members, ReadsAs readJson .other e.2 e.2
  | [], _ => by simp
  | _ :: _, h => List.forall_mem_cons.mpr ⟨readsAs_json h.1, readsAs_json_members h.2⟩

end

end

end Config

end OrgStacks
