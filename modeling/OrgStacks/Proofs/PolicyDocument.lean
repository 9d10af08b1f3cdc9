import OrgStacks.Policy.Document
import OrgStacks.Proofs.Respelling

/-!
# Policy documents in other spellings

A document says the same with the members of its objects in another order, with members that it
does not know, with null for what is absent, and with the document or a statement as the array of
its members in declaration order. `PolicyDocument.Spells` collects these spellings; every one of
them is read as the document, and what is written is one of them.
-/

namespace OrgStacks
set_option autoImplicit false

variable {α β : Type}

theorem mapM_eq_some_of_forall₂ {f : α → Option β} {l : List α} {bs : List β}
    (h : List.Forall₂ (fun a b => f a = some b) l bs) : l.mapM f = some bs := by
  induction h with
  | nil => rfl
  | cons hab _ ih =>
    rw [List.mapM_cons, hab, ih]
    rfl

theorem mem_of_valueOf? {members : List (String × α)} {name : String} {v : α}
    (h : valueOf? name members = some v) : (name, v) ∈ members := by
  induction members with
  | nil => cases h
  | cons m members ih =>
    by_cases hm : m.1 = name
    · simp only [valueOf?, hm, if_true, Option.some.injEq] at h
      subst hm h
      exact List.mem_cons_self
    · simp only [valueOf?, hm, if_false] at h
      exact List.mem_cons_of_mem m (ih h)

theorem exists_valueOf? {members : List (String × α)} {name : String} {v : α}
    (h : (name, v) ∈ members) : ∃ w, valueOf? name members = some w := by
  induction members with
  | nil => cases h
  | cons m members ih =>
    by_cases hm : m.1 = name
    · exact ⟨m.2, by simp [valueOf?, hm]⟩
    · have hne : (name, v) ≠ m := fun heq => hm (heq ▸ rfl)
      obtain ⟨w, hw⟩ := ih (List.mem_of_ne_of_mem hne h)
      exact ⟨w, by simpa [valueOf?, hm] using hw⟩

theorem valueOf?_eq_of_mem_iff {members : List (String × α)} {name : String} {o : Option α}
    (h : ∀ v, (name, v) ∈ members ↔ o = some v) : valueOf? name members = o := by
  cases hv : valueOf? name members with
  | some v => exact ((h v).mp (mem_of_valueOf? hv)).symm
  | none =>
    cases o with
    | none => rfl
    | some v =>
      obtain ⟨w, hw⟩ := exists_valueOf? ((h v).mpr rfl)
      rw [hv] at hw
      cases hw

namespace Json

def given (names : List String) (values : List (Option Json)) : List (String × Json) :=
  (names.zip values).filterMap fun e => e.2.map fun v => (e.1, v)

/-- A record is an object with its members in any order, and others beside them, or the array of
its members, where absent ones at the end may be left out. -/
inductive SpellsRecord (names : List String) : List (Option Json) → Json → Prop
  | obj {values : List (Option Json)} {unknown members : List (String × Json)}
      (hunknown : ∀ m ∈ unknown, m.1 ∉ names)
      (hmembers : (given names values ++ unknown).Perm members) :
      SpellsRecord names values (.obj members)
  | arr (items : List Json) (left : Nat) :
      SpellsRecord names (items.map some ++ List.replicate left none) (.arr items)

/-- A member that may be absent is left out or null when it is. -/
inductive SpellsOptional (spells : α → Json → Prop) : Option α → Option Json → Prop
  | absent : SpellsOptional spells none none
  | null : SpellsOptional spells none (some .null)
  | present {a : α} {v : Json} (h : spells a v) : SpellsOptional spells (some a) (some v)

theorem SpellsOptional.of_map {spells : α → Json → Prop} (write : α → Json)
    (h : ∀ a, spells a (write a)) {a : Option α} : SpellsOptional spells a (a.map write) := by
  cases a with
  | none => exact .absent
  | some a => exact .present (h a)

theorem optional?_eq_some {spells : α → Json → Prop} {read : Json → Option α}
    (hread : ∀ a v, spells a v → v ≠ .null ∧ read v = some a) {a : Option α} {v : Option Json}
    (h : SpellsOptional spells a v) : optional? read v = some a := by
  cases h with
  | absent => rfl
  | null => rfl
  | present h =>
    obtain ⟨hnull, hv⟩ := hread _ _ h
    unfold optional?
    split
    · contradiction
    · next heq =>
      cases heq
      exact absurd rfl hnull
    · next heq =>
      cases heq
      simp [hv]

theorem object_entries (m : NameMap Json) : object m.entries = .obj m.entries :=
  congrArg (fun m : NameMap Json => obj m.entries) (NameMap.ofList_eq_of_perm (.refl m.entries))

section Record
variable {names : List String} {values : List (Option Json)} {members : List (String × Json)}

theorem mem_given {name : String} {v : Json} :
    (name, v) ∈ given names values ↔ (name, some v) ∈ names.zip values := by
  simp [given]

theorem given_eq_zip (items : List Json) (left : Nat) :
    given names (items.map some ++ List.replicate left none) = names.zip items := by
  induction names generalizing items with
  | nil => rfl
  | cons name names ih =>
    cases items with
    | nil =>
      rw [given, List.filterMap_eq_nil_iff.mpr, List.zip_nil_right]
      intro e he
      have hnone := List.eq_of_mem_replicate (List.of_mem_zip he).2
      simp [hnone]
    | cons item items => simpa [given] using ih items

theorem given_sublist (names : List String) (values : List (Option Json)) :
    ((given names values).map (·.1)).Sublist names := by
  induction names generalizing values with
  | nil => exact .slnil
  | cons name names ih =>
    cases values with
    | nil => exact List.nil_sublist _
    | cons value values =>
      cases value with
      | none => exact (ih values).cons name
      | some v => exact (ih values).cons_cons name

theorem SpellsRecord.of_perm (h : (given names values).Perm members) :
    SpellsRecord names values (.obj members) := by
  refine .obj (List.forall_mem_nil _) ?_
  rwa [List.append_nil]

theorem SpellsRecord.object_given (hnames : names.Nodup) :
    SpellsRecord names values (object (given names values)) :=
  .of_perm (NameMap.entries_ofList_perm (hnames.sublist (given_sublist names values))).symm

theorem forall₂_valueOf? (hnames : names.Nodup) (hlength : names.length = values.length)
    (hmembers : ∀ name ∈ names, ∀ v, (name, v) ∈ members ↔ (name, v) ∈ given names values) :
    List.Forall₂ (fun name value => valueOf? name members = value) names values := by
  have hnodup : ((names.zip values).map (·.1)).Nodup := by
    rwa [List.map_fst_zip (Nat.le_of_eq hlength)]
  refine List.forall₂_iff_zip.mpr ⟨hlength, fun {name value} he => ?_⟩
  apply valueOf?_eq_of_mem_iff
  intro v
  rw [hmembers name (List.of_mem_zip he).1, mem_given]
  constructor
  · intro hv
    exact congrArg Prod.snd (List.inj_on_of_nodup_map hnodup he hv rfl)
  · rintro rfl
    exact he

theorem SpellsRecord.exists_members {value : Json} (h : SpellsRecord names values value)
    (hnames : names.Nodup) (hlength : names.length = values.length) :
    ∃ members, value.record? names = some members ∧
      List.Forall₂ (fun name value => valueOf? name members = value) names values := by
  cases h with
  | @obj _ unknown members hunknown hmembers =>
    refine ⟨members, rfl, forall₂_valueOf? hnames hlength fun name hname v => ?_⟩
    have hknown : (name, v) ∉ unknown := fun hv => hunknown _ hv hname
    simp [← hmembers.mem_iff, hknown]
  | arr items left =>
    rw [List.length_append, List.length_map] at hlength
    refine ⟨names.zip items, if_pos (by omega), forall₂_valueOf? hnames ?_ fun name _ v => ?_⟩
    · rw [List.length_append, List.length_map, hlength]
    · rw [given_eq_zip]

end Record

end Json

namespace Principal

theorem ofJson?_toJson (p : Principal) : ofJson? p.toJson = some p := by
  cases p <;> rfl

theorem sorted_toJson (p : Principal) : p.toJson.sorted = p.toJson := by
  cases p <;> rfl

theorem toJson_ne_null (p : Principal) : p.toJson ≠ .null := by
  cases p <;> exact nofun

end Principal

theorem Effect.ofJson?_name (e : Effect) : ofJson? (.str e.name) = some e := by
  cases e <;> rfl

namespace Condition

/-- The values of an operator, in any order. -/
inductive SpellsValues : NameMap String → Json → Prop
  | obj {values : NameMap String} {entries : List (String × String)}
      (hentries : values.entries.Perm entries) :
      SpellsValues values (.obj (entries.map fun e => (e.1, .str e.2)))

inductive Spells : Condition → Json → Prop
  | obj {c : Condition} {entries : List (String × NameMap String)}
      {members : List (String × Json)} (hentries : c.entries.Perm entries)
      (hmembers : List.Forall₂ (fun e m => m.1 = e.1 ∧ SpellsValues e.2 m.2) entries members) :
      Spells c (.obj members)

theorem values?_eq_some {values : NameMap String} {v : Json} (h : SpellsValues values v) :
    values? v = some values := by
  cases h with
  | @obj entries hentries =>
    have hread : (entries.map fun e => (e.1, Json.str e.2)).mapM
        (fun m => m.2.string?.map fun s => (m.1, s)) = some entries := by
      apply mapM_eq_some_of_forall₂
      rw [List.forall₂_map_left_iff]
      exact List.forall₂_same.mpr fun _ _ => rfl
    simp [values?, hread, NameMap.ofList_eq_of_perm hentries]

theorem ofJson?_eq_some {c : Condition} {v : Json} (h : Spells c v) : ofJson? v = some c := by
  cases h with
  | @obj entries members hentries hmembers =>
    have hread : members.mapM (fun m => (values? m.2).map fun c => (m.1, c)) = some entries := by
      apply mapM_eq_some_of_forall₂
      refine hmembers.flip.imp fun m e ⟨hname, hvalues⟩ => ?_
      simp [values?_eq_some hvalues, hname]
    simp [ofJson?, hread, NameMap.ofList_eq_of_perm hentries]

theorem Spells.ne_null {c : Condition} {v : Json} (h : Spells c v) : v ≠ .null := by
  cases h
  exact nofun

theorem spells_toJson (c : Condition) : Spells c c.toJson := by
  refine .obj (.refl _) ?_
  rw [List.forall₂_map_right_iff]
  exact List.forall₂_same.mpr fun e _ => ⟨rfl, .obj (.refl _)⟩

theorem sorted_toJson (c : Condition) : c.toJson.sorted = c.toJson := by
  have hvalues : ∀ values : NameMap String,
      (Json.obj (values.entries.map fun v => (v.1, .str v.2))).sorted =
        .obj (values.entries.map fun v => (v.1, .str v.2)) := by
    intro values
    rw [Json.sorted, Json.sortedMembers_eq_map, List.map_map]
    exact Json.object_entries (values.map fun _ v => .str v)
  rw [toJson, Json.sorted, Json.sortedMembers_eq_map, List.map_map]
  simp only [Function.comp_def, hvalues]
  exact Json.object_entries
    (c.map fun _ values => .obj (values.entries.map fun v => (v.1, .str v.2)))

end Condition

namespace Statement

/-- A statement, its condition in any order, as an object or an array. -/
inductive Spells : Statement → Json → Prop
  | record {s : Statement} {principal resource condition : Option Json} {value : Json}
      (hprincipal : Json.SpellsOptional (fun p v => p.toJson = v) s.principal principal)
      (hresource : Json.SpellsOptional (fun r v => .str r = v) s.resource resource)
      (hcondition : Json.SpellsOptional Condition.Spells s.condition condition)
      (hvalue : Json.SpellsRecord memberNames
        [some (.str s.effect.name), principal, some (.str s.action), resource, condition] value) :
      Spells s value

theorem ofJson?_eq_some {s : Statement} {value : Json} (h : Spells s value) :
    ofJson? value = some s := by
  cases h with
  | record hprincipal hresource hcondition hvalue =>
    obtain ⟨members, hmembers, hfound⟩ := hvalue.exists_members (by decide) rfl
    simp only [memberNames, List.forall₂_cons, List.Forall₂.nil, and_true] at hfound
    obtain ⟨heffect, hp, haction, hr, hc⟩ := hfound
    have hprincipal' : Json.optional? Principal.ofJson? (valueOf? "Principal" members) =
        some s.principal := by
      rw [hp]
      refine Json.optional?_eq_some (fun p v hv => ?_) hprincipal
      exact hv ▸ ⟨p.toJson_ne_null, p.ofJson?_toJson⟩
    have hresource' : Json.optional? Json.string? (valueOf? "Resource" members) =
        some s.resource := by
      rw [hr]
      exact Json.optional?_eq_some (fun r v hv => hv ▸ ⟨nofun, rfl⟩) hresource
    have hcondition' : Json.optional? Condition.ofJson? (valueOf? "Condition" members) =
        some s.condition := by
      rw [hc]
      exact Json.optional?_eq_some (fun _ _ hv => ⟨hv.ne_null, Condition.ofJson?_eq_some hv⟩)
        hcondition
    simp [ofJson?, hmembers, heffect, haction, hprincipal', hresource', hcondition',
      Effect.ofJson?_name, Json.string?]

def values (s : Statement) : List (Option Json) :=
  [some (.str s.effect.name), s.principal.map Principal.toJson, some (.str s.action),
    s.resource.map Json.str, s.condition.map Condition.toJson]

theorem toJson_eq (s : Statement) : s.toJson = .obj (Json.given memberNames s.values) := by
  cases hp : s.principal <;> cases hr : s.resource <;> cases hc : s.condition <;>
    simp [toJson, values, hp, hr, hc, Json.given, memberNames]

theorem sorted_toJson (s : Statement) :
    s.toJson.sorted = Json.object (Json.given memberNames s.values) := by
  rw [toJson_eq, Json.sorted, Json.sortedMembers_eq_map]
  cases hp : s.principal <;> cases hr : s.resource <;> cases hc : s.condition <;>
    simp [values, hp, hr, hc, Json.given, memberNames, Json.sorted, Principal.sorted_toJson,
      Condition.sorted_toJson]

theorem spells_of_values {s : Statement} {value : Json}
    (h : Json.SpellsRecord memberNames s.values value) : Spells s value :=
  .record (.of_map Principal.toJson fun _ => rfl) (.of_map Json.str fun _ => rfl)
    (.of_map Condition.toJson Condition.spells_toJson) h

theorem spells_toJson (s : Statement) : Spells s s.toJson := by
  rw [toJson_eq]
  exact spells_of_values (.of_perm (.refl _))

theorem spells_sorted (s : Statement) : Spells s s.toJson.sorted := by
  rw [sorted_toJson]
  exact spells_of_values (.object_given (by decide))

end Statement

namespace PolicyDocument

inductive Spells : PolicyDocument → Json → Prop
  | record {d : PolicyDocument} {items : List Json} {value : Json}
      (hitems : List.Forall₂ Statement.Spells d.statements items)
      (hvalue : Json.SpellsRecord ["Version", "Statement"]
        [some (.str d.version), some (.arr items)] value) :
      Spells d value

theorem ofJson?_eq_some {d : PolicyDocument} {value : Json} (h : Spells d value) :
    ofJson? value = some d := by
  cases h with
  | @record items _ hitems hvalue =>
    obtain ⟨members, hmembers, hfound⟩ := hvalue.exists_members (by decide) rfl
    simp only [List.forall₂_cons, List.Forall₂.nil, and_true] at hfound
    obtain ⟨hversion, hstatements⟩ := hfound
    have hread : items.mapM Statement.ofJson? = some d.statements :=
      mapM_eq_some_of_forall₂ (hitems.flip.imp fun _ _ => Statement.ofJson?_eq_some)
    simp [ofJson?, hmembers, hversion, hstatements, hread, Json.string?]

theorem spells_toJson (d : PolicyDocument) : Spells d d.toJson := by
  have hitems : List.Forall₂ Statement.Spells d.statements (d.statements.map Statement.toJson) := by
    rw [List.forall₂_map_right_iff]
    exact List.forall₂_same.mpr fun s _ => s.spells_toJson
  exact .record hitems (.of_perm (.refl _))

theorem spells_sorted (d : PolicyDocument) : Spells d d.toJson.sorted := by
  have hitems : List.Forall₂ Statement.Spells d.statements
      (d.statements.map fun s => s.toJson.sorted) := by
    rw [List.forall₂_map_right_iff]
    exact List.forall₂_same.mpr fun s _ => s.spells_sorted
  have hsorted : d.toJson.sorted = Json.object (Json.given ["Version", "Statement"]
      [some (.str d.version), some (.arr (d.statements.map fun s => s.toJson.sorted))]) := by
    simp [toJson, Json.sorted, Json.sortedMembers_eq_map, Json.sortedItems_eq_map, Json.given,
      Function.comp_def]
  rw [hsorted]
  exact .record hitems (.object_given (by decide))

/-- A document is read back from what is written for it, with members in declaration order or in
name order, and from every other spelling of it. -/
theorem read_back (d : PolicyDocument) :
    ofJson? d.toJson = some d ∧ ofJson? d.toJson.sorted = some d ∧
      ∀ value, d.Spells value → ofJson? value = some d :=
  ⟨ofJson?_eq_some d.spells_toJson, ofJson?_eq_some d.spells_sorted, fun _ => ofJson?_eq_some⟩

def consoleAccess : PolicyDocument where
  statements := [
    { principal := some (.federated "idp")
      action := "sts:AssumeRoleWithSAML"
      condition := some <| .ofList [("StringEquals", .ofList [("SAML:aud", "console")]),
        ("StringLike", .ofList [("SAML:iss", "*"), ("SAML:sub", "amy")])] },
    { effect := .deny, action := "iam:*", resource := some "*", condition := some .empty }]

/-- The document as an array. The first statement has its members and its conditions the other way
round, a null and a member that is not known; the second is an array. -/
def consoleAccessRespelled : Json :=
  .arr [.str "2012-10-17", .arr [
    .obj [("Sid", .str "Console"),
      ("Condition", .obj [
        ("StringLike", .obj [("SAML:sub", .str "amy"), ("SAML:iss", .str "*")]),
        ("StringEquals", .obj [("SAML:aud", .str "console")])]),
      ("Resource", .null), ("Action", .str "sts:AssumeRoleWithSAML"),
      ("Principal", .obj [("Federated", .str "idp")]), ("Effect", .str "Allow")],
    .arr [.str "Deny", .null, .str "iam:*", .str "*", .obj []]]]

theorem spells_consoleAccess : consoleAccess.Spells consoleAccessRespelled := by
  have hunknown : ∀ m ∈ [("Sid", Json.str "Console")], m.1 ∉ Statement.memberNames := by decide
  refine .record (.cons ?first (.cons ?second .nil)) (.arr [_, _] 0)
  case first =>
    refine .record (.present rfl) .null (.present (.obj (List.reverse_perm _).symm ?conditions))
      (.obj hunknown (List.reverse_perm _).symm)
    exact .cons ⟨rfl, .obj (List.reverse_perm _).symm⟩ <| .cons ⟨rfl, .obj (.refl _)⟩ .nil
  case second =>
    exact .record .null (.present rfl) (.present (.obj (.refl _) .nil)) (.arr [_, _, _, _, _] 0)

theorem consoleAccess_read_back : consoleAccess.Spells consoleAccessRespelled ∧
    ofJson? consoleAccessRespelled = some consoleAccess :=
  ⟨spells_consoleAccess, (read_back consoleAccess).2.2 _ spells_consoleAccess⟩

end PolicyDocument

end OrgStacks
