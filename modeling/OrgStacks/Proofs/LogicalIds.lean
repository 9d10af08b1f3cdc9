import OrgStacks.Proofs.Clash
import OrgStacks.Proofs.Grants

/-!
# Which ids are written

`Template.UsesId` lists the ids of a template wherever they stand: as keys, in dependencies, and in
the references of values at any depth. All of them consist of ASCII letters and digits. An id with
an ending has characters, but that of a managed policy is its scrubbed name alone, so by
`compile_spells_ids` the ids are legal exactly when something is left of the name of every policy.
-/

namespace OrgStacks
set_option autoImplicit false

/-- One or more ASCII letters and digits. -/
def Text.IsLogicalId (id : String) : Prop := id ≠ "" ∧ ∀ ch ∈ id.toList, ch.isAlphanum = true

instance (id : String) : Decidable (Text.IsLogicalId id) :=
  decidable_of_iff (id ≠ "" ∧ id.toList.all Char.isAlphanum = true) <| by
    rw [List.all_eq_true, Text.IsLogicalId]

theorem Text.isLogicalId_append {a b : String} (ha : ∀ ch ∈ a.toList, ch.isAlphanum = true)
    (hb : IsLogicalId b) : IsLogicalId (a ++ b) := by
  constructor
  · intro h
    exact hb.1 (String.append_eq_empty_iff.mp h).2
  · intro ch hch
    rw [String.toList_append] at hch
    rcases List.mem_append.mp hch with h | h
    · exact ha ch h
    · exact hb.2 ch h

namespace ResourceKind

theorem isLogicalId_suffix {k : ResourceKind} (h : k ≠ .managedPolicy) :
    Text.IsLogicalId k.suffix := by
  cases k
  case managedPolicy => exact absurd rfl h
  all_goals decide

theorem isLogicalId_outputSuffix {k : ResourceKind} {u : String} (h : k.outputSuffix? = some u) :
    Text.IsLogicalId u := by
  cases k <;> cases h <;> decide

theorem isLogicalId_scrub {k : ResourceKind} (h : k ≠ .managedPolicy) (name : String) :
    Text.IsLogicalId (Text.scrub (name ++ k.suffix)) := by
  rw [scrub_append_suffix]
  exact Text.isLogicalId_append (fun _ => Text.isAlphanum_of_mem_scrub) (isLogicalId_suffix h)

end ResourceKind

/-- The ids of an account: all legal ones, and the scrubbed names of its managed policies. -/
inductive Config.Spells (c : Config) (r : Registry) (account : String) : String → Prop where
  | legal {id : String} : Text.IsLogicalId id → Spells c r account id
  | policy {name : String} {p : PolicyConfig} : c.policies.get? name = some p →
      p.inline = false → r.places p account = true → Spells c r account (Text.scrub name)

theorem Config.Spells.isAlphanum {c : Config} {r : Registry} {account id : String}
    (h : c.Spells r account id) : ∀ ch ∈ id.toList, ch.isAlphanum = true := by
  cases h with
  | legal hid => exact hid.2
  | policy => exact fun _ => Text.isAlphanum_of_mem_scrub

namespace Json

/-- A reference to the id, or to an attribute of it, stands somewhere in the value. -/
inductive Mentions (id : String) : Json → Prop where
  | ref {members : List (String × Json)} : ("Ref", .str id) ∈ members → Mentions id (.obj members)
  | getAtt {members : List (String × Json)} {rest : List Json} :
      ("Fn::GetAtt", .arr (.str id :: rest)) ∈ members → Mentions id (.obj members)
  | item {items : List Json} {value : Json} :
      value ∈ items → Mentions id value → Mentions id (.arr items)
  | member {members : List (String × Json)} {name : String} {value : Json} :
      (name, value) ∈ members → Mentions id value → Mentions id (.obj members)

def MentionsOnly (value : Json) (good : String → Prop) : Prop := ∀ id, value.Mentions id → good id

section MentionsOnly
variable {good : String → Prop}

@[simp] theorem mentionsOnly_str (text : String) : (str text).MentionsOnly good := nofun

@[simp] theorem mentionsOnly_bool (b : Bool) : (bool b).MentionsOnly good := nofun

@[simp] theorem mentionsOnly_arr (items : List Json) :
    (arr items).MentionsOnly good ↔ ∀ value ∈ items, value.MentionsOnly good := by
  constructor
  · intro h value hvalue id hid
    exact h id (.item hvalue hid)
  · intro h id hid
    cases hid with
    | item hvalue hid => exact h _ hvalue id hid

@[simp] theorem mentionsOnly_obj (members : List (String × Json)) :
    (obj members).MentionsOnly good ↔ (∀ e ∈ members, e.2.MentionsOnly good) ∧
      (∀ id, ("Ref", str id) ∈ members → good id) ∧
      ∀ id rest, ("Fn::GetAtt", arr (str id :: rest)) ∈ members → good id := by
  constructor
  · intro h
    refine ⟨fun e he id hid => h id (.member he hid), fun id hmem => h id (.ref hmem), ?_⟩
    intro id rest hmem
    exact h id (.getAtt hmem)
  · rintro ⟨hvalues, hrefs, hatts⟩ id hid
    cases hid with
    | ref hmem => exact hrefs id hmem
    | getAtt hmem => exact hatts id _ hmem
    | member hmem hid => exact hvalues _ hmem id hid

theorem PointsTo.mentionsOnly {value : Json} {target : String} (h : value.PointsTo target)
    (htarget : good target) : value.MentionsOnly good := by
  rcases h with rfl | ⟨name, rfl⟩
  · simpa [refValue] using htarget
  · simpa using htarget

theorem mentionsOnly_importValues (texts : List String) :
    (arr (BuildScope.importValues texts)).MentionsOnly good := by
  rw [mentionsOnly_arr]
  intro value hvalue
  obtain ⟨text, _, rfl⟩ := List.mem_map.mp hvalue
  cases NameRef.ofText text <;> simp [NameRef.toJson, importValue]

theorem mentionsOnly_documentOf {statements : List Json}
    (h : ∀ statement ∈ statements, statement.MentionsOnly good) :
    (documentOf statements).MentionsOnly good := by
  simpa [documentOf] using h

theorem mentionsOnly_allowAssume (a : Account) (role : String) :
    (allowAssume a role).MentionsOnly good := by
  simp [allowAssume]

end MentionsOnly

theorem mem_sortedMembers {members : List (String × Json)} {e : String × Json}
    (h : e ∈ sortedMembers members) : ∃ value, (e.1, value) ∈ members ∧ sorted value = e.2 := by
  rw [sortedMembers_eq_map] at h
  obtain ⟨m, hm, rfl⟩ := List.mem_map.mp h
  exact ⟨m.2, hm, rfl⟩

theorem eq_str_of_sorted {value : Json} {text : String} (h : sorted value = .str text) :
    value = .str text := by
  cases value <;> simp_all [sorted, object]

theorem eq_arr_of_sorted {value : Json} {items : List Json} (h : sorted value = .arr items) :
    ∃ before, value = .arr before ∧ sortedItems before = items := by
  cases value <;> simp_all [sorted, object]

theorem eq_obj_of_sorted {value : Json} {members : List (String × Json)}
    (h : sorted value = .obj members) :
    ∃ before, value = .obj before ∧ ∀ e ∈ members, ∃ v, (e.1, v) ∈ before ∧ sorted v = e.2 := by
  cases value with
  | obj before =>
    obtain rfl := Json.obj.inj h
    exact ⟨before, rfl, fun e he => mem_sortedMembers (NameMap.mem_of_mem_ofList he)⟩
  | _ => cases h

/-- Sorting moves members, and drops some of those whose name comes again. -/
theorem Mentions.of_sorted {value value' : Json} {id : String} (h : value'.Mentions id)
    (heq : sorted value = value') : value.Mentions id := by
  -- The sorted value is what the reference stands in, so the induction is on the reference.
  induction h generalizing value with
  | ref hmem =>
    obtain ⟨before, rfl, hbefore⟩ := eq_obj_of_sorted heq
    obtain ⟨v, hv, hsorted⟩ := hbefore _ hmem
    rw [eq_str_of_sorted hsorted] at hv
    exact .ref hv
  | getAtt hmem =>
    obtain ⟨before, rfl, hbefore⟩ := eq_obj_of_sorted heq
    obtain ⟨v, hv, hsorted⟩ := hbefore _ hmem
    obtain ⟨items, rfl, hitems⟩ := eq_arr_of_sorted hsorted
    cases items with
    | nil => cases hitems
    | cons x items =>
      obtain ⟨hx, _⟩ := List.cons.inj hitems
      rw [eq_str_of_sorted hx] at hv
      exact .getAtt hv
  | item hmem _ ih =>
    obtain ⟨items, rfl, rfl⟩ := eq_arr_of_sorted heq
    rw [sortedItems_eq_map] at hmem
    obtain ⟨v, hv, hsorted⟩ := List.mem_map.mp hmem
    exact .item hv (ih hsorted)
  | member hmem _ ih =>
    obtain ⟨before, rfl, hbefore⟩ := eq_obj_of_sorted heq
    obtain ⟨v, hv, hsorted⟩ := hbefore _ hmem
    exact .member hv (ih hsorted)

theorem MentionsOnly.sorted {value : Json} {good : String → Prop} (h : value.MentionsOnly good) :
    value.sorted.MentionsOnly good := fun id hid => h id (hid.of_sorted rfl)

end Json

theorem Registry.Grants.mentionsOnly {r : Registry} {t : Trust} {s : Statement} (h : r.Grants t s)
    (good : String → Prop) : s.toJson.MentionsOnly good := by
  cases h with
  | account => simp [Statement.toJson, Principal.toJson]
  | service => simp [Statement.toJson, Principal.toJson]
  | saml =>
    simp [Statement.toJson, Principal.toJson, Condition.toJson, NameMap.ofList, NameMap.insert,
      NameMap.empty]

theorem Registry.mentionsOnly_trustDocument {r : Registry} {tokens : List String}
    {d : PolicyDocument} (h : r.trustDocument tokens = .ok d) (good : String → Prop) :
    d.toJson.sorted.MentionsOnly good := by
  obtain ⟨_, granted, _, hstatements⟩ := documents_of_trustDocument h
  apply Json.MentionsOnly.sorted
  simp only [PolicyDocument.toJson, Json.mentionsOnly_obj]
  refine ⟨?_, by simp, by simp⟩
  simp only [List.forall_mem_cons, Json.mentionsOnly_str, Json.mentionsOnly_arr, true_and]
  refine ⟨fun value hvalue => ?_, by simp⟩
  obtain ⟨s, hs, rfl⟩ := List.mem_map.mp hvalue
  obtain ⟨t, _, ht⟩ := exists_left_of_forall₂ hstatements hs
  exact ht.mentionsOnly good

def Resource.All (P : String → Json → Prop) (r : Resource) : Prop :=
  ∀ key value, r.properties.get? key = some value → P key value

namespace Resource.All
variable {P : String → Json → Prop} {r : Resource} {key : String}

theorem bare (h : r.properties = .empty) : r.All P := by
  intro other v hget
  rw [h] at hget
  cases hget

theorem property {value : Json} (h : r.All P) (hv : P key value) :
    (r.property key value).All P := by
  intro other v hget
  rw [get?_property] at hget
  split at hget
  · rename_i hkey
    subst hkey
    cases hget
    exact hv
  · exact h other v hget

theorem optional {value : Option Json} (h : r.All P) (hv : ∀ v, value = some v → P key v) :
    (r.optional key value).All P := by
  cases value with
  | none => exact h
  | some v => exact h.property (hv v rfl)

theorem named {setting : Bool} {name : String} (h : r.All P) (hv : P key (.str name)) :
    (r.optional key (BuildScope.named setting name)).All P := by
  apply h.optional
  intro v hsome
  unfold BuildScope.named at hsome
  split at hsome
  · cases hsome
    exact hv
  · cases hsome

theorem listProperty {values : List Json} (h : r.All P) (hv : P key (.arr values)) :
    (r.listProperty key values).All P := by
  unfold Resource.listProperty
  split
  · exact h
  · exact h.property hv

theorem withOutput {s : BuildScope} (h : r.All P) (o : Output) : (s.withOutput r o).All P := by
  intro other v hget
  rw [BuildScope.properties_withOutput] at hget
  exact h other v hget

end Resource.All

def Config.Renders (c : Config) (r : Registry) (source : PolicySource) (a : Account)
    (document : Json) : Prop :=
  ∃ file, c.UsesFile r a file ∧ file.document source c a r.parent = .ok document

/-- A property that refers to the ids of the account only, unless a policy file gave it. -/
def Config.Writes (c : Config) (r : Registry) (source : PolicySource) (a : Account) (key : String)
    (value : Json) : Prop :=
  key = "PolicyDocument" ∧ c.Renders r source a value ∨ value.MentionsOnly (c.Spells r a.name)

namespace BuildScope
variable {c : Config} {r : Registry} {source : PolicySource} {a : Account} {x : Resource}

theorem mentionsOnly_managedPolicies {references : List String} {entity : String}
    {policies : List Json}
    (h : (of c r source).managedPolicies references a entity = .ok policies) :
    (Json.arr policies).MentionsOnly (c.Spells r a.name) := by
  obtain ⟨resolved, hresolved, rfl⟩ := map_eq_ok_iff.mp h
  rw [Json.mentionsOnly_arr]
  intro value hvalue
  obtain ⟨m, hm, rfl⟩ := List.mem_map.mp hvalue
  obtain ⟨reference, _, href⟩ := exists_of_mem_mapM hresolved hm
  cases m with
  | literal arn => simp [ManagedPolicy.toJson]
  | imported key => simp [ManagedPolicy.toJson, importValue]
  | localRef name =>
    obtain ⟨p, hp, hinline, hplaced⟩ := Placements.resolve_localRef href
    simpa [ManagedPolicy.toJson, refValue] using Config.Spells.policy hp hinline hplaced

theorem Makes.spells (h : (of c r source).Makes a x) : c.Spells r a.name x.logicalId := by
  have hid {y : Resource} {z : Resource.Header} (hy : y.header = z)
      (hz : c.Spells r a.name z.logicalId) : c.Spells r a.name y.logicalId := by
    rw [show y.logicalId = z.logicalId from congrArg Resource.Header.logicalId hy]
    exact hz
  have hlegal (k : ResourceKind) (hk : k ≠ .managedPolicy) (name : String) :
      c.Spells r a.name (Text.scrub (name ++ k.suffix)) :=
    .legal (ResourceKind.isLogicalId_scrub hk name)
  cases h with
  | filePolicy hp hplaced hbody =>
    exact hid (header_policyResource ..)
      (.policy hp (PolicyConfig.not_inline_of_file hbody) hplaced)
  | assumePolicy hp hplaced hbody =>
    exact hid (header_policyResource ..)
      (.policy hp (PolicyConfig.not_inline_of_assume hbody) hplaced)
  | role => exact hid (header_roleResource ..) (hlegal .role (by decide) _)
  | profile => exact hid (header_profileResource ..) (hlegal .instanceProfile (by decide) _)
  | group => exact hid (header_groupResource ..) (hlegal .group (by decide) _)
  | expandedGroup => exact hid (header_groupResource ..) (hlegal .group (by decide) _)
  | user => exact hid (header_userResource ..) (hlegal .user (by decide) _)
  | bucket => exact hid (header_bucketResource ..) (hlegal .bucket (by decide) _)
  | bucketPolicy =>
    exact hid (header_bucketPolicyResource ..) (hlegal .bucketPolicy (by decide) _)
  | trail => exact hid (header_trailResource ..) (hlegal .trail (by decide) _)

theorem all_policyResource {name : String} {p : PolicyConfig} {document : Json}
    (h : c.Writes r source a "PolicyDocument" document) :
    ((of c r source).policyResource a name p document).All (c.Writes r source a) := by
  unfold policyResource
  refine .withOutput ?_ _
  refine .named ?_ (.inr (by simp))
  refine .listProperty ?_ (.inr (Json.mentionsOnly_importValues _))
  refine .listProperty ?_ (.inr (Json.mentionsOnly_importValues _))
  refine .listProperty ?_ (.inr (Json.mentionsOnly_importValues _))
  refine .property ?_ h
  refine .property ?_ (.inr (by simp))
  exact .bare rfl

theorem all_groupResource {name : String} {g : GroupConfig} {inline policies : List Json}
    (hinline : (Json.arr inline).MentionsOnly (c.Spells r a.name))
    (hpolicies : (Json.arr policies).MentionsOnly (c.Spells r a.name)) :
    ((of c r source).groupResource a name g inline policies).All (c.Writes r source a) := by
  unfold groupResource
  refine .withOutput ?_ _
  refine .named ?_ (.inr (by simp))
  refine .listProperty ?_ (.inr hinline)
  refine .listProperty ?_ (.inr hpolicies)
  refine .property ?_ (.inr (by simp))
  exact .bare rfl

theorem mentionsOnly_assumeDocument {assume : AssumeConfig} {d : PolicyDocument}
    (h : (of c r source).assumeDocument assume = .ok d) (good : String → Prop) :
    d.toJson.sorted.MentionsOnly good := by
  obtain ⟨accounts, _, hdocument⟩ := statements_of_assumeDocument h
  rw [hdocument]
  refine Json.mentionsOnly_documentOf fun statement hmem => ?_
  obtain ⟨role, _, hmem⟩ := List.mem_flatMap.mp hmem
  obtain ⟨b, _, rfl⟩ := List.mem_map.mp hmem
  exact Json.mentionsOnly_allowAssume b role

theorem mentionsOnly_inlinePolicy (child : Account) (role : String) (good : String → Prop) :
    (inlinePolicy child role).MentionsOnly good := by
  rw [inlinePolicy_eq]
  simp [Json.groupPolicy, Json.documentOf, Json.allowAssume]

theorem mentionsOnly_refValue {k : ResourceKind} (hk : k ≠ .managedPolicy) (name : String) :
    (refValue (Text.scrub (name ++ k.suffix))).MentionsOnly (c.Spells r a.name) := by
  have hid : c.Spells r a.name (Text.scrub (name ++ k.suffix)) :=
    .legal (ResourceKind.isLogicalId_scrub hk name)
  simpa [refValue] using hid

theorem all_roleResource {name : String} {role : RoleConfig} {trust : PolicyDocument}
    {policies : List Json} (htrust : r.trustDocument role.trusts = .ok trust)
    (hpolicies : (Json.arr policies).MentionsOnly (c.Spells r a.name)) :
    ((of c r source).roleResource a name role trust policies).All (c.Writes r source a) := by
  unfold roleResource
  refine .withOutput ?_ _
  refine .named ?_ (.inr (by simp))
  refine .listProperty ?_ (.inr hpolicies)
  refine .property ?_ (.inr (Registry.mentionsOnly_trustDocument htrust _))
  refine .property ?_ (.inr (by simp))
  exact .bare rfl

theorem all_profileResource (name : String) (role : RoleConfig) :
    ((of c r source).profileResource a name role).All (c.Writes r source a) := by
  have hrole : (refValue (Text.scrub (name ++ "Role"))).MentionsOnly (c.Spells r a.name) :=
    mentionsOnly_refValue (k := .role) (by decide) name
  unfold profileResource
  refine .withOutput ?_ _
  refine .named ?_ (.inr (by simp))
  refine .property ?_ (.inr (by simpa using hrole))
  refine .property ?_ (.inr (by simp))
  exact .bare rfl

theorem all_userResource {name : String} {u : UserConfig} {policies : List Json}
    (hpolicies : (Json.arr policies).MentionsOnly (c.Spells r a.name)) :
    ((of c r source).userResource a name u policies).All (c.Writes r source a) := by
  unfold userResource
  refine .withOutput ?_ _
  refine .named ?_ (.inr (by simp))
  refine .optional ?_ fun v hv => ?_
  · refine .listProperty ?_ (.inr hpolicies)
    refine .listProperty ?_ (.inr (Json.mentionsOnly_importValues _))
    refine .property ?_ (.inr (by simp))
    exact .bare rfl
  · obtain ⟨password, _, rfl⟩ := Option.map_eq_some_iff.mp hv
    exact .inr (by simp [loginProfile])

theorem all_bucketResource (name : String) (b : BucketConfig) :
    ((of c r source).bucketResource a name b).All (c.Writes r source a) := by
  unfold bucketResource
  refine .withOutput ?_ _
  refine .named ?_ (.inr (by simp))
  exact .bare rfl

theorem all_bucketPolicyResource {name : String} {document : Json}
    (h : c.Writes r source a "PolicyDocument" document) :
    (bucketPolicyResource a name document).All (c.Writes r source a) := by
  unfold bucketPolicyResource
  refine .property ?_ h
  refine .property ?_ (.inr (mentionsOnly_refValue (k := .bucket) (by decide) name))
  exact .bare rfl

theorem all_trailResource (name : String) (t : TrailConfig) :
    ((of c r source).trailResource a name t).All (c.Writes r source a) := by
  have hbool {b : Option Bool} {v : Json} (hv : b.map Json.bool = some v) :
      v.MentionsOnly (c.Spells r a.name) := by
    obtain ⟨b, _, rfl⟩ := Option.map_eq_some_iff.mp hv
    exact Json.mentionsOnly_bool b
  unfold trailResource
  refine .withOutput ?_ _
  refine .named ?_ (.inr (by simp))
  refine .optional ?_ fun v hv => .inr ?_
  · refine .optional ?_ fun v hv => .inr (hbool hv)
    refine .optional ?_ fun v hv => .inr (hbool hv)
    refine .property ?_ (.inr (by simp))
    exact .bare rfl
  · obtain ⟨bucket, _, rfl⟩ := Option.map_eq_some_iff.mp hv
    exact Json.mentionsOnly_str bucket

theorem Makes.writes (h : (of c r source).Makes a x) : x.All (c.Writes r source a) := by
  cases h with
  | filePolicy hp hplaced hbody hd =>
    exact all_policyResource (.inl ⟨rfl, _, .policy hp hplaced hbody, hd⟩)
  | assumePolicy _ _ _ hd => exact all_policyResource (.inr (mentionsOnly_assumeDocument hd _))
  | role _ _ htrust hpolicies =>
    exact all_roleResource htrust (mentionsOnly_managedPolicies hpolicies)
  | profile => exact all_profileResource _ _
  | group _ _ _ hpolicies =>
    exact all_groupResource (by simp) (mentionsOnly_managedPolicies hpolicies)
  | @expandedGroup _ _ _ child role _ _ _ _ _ _ hpolicies =>
    have hinline := mentionsOnly_inlinePolicy child role (c.Spells r a.name)
    exact all_groupResource (by simpa using hinline) (mentionsOnly_managedPolicies hpolicies)
  | user _ _ hpolicies => exact all_userResource (mentionsOnly_managedPolicies hpolicies)
  | bucket => exact all_bucketResource _ _
  | @bucketPolicy _ _ p _ hb hplaced hp hd =>
    exact all_bucketPolicyResource (.inl ⟨rfl, p.file, .bucketPolicy hb hplaced hp, hd⟩)
  | trail => exact all_trailResource _ _

end BuildScope

theorem Output.mentionsOnly_toJson {o : Output} {good : String → Prop}
    (h : o.value.MentionsOnly good) : o.toJson.MentionsOnly good := by
  simpa [toJson, exportName] using h

/-- An id that stands somewhere in a template, but for the documents that were given to it. -/
inductive Template.UsesId (t : Template) (given : Json → Prop) : String → Prop where
  | resource {id : String} {resource : Json} :
      t.resources.get? id = some resource → UsesId t given id
  | output {key : String} {output : Json} :
      t.outputs.get? key = some output → UsesId t given key
  | dependsOn {id target : String} {resource : Json} : t.resources.get? id = some resource →
      resource.get? "DependsOn" = some (.str target) → UsesId t given target
  | property {id key target : String} {resource value : Json} :
      t.resources.get? id = some resource → resource.property? key = some value →
      (key = "PolicyDocument" → ¬ given value) → value.Mentions target → UsesId t given target
  | outputValue {key target : String} {output : Json} :
      t.outputs.get? key = some output → output.Mentions target → UsesId t given target

namespace Config.Compiled
variable {c : Config} {source : PolicySource} {version : String} {r : Registry} {set : TemplateSet}
variable {a : Account} {t : Template}

theorem isLogicalId_of_output (h : c.Compiled source version r set) (ha : a ∈ r.toList)
    (ht : set.get? a.name = some t) {key : String} {output : Json}
    (hget : t.outputs.get? key = some output) : Text.IsLogicalId key := by
  obtain rfl := Option.some.inj ((h.get? ha).symm.trans ht)
  rcases Template.get?_outputs_insertAll hget with ⟨x, hx, o, ho, rfl, _⟩ | hbuild
  · have hmakes := h.makes ha hx
    obtain ⟨suffix, hsuffix, hid⟩ := (hmakes.output ho).logicalId
    rw [hid]
    exact Text.isLogicalId_append hmakes.spells.isAlphanum
      (ResourceKind.isLogicalId_outputSuffix hsuffix)
  · change (NameMap.empty.insert "TemplateBuild" _).get? key = _ at hbuild
    rw [NameMap.get?_insert] at hbuild
    split at hbuild
    · rename_i hkey
      subst hkey
      decide
    · cases hbuild

theorem spells_of_usesId (h : c.Compiled source version r set) (ha : a ∈ r.toList)
    (ht : set.get? a.name = some t) {id : String} (hid : t.UsesId (c.Renders r source a) id) :
    c.Spells r a.name id := by
  cases hid with
  | resource hget =>
    have hentry := (h.entries_perm ha ht).mem_iff.mp (NameMap.mem_entries_iff.mpr hget)
    obtain ⟨x, hx, heq⟩ := List.mem_map.mp hentry
    obtain ⟨rfl, _⟩ := Prod.mk.inj heq
    exact (h.makes ha hx).spells
  | output hget => exact .legal (h.isLogicalId_of_output ha ht hget)
  | dependsOn hget hdepends =>
    obtain ⟨x, hx, rfl⟩ := h.makes_of_get? ha ht hget
    rw [Resource.get?_dependsOn_toJson] at hdepends
    obtain ⟨target, htarget, heq⟩ := Option.map_eq_some_iff.mp hdepends
    cases heq
    obtain ⟨_, _, bucket, _, _, _, _, rfl⟩ := hx.dependsOn htarget
    exact .legal (ResourceKind.isLogicalId_scrub (k := .bucket) (by decide) bucket)
  | property hget hproperty hgiven hmentions =>
    obtain ⟨x, hx, rfl⟩ := h.makes_of_get? ha ht hget
    rw [Resource.property?_toJson] at hproperty
    rcases hx.writes _ _ hproperty with ⟨hkey, hrenders⟩ | honly
    · exact absurd hrenders (hgiven hkey)
    · exact honly _ hmentions
  | outputValue hget hmentions =>
    rcases h.makes_of_get?_output ha ht hget with ⟨x, o, hx, _, ho, rfl⟩ | rfl
    · have hvalue := (hx.output ho).value.mentionsOnly hx.spells
      exact Output.mentionsOnly_toJson hvalue _ hmentions
    · have hvalue : (Template.buildOutput version).toJson.MentionsOnly (c.Spells r a.name) :=
        Output.mentionsOnly_toJson (Json.mentionsOnly_str version)
      exact hvalue _ hmentions

end Config.Compiled

/-- Every id in a template consists of ASCII letters and digits, and the ids of outputs have at
least one. All ids are legal exactly when each policy of the account that has a resource has a
letter or digit in its name. -/
theorem compile_spells_ids {c : Config} {source : PolicySource} {version : String}
    {done : Compilation} (h : c.compile source version = .ok done) {a : Account}
    (ha : a ∈ done.registry.toList) :
    ∃ t, done.templates.get? a.name = some t ∧
      (∀ id, t.UsesId (c.Renders done.registry source a) id →
        ∀ ch ∈ id.toList, ch.isAlphanum = true) ∧
      (∀ key output, t.outputs.get? key = some output → Text.IsLogicalId key) ∧
      ((∀ id, t.UsesId (c.Renders done.registry source a) id → Text.IsLogicalId id) ↔
        ∀ name p, c.policies.get? name = some p → p.inline = false →
          done.registry.places p a.name = true → Text.scrub name ≠ "") := by
  have hdone := Config.compiled_of_compile h
  obtain ⟨t, ht⟩ : ∃ t, done.templates.get? a.name = some t := ⟨_, hdone.get? ha⟩
  refine ⟨t, ht, fun id hid => (hdone.spells_of_usesId ha ht hid).isAlphanum,
    fun key output => hdone.isLogicalId_of_output ha ht, ?_⟩
  constructor
  · intro hlegal name p hp hinline hplaced
    obtain ⟨resource, hget, _⟩ := hdone.has_policy ha ht hp hinline hplaced
    exact (hlegal _ (.resource hget)).1
  · intro hnames id hid
    cases hdone.spells_of_usesId ha ht hid with
    | legal hlegal => exact hlegal
    | policy hp hinline hplaced =>
      exact ⟨hnames _ _ hp hinline hplaced, fun _ => Text.isAlphanum_of_mem_scrub⟩

theorem orgOfLogs_spells :
    ∃ done t, orgOfLogs.compile textOfLogs "1" = .ok done ∧
      done.templates.get? "root" = some t ∧
      ∀ id, t.UsesId (orgOfLogs.Renders done.registry textOfLogs ⟨"root", "1", true, none⟩) id →
        Text.IsLogicalId id := by
  obtain ⟨done, hdone, hroot⟩ : ∃ done, orgOfLogs.compile textOfLogs "1" = .ok done ∧
      ⟨"root", "1", true, none⟩ ∈ done.registry.toList := ⟨_, rfl, by decide⟩
  obtain ⟨t, ht, _, _, hlegal⟩ := compile_spells_ids hdone hroot
  refine ⟨done, t, hdone, ht, hlegal.mpr ?_⟩
  intro name p hp _ _
  obtain ⟨rfl, _⟩ : "read-only" = name ∧ _ = p := by
    simpa [orgOfLogs, NameMap.get?_insert] using hp
  decide

def orgOfHyphens : Config where
  accounts := NameMap.empty.insert "root" { id := "1", parent := true }
  policies := NameMap.empty.insert "--"
    { inAccounts := some ["all"], assume := some ⟨["all"], ["admin"]⟩ }

theorem orgOfHyphens_uses_empty_id :
    ∃ done t, orgOfHyphens.compile (.ofTexts .empty) "1" = .ok done ∧
      done.templates.get? "root" = some t ∧
      t.UsesId (orgOfHyphens.Renders done.registry (.ofTexts .empty) ⟨"root", "1", true, none⟩)
        "" ∧
      ¬ Text.IsLogicalId "" := by
  obtain ⟨done, t, resource, hdone, ht, hget⟩ :
      ∃ done t resource, orgOfHyphens.compile (.ofTexts .empty) "1" = .ok done ∧
        done.templates.get? "root" = some t ∧ t.resources.get? "" = some resource :=
    ⟨_, _, _, rfl, rfl, rfl⟩
  exact ⟨done, t, hdone, ht, .resource hget, by decide⟩

end OrgStacks
