import OrgStacks.Proofs.Exports
import OrgStacks.Proofs.Isolation

/-!
# What the global settings change

The settings say which resources carry a physical name and whether there are outputs. Two scopes
that differ in them take the same steps, alike but for names and outputs (`BuildScope.alike_steps`),
and the steps stop at the same problem, because a resource is only ever refused for its own id
(`Stores.run_stop_eq`). By `settings_only_name_and_export` that is all that compiling under other
settings changes.
-/

namespace OrgStacks
set_option autoImplicit false

/-- The properties with a physical name, one for each kind of resource that may have one. -/
def physicalNames : List String :=
  ["ManagedPolicyName", "RoleName", "InstanceProfileName", "GroupName", "UserName", "BucketName",
    "TrailName"]

namespace Resource

/-- The resources are the same but for physical names and outputs, and names on both sides are the
same too. -/
structure Alike (x x' : Resource) : Prop where
  header : x.header = x'.header
  plain : ∀ key, key ∉ physicalNames → x.properties.get? key = x'.properties.get? key
  named : ∀ key value value', x.properties.get? key = some value →
    x'.properties.get? key = some value' → value = value'

theorem Alike.refl (x : Resource) : x.Alike x :=
  ⟨rfl, fun _ _ => rfl, fun _ _ _ h h' => Option.some.inj (h.symm.trans h')⟩

theorem Alike.account {x x' : Resource} (h : x.Alike x') : x.account = x'.account :=
  congrArg Header.account h.header

theorem Alike.logicalId {x x' : Resource} (h : x.Alike x') : x.logicalId = x'.logicalId :=
  congrArg Header.logicalId h.header

theorem logicalIds_eq {xs xs' : List Resource} (h : List.Forall₂ Alike xs xs') :
    xs.map logicalId = xs'.map logicalId := by
  induction h with
  | nil => rfl
  | cons hx _ ih => rw [List.map_cons, List.map_cons, hx.logicalId, ih]

end Resource

namespace BuildScope
variable {s : BuildScope}

def withGlobal (s : BuildScope) (g : GlobalConfig) : BuildScope :=
  { s with config := { s.config with global := g } }

theorem alike_named {s' : BuildScope} (base : Resource) {key : String}
    (hkey : key ∈ physicalNames) (hbase : base.properties.get? key = none) (setting setting' : Bool)
    (name : String) (o : Output) :
    (s.withOutput (base.optional key (named setting name)) o).Alike
      (s'.withOutput (base.optional key (named setting' name)) o) := by
  constructor
  case header => simp
  case plain =>
    intro other hother
    have hne : key ≠ other := fun h => hother (h ▸ hkey)
    simp [hne]
  case named =>
    intro other value value' h h'
    rw [properties_withOutput, Resource.get?_optional] at h h'
    by_cases hother : key = other
    · subst hother
      rw [if_pos rfl, hbase, Option.or_none] at h h'
      unfold BuildScope.named at h h'
      split at h
      · split at h'
        · exact Option.some.inj (h.symm.trans h')
        · cases h'
      · cases h
    · rw [if_neg hother] at h h'
      exact Option.some.inj (h.symm.trans h')

section Resources
variable {a : Account} {name : String} (g : GlobalConfig)

theorem alike_policyResource (p : PolicyConfig) (document : Json) :
    (s.policyResource a name p document).Alike
      ((s.withGlobal g).policyResource a name p document) := by
  unfold policyResource
  exact alike_named _ (by decide) (by simp) _ _ name _

theorem alike_roleResource (r : RoleConfig) (trust : PolicyDocument) (policies : List Json) :
    (s.roleResource a name r trust policies).Alike
      ((s.withGlobal g).roleResource a name r trust policies) := by
  unfold roleResource
  exact alike_named _ (by decide) (by simp) _ _ name _

theorem alike_profileResource (r : RoleConfig) :
    (s.profileResource a name r).Alike ((s.withGlobal g).profileResource a name r) := by
  unfold profileResource
  exact alike_named _ (by decide) (by simp) _ _ name _

theorem alike_groupResource (group : GroupConfig) (inline policies : List Json) :
    (s.groupResource a name group inline policies).Alike
      ((s.withGlobal g).groupResource a name group inline policies) := by
  unfold groupResource
  exact alike_named _ (by decide) (by simp) _ _ name _

theorem alike_userResource (u : UserConfig) (policies : List Json) :
    (s.userResource a name u policies).Alike
      ((s.withGlobal g).userResource a name u policies) := by
  unfold userResource
  exact alike_named _ (by decide) (by simp) _ _ name _

theorem alike_bucketResource (b : BucketConfig) :
    (s.bucketResource a name b).Alike ((s.withGlobal g).bucketResource a name b) := by
  unfold bucketResource
  exact alike_named _ (by decide) (by simp) _ _ name _

theorem alike_trailResource (t : TrailConfig) :
    (s.trailResource a name t).Alike ((s.withGlobal g).trailResource a name t) := by
  unfold trailResource
  exact alike_named _ (by decide) (by simp) _ _ name _

end Resources

end BuildScope

inductive StepAlike : Except Problem Resource → Except Problem Resource → Prop where
  | error (e : Problem) : StepAlike (.error e) (.error e)
  | ok {x x' : Resource} : x.Alike x' → StepAlike (.ok x) (.ok x')

theorem StepAlike.map {α : Type} {f f' : α → Resource} (h : ∀ a, (f a).Alike (f' a))
    (value : Except Problem α) : StepAlike (value.map f) (value.map f') := by
  cases value with
  | error e => exact .error e
  | ok a => exact .ok (h a)

def Steps.Alike : Steps → Steps → Prop := List.Forall₂ StepAlike

namespace Steps.Alike

theorem append {xs xs' ys ys' : Steps} (hx : xs.Alike xs') (hy : ys.Alike ys') :
    Steps.Alike (xs ++ ys) (xs' ++ ys') := List.rel_append hx hy

theorem flatMap {α : Type} {l : List α} {f f' : α → Steps}
    (h : ∀ a ∈ l, (f a).Alike (f' a)) : Steps.Alike (l.flatMap f) (l.flatMap f') := by
  induction l with
  | nil => exact .nil
  | cons a l ih =>
    rw [List.flatMap_cons, List.flatMap_cons]
    exact (h a List.mem_cons_self).append (ih fun b hb => h b (List.mem_cons_of_mem a hb))

theorem mapOn {α : Type} {l : List α} {f f' : α → Except Problem Resource}
    (h : ∀ a ∈ l, StepAlike (f a) (f' a)) : Steps.Alike (l.map f) (l.map f') :=
  List.forall₂_map_left_iff.mpr (List.forall₂_map_right_iff.mpr (List.forall₂_same.mpr h))

theorem given {α : Type} {value : Except Problem α} {f f' : α → Steps}
    (h : ∀ a, value = .ok a → (f a).Alike (f' a)) :
    Steps.Alike (BuildScope.given value f) (BuildScope.given value f') := by
  cases value with
  | error e => exact .cons (.error e) .nil
  | ok a => exact h a rfl

theorem resourcesFor {xs xs' : Steps} (h : xs.Alike xs') (account : String) :
    List.Forall₂ Resource.Alike (xs.resourcesFor account) (xs'.resourcesFor account) := by
  induction h with
  | nil => exact .nil
  | cons hx _ ih =>
    cases hx with
    | error e => exact ih
    | ok hx =>
      rw [resourcesFor_cons_ok, resourcesFor_cons_ok, ← hx.account]
      split
      · exact .cons hx ih
      · exact ih

end Steps.Alike

namespace BuildScope
variable {s : BuildScope} {a : Account} {name : String} (g : GlobalConfig)

theorem alike_policySteps {p : PolicyConfig} (hdocument : ∀ file, p.body name = .ok (.file file) →
      s.document file a = (s.withGlobal g).document file a) :
    (s.policySteps a name p).Alike ((s.withGlobal g).policySteps a name p) := by
  unfold policySteps
  apply Steps.Alike.given
  intro body hbody
  cases body with
  | inline => exact .nil
  | file file =>
    refine .cons ?_ .nil
    rw [← hdocument file hbody]
    exact StepAlike.map (alike_policyResource g p) _
  | assume assume =>
    exact .cons (StepAlike.map (fun _ => alike_policyResource g p _) _) .nil

theorem alike_roleSteps (r : RoleConfig) :
    (s.roleSteps a name r).Alike ((s.withGlobal g).roleSteps a name r) := by
  unfold roleSteps
  apply Steps.Alike.given
  intro trust _
  apply Steps.Alike.given
  intro policies _
  refine .cons (.ok (alike_roleResource g r trust policies)) ?_
  split
  · exact .cons (.ok (alike_profileResource g r)) .nil
  · exact .nil

theorem alike_groupSteps (group : GroupConfig) :
    (s.groupSteps a name group).Alike ((s.withGlobal g).groupSteps a name group) := by
  have hstep (n : String) (inline : List Json) :
      StepAlike (s.groupStep a n group inline) ((s.withGlobal g).groupStep a n group inline) :=
    StepAlike.map (alike_groupResource g group inline) _
  unfold groupSteps
  split
  · exact .cons (hstep name []) .nil
  · apply Steps.Alike.flatMap
    intro child _
    apply Steps.Alike.mapOn
    intro role _
    exact hstep (expandedName child role) [inlinePolicy child role]

theorem alike_userSteps (u : UserConfig) :
    (s.userSteps a name u).Alike ((s.withGlobal g).userSteps a name u) :=
  .cons (StepAlike.map (alike_userResource g u) _) .nil

theorem alike_bucketSteps {b : BucketConfig} (hdocument : ∀ p, b.bucketPolicy = some p →
      s.document p.file a = (s.withGlobal g).document p.file a) :
    (s.bucketSteps a name b).Alike ((s.withGlobal g).bucketSteps a name b) := by
  unfold bucketSteps
  refine .cons (.ok (alike_bucketResource g b)) ?_
  cases hpolicy : b.bucketPolicy with
  | none => exact .nil
  | some p =>
    refine .cons ?_ .nil
    rw [← hdocument p hpolicy]
    exact StepAlike.map (fun document => .refl (bucketPolicyResource a name document)) _

theorem alike_trailSteps (t : TrailConfig) :
    (s.trailSteps a name t).Alike ((s.withGlobal g).trailSteps a name t) :=
  .cons (.ok (alike_trailResource g t)) .nil

theorem alike_allSteps {α : Type} [Entity α] (hr : s.registry.Sound)
    {steps steps' : Account → String → α → Steps} {entities : NameMap α}
    (h : ∀ name entity, entities.get? name = some entity → ∀ a ∈ s.registry.toList,
      s.registry.places entity a.name = true → (steps a name entity).Alike (steps' a name entity)) :
    (s.allSteps steps entities).Alike ((s.withGlobal g).allSteps steps' entities) := by
  unfold allSteps entitySteps
  apply Steps.Alike.flatMap
  rintro ⟨name, entity⟩ hentry
  apply Steps.Alike.given
  intro accounts hselect
  apply Steps.Alike.flatMap
  intro account haccount
  apply Steps.Alike.given
  intro a ha
  have hget := Registry.account_eq_ok_iff.mp ha
  obtain rfl := hr.name_eq hget
  exact h name entity (NameMap.mem_entries_iff.mp hentry) a (hr.mem_toList_iff.mpr hget)
    ((Registry.places_of_select hselect).mpr (NameSet.mem_toList.mp haccount))

theorem alike_steps (hr : s.registry.Sound)
    (hdocument : ∀ a ∈ s.registry.toList, ∀ file, s.config.UsesFile s.registry a file →
      s.document file a = (s.withGlobal g).document file a) (kind : EntityKind) :
    (s.steps kind).Alike ((s.withGlobal g).steps kind) := by
  cases kind with
  | policy =>
    apply alike_allSteps g hr
    intro name p hget a ha hplaced
    exact alike_policySteps g fun file hbody => hdocument a ha file (.policy hget hplaced hbody)
  | role => exact alike_allSteps g hr fun _ r _ _ _ _ => alike_roleSteps g r
  | group => exact alike_allSteps g hr fun _ group _ _ _ _ => alike_groupSteps g group
  | user => exact alike_allSteps g hr fun _ u _ _ _ _ => alike_userSteps g u
  | bucket =>
    apply alike_allSteps g hr
    intro name b hget a ha hplaced
    exact alike_bucketSteps g fun p hp => hdocument a ha p.file (.bucketPolicy hget hplaced hp)
  | trail => exact alike_allSteps g hr fun _ t _ _ _ _ => alike_trailSteps g t

theorem alike_allKinds (hr : s.registry.Sound)
    (hdocument : ∀ a ∈ s.registry.toList, ∀ file, s.config.UsesFile s.registry a file →
      s.document file a = (s.withGlobal g).document file a) :
    s.allKinds.Alike (s.withGlobal g).allKinds :=
  Steps.Alike.flatMap fun kind _ => alike_steps g hr hdocument kind

end BuildScope

/-- Only its own id keeps a resource out of a template. -/
theorem BuildScope.Makes.clash?_eq {s : BuildScope} {a : Account} {x : Resource}
    (hx : s.Makes a x) (version : String) {rs : List Resource} (hrs : ∀ y ∈ rs, s.Makes a y) :
    ((Template.ofAccount a version).insertAll rs).clash? x =
      if x.logicalId ∈ rs.map Resource.logicalId then some x.logicalId else none := by
  cases hclash : ((Template.ofAccount a version).insertAll rs).clash? x with
  | some id =>
    obtain ⟨rfl, htaken⟩ := hx.taken hrs hclash
    rw [if_pos htaken]
  | none =>
    have hfree := (Template.clash?_eq_none_iff.mp hclash).1
    rw [if_neg]
    intro htaken
    obtain ⟨y, hy, hid⟩ := List.mem_map.mp htaken
    rw [Template.contains_resources_insertAll.mpr (Or.inl ⟨y, hy, hid⟩)] at hfree
    cases hfree

/-- For every account both sets hold resources that were made for it, under the same ids. -/
def Matched (s s' : BuildScope) (r : Registry) (version : String) (set set' : TemplateSet) : Prop :=
  ∀ a ∈ r.toList, ∃ rs rs', (∀ y ∈ rs, s.Makes a y) ∧ (∀ y ∈ rs', s'.Makes a y) ∧
    rs.map Resource.logicalId = rs'.map Resource.logicalId ∧
    set.get? a.name = some ((Template.ofAccount a version).insertAll rs) ∧
    set'.get? a.name = some ((Template.ofAccount a version).insertAll rs')

namespace Matched
variable {s s' : BuildScope} {r : Registry} {version : String} {set set' : TemplateSet}

theorem ofRegistry (hr : r.Sound) (version : String) :
    Matched s s' r version (.ofRegistry r version) (.ofRegistry r version) := by
  intro a ha
  have hget : (TemplateSet.ofRegistry r version).get? a.name =
      some (Template.ofAccount a version) := by
    have hrun : (TemplateSet.ofRegistry r version).run [] = (.ofRegistry r version, none) := rfl
    exact TemplateSet.get?_of_run hr hrun ha
  exact ⟨[], [], nofun, nofun, rfl, hget, hget⟩

theorem emit (h : Matched s s' r version set set') (hr : r.Sound) {a : Account}
    (ha : a ∈ r.toList) {x x' : Resource} (hx : s.Makes a x) (hx' : s'.Makes a x')
    (hid : x.logicalId = x'.logicalId) :
    (∃ e, set.emit x = .error e ∧ set'.emit x' = .error e) ∨
      ∃ u u' handle handle', set.emit x = .ok (u, handle) ∧ set'.emit x' = .ok (u', handle') ∧
        Matched s s' r version u u' := by
  obtain ⟨rs, rs', hrs, hrs', hids, hget, hget'⟩ := h a ha
  have hclash := hx.clash?_eq version hrs
  have hclash' := hx'.clash?_eq version hrs'
  -- The ids taken so far are the same on both sides, outputs or not.
  rw [← hids, ← hid] at hclash'
  unfold TemplateSet.emit Template.add
  rw [hx.account_eq, hx'.account_eq, hget, hget']
  by_cases htaken : x.logicalId ∈ rs.map Resource.logicalId
  · rw [if_pos htaken] at hclash hclash'
    refine Or.inl ⟨.duplicateResource a.name x.logicalId, ?_, ?_⟩
    · simp only [hclash, Template.account_insertAll]
      rfl
    · simp only [hclash', Template.account_insertAll]
      rfl
  · rw [if_neg htaken] at hclash hclash'
    refine Or.inr ⟨_, _, _, _, by simp only [hclash]; rfl, by simp only [hclash']; rfl, ?_⟩
    intro b hb
    by_cases hname : a.name = b.name
    · obtain rfl := hr.eq_of_name_eq ha hb hname
      refine ⟨rs ++ [x], rs' ++ [x'], ?_, ?_, ?_, ?_, ?_⟩
      · simpa [or_imp, forall_and] using ⟨hrs, hx⟩
      · simpa [or_imp, forall_and] using ⟨hrs', hx'⟩
      · rw [List.map_append, List.map_append, hids]
        simp [hid]
      · simp [TemplateSet.get?, NameMap.get?_insert, Template.insertAll]
      · simp [TemplateSet.get?, NameMap.get?_insert, Template.insertAll]
    · obtain ⟨qs, qs', hqs, hqs', hqids, hbget, hbget'⟩ := h b hb
      refine ⟨qs, qs', hqs, hqs', hqids, ?_, ?_⟩
      · unfold TemplateSet.get? at hbget ⊢
        rw [NameMap.get?_insert, if_neg hname]
        exact hbget
      · unfold TemplateSet.get? at hbget' ⊢
        rw [NameMap.get?_insert, if_neg hname]
        exact hbget'

/-- Steps that are alike stop at the same problem. -/
theorem run_stop_eq (h : Matched s s' r version set set') (hr : r.Sound) {xs xs' : Steps}
    (hsteps : xs.Alike xs') (hmade : ∀ x, .ok x ∈ xs → ∃ a ∈ r.toList, s.Makes a x)
    (hmade' : ∀ x, .ok x ∈ xs' → ∃ a ∈ r.toList, s'.Makes a x) :
    (set.run xs).2 = (set'.run xs').2 := by
  induction hsteps generalizing set set' with
  | nil => rfl
  | cons hx _ ih =>
    cases hx with
    | error e => rfl
    | @ok x x' hx =>
      obtain ⟨a, ha, hmakes⟩ := hmade x List.mem_cons_self
      obtain ⟨b, hb, hmakes'⟩ := hmade' x' List.mem_cons_self
      have hname : a.name = b.name := by rw [← hmakes.account_eq, ← hmakes'.account_eq, hx.account]
      obtain rfl := hr.eq_of_name_eq ha hb hname
      -- Either both runs stop here, or they go on from sets that are matched again.
      unfold TemplateSet.run
      rcases h.emit hr ha hmakes hmakes' hx.logicalId with ⟨e, he, he'⟩ | ⟨u, u', _, _, he, he', hu⟩
      · rw [he, he']
      · rw [he, he']
        exact ih hu (fun y hy => hmade y (List.mem_cons_of_mem _ hy))
          fun y hy => hmade' y (List.mem_cons_of_mem _ hy)

end Matched

namespace Config
variable {c : Config} {source : PolicySource} {version : String}

/-- A compilation fails for the accounts, for what the check finds, or for what stops the run. -/
theorem compile_eq (c : Config) (source : PolicySource) (version : String) :
    c.compile source version =
      match c.registry with
      | .error e => .error (.problem e)
      | .ok r =>
        match c.validate r with
        | .error e => .error e
        | .ok () =>
          match (TemplateSet.ofRegistry r version).run (BuildScope.of c r source).allKinds with
          | (set, none) => .ok ⟨r, set⟩
          | (_, some e) => .error (.problem e) := by
  cases hr : c.registry with
  | error e =>
    unfold compile
    rw [hr]
    rfl
  | ok r =>
    dsimp only
    cases hv : c.validate r with
    | error e =>
      unfold compile
      rw [hr]
      change (c.validate r >>= fun _ => _) = _
      rw [hv]
      rfl
    | ok done => exact compile_of_validate hr hv source version

theorem validate_withGlobal (c : Config) (g : GlobalConfig) (r : Registry) :
    { c with global := g }.validate r = c.validate r := rfl

theorem failure?_compile_withGlobal (g : GlobalConfig)
    (hfiles : ∀ r, c.registry = .ok r → ∀ a ∈ r.toList, ∀ file, c.UsesFile r a file →
      file.document source c a r.parent = file.document source { c with global := g } a r.parent) :
    failure? ({ c with global := g }.compile source version) =
      failure? (c.compile source version) := by
  have hregistry : { c with global := g }.registry = c.registry := rfl
  rw [compile_eq, compile_eq, hregistry]
  cases hr : c.registry with
  | error e => rfl
  | ok r =>
    dsimp only
    rw [validate_withGlobal]
    cases c.validate r with
    | error e => rfl
    | ok done =>
      dsimp only
      have hsound := registry_sound hr
      have halike := BuildScope.alike_allKinds (s := .of c r source) g hsound (hfiles r hr)
      have hmade (s : BuildScope) (hs : s.registry = r) (x : Resource) (hx : .ok x ∈ s.allKinds) :
          ∃ a ∈ r.toList, s.Makes a x := by
        obtain ⟨kind, hkind⟩ := BuildScope.mem_allKinds.mp hx
        obtain ⟨a, ha, hmakes⟩ := BuildScope.makes_of_mem (hs ▸ hsound) hkind
        exact ⟨a, hs ▸ ha, hmakes⟩
      have hstop := (Matched.ofRegistry hsound version).run_stop_eq hsound halike
        (hmade _ rfl) (hmade _ rfl)
      have hscope : BuildScope.of { c with global := g } r source =
          (BuildScope.of c r source).withGlobal g := rfl
      rw [hscope]
      generalize (TemplateSet.ofRegistry r version).run (BuildScope.of c r source).allKinds =
        result at hstop ⊢
      generalize (TemplateSet.ofRegistry r version).run
        ((BuildScope.of c r source).withGlobal g).allKinds = result' at hstop ⊢
      obtain ⟨set, stop⟩ := result
      obtain ⟨set', stop'⟩ := result'
      obtain rfl : stop = stop' := hstop
      cases stop <;> rfl

end Config

namespace Json

def plainProperties : Json → Option Json
  | .obj properties =>
    match properties.filter fun e => e.1 ∉ physicalNames with
    | [] => none
    | rest => some (.obj rest)
  | value => some value

def withoutName : Json → Json
  | .obj members => .obj (members.filterMap fun e =>
      if e.1 = "Properties" then e.2.plainProperties.map (Prod.mk e.1) else some e)
  | value => value

/-- The resources are the same but for the presence of a physical name. -/
structure SameButName (resource resource' : Json) : Prop where
  rest : resource.withoutName = resource'.withoutName
  property : ∀ key value value', resource.property? key = some value →
    resource'.property? key = some value' → value = value'

end Json

namespace Resource

theorem withoutName_toJson (x : Resource) : x.toJson.withoutName = .obj
    ((if x.retain then [("DeletionPolicy", .str "Retain")] else []) ++
      (x.dependsOn.map fun id => ("DependsOn", .str id)).toList ++
      (((Json.obj x.properties.entries).plainProperties).map fun properties =>
        ("Properties", properties)).toList ++
      [("Type", .str x.kind.name)]) := by
  unfold toJson Json.withoutName NameMap.isEmpty
  cases hp : x.properties.entries with
  | nil => cases x.retain <;> cases x.dependsOn <;> simp [Json.plainProperties]
  | cons e rest =>
    cases hq : (Json.obj (e :: rest)).plainProperties <;> cases x.retain <;> cases x.dependsOn <;>
      simp [hq]

theorem Alike.sameButName {x x' : Resource} (h : x.Alike x') : x.toJson.SameButName x'.toJson := by
  constructor
  case rest =>
    have hordered (m : NameMap Json) :
        Ordered (m.entries.filter fun e => e.1 ∉ physicalNames) := m.ordered.filter _
    have hmem (m : NameMap Json) (key : String) (value : Json) :
        (key, value) ∈ m.entries.filter (fun e => e.1 ∉ physicalNames) ↔
          m.get? key = some value ∧ key ∉ physicalNames := by
      simp [NameMap.mem_entries_iff]
    have hfilter : (x.properties.entries.filter fun e => e.1 ∉ physicalNames) =
        x'.properties.entries.filter fun e => e.1 ∉ physicalNames := by
      apply (hordered _).ext_mem (hordered _)
      intro key value
      rw [hmem, hmem]
      exact and_congr_left fun hkey => by rw [h.plain key hkey]
    have hplain : (Json.obj x.properties.entries).plainProperties =
        (Json.obj x'.properties.entries).plainProperties := by
      simp only [Json.plainProperties, hfilter]
    have hretain : x.retain = x'.retain := congrArg Header.retain h.header
    have hdepends : x.dependsOn = x'.dependsOn := congrArg Header.dependsOn h.header
    have hkind : x.kind = x'.kind := congrArg Header.kind h.header
    rw [withoutName_toJson, withoutName_toJson, hretain, hdepends, hkind, hplain]
  case property =>
    intro key value value'
    rw [property?_toJson, property?_toJson]
    exact h.named key value value'

end Resource

namespace Config.Compiled
variable {c : Config} {source : PolicySource} {version : String} {r : Registry} {set : TemplateSet}
variable {a : Account} {t : Template}

/-- Two compilations of resources that are alike have the same ids, and under each the same resource
but for a physical name. -/
theorem alike_templates {c' : Config} {set' : TemplateSet} {t' : Template}
    (h : c.Compiled source version r set) (h' : c'.Compiled source version r set') (ha : a ∈ r.toList)
    (ht : set.get? a.name = some t) (ht' : set'.get? a.name = some t')
    (halike : List.Forall₂ Resource.Alike
      ((BuildScope.of c r source).allKinds.resourcesFor a.name)
      ((BuildScope.of c' r source).allKinds.resourcesFor a.name)) :
    t.resources.keys = t'.resources.keys ∧
      ∀ id x x', t.resources.get? id = some x → t'.resources.get? id = some x' →
        x.SameButName x' := by
  have hpartner {id : String} {x : Json} (hx : t.resources.get? id = some x) :
      ∃ x', t'.resources.get? id = some x' ∧ x.SameButName x' := by
    have hentry := (h.entries_perm ha ht).mem_iff.mp (NameMap.mem_entries_iff.mpr hx)
    obtain ⟨y, hy, heq⟩ := List.mem_map.mp hentry
    obtain ⟨rfl, rfl⟩ := Prod.mk.inj heq
    obtain ⟨y', hy', hsame⟩ := exists_right_of_forall₂ halike hy
    exact ⟨y'.toJson, hsame.logicalId ▸ h'.get?_of_mem_resourcesFor ha ht' hy', hsame.sameButName⟩
  constructor
  · have hids := Resource.logicalIds_eq halike
    have hkeys := (h.entries_perm ha ht).map Prod.fst
    have hkeys' := (h'.entries_perm ha ht').map Prod.fst
    rw [List.map_map] at hkeys hkeys'
    apply NameMap.keys_eq_of_contains
    intro id
    rw [Bool.eq_iff_iff, ← NameMap.mem_keys_iff, ← NameMap.mem_keys_iff]
    calc id ∈ t.resources.keys
        ↔ id ∈ ((BuildScope.of c r source).allKinds.resourcesFor a.name).map
          Resource.logicalId := hkeys.mem_iff
      _ ↔ id ∈ ((BuildScope.of c' r source).allKinds.resourcesFor a.name).map
          Resource.logicalId := by rw [hids]
      _ ↔ id ∈ t'.resources.keys := hkeys'.mem_iff.symm
  · intro id x x' hx hx'
    obtain ⟨y, hy, hsame⟩ := hpartner hx
    obtain rfl : y = x' := Option.some.inj (hy.symm.trans hx')
    exact hsame

end Config.Compiled

/-- Other global settings do not make a compilation fail or succeed, and an error stays the same, as
long as the policy files have the same documents. The templates have the same ids, under each the
same resource but for the presence of a physical name, and the outputs of their own settings: the
one with the version alone, or with it one for each resource other than a bucket policy. -/
theorem settings_only_name_and_export {c : Config} {source : PolicySource} (g : GlobalConfig)
    (hfiles : ∀ r, c.registry = .ok r → ∀ a ∈ r.toList, ∀ file, c.UsesFile r a file →
      file.document source c a r.parent = file.document source { c with global := g } a r.parent)
    (version : String) :
    (∀ failure, { c with global := g }.compile source version = .error failure ↔
      c.compile source version = .error failure) ∧
    ∀ done done', c.compile source version = .ok done →
      { c with global := g }.compile source version = .ok done' →
      done'.registry = done.registry ∧
      ∀ a ∈ done.registry.toList, ∃ t t', done.templates.get? a.name = some t ∧
        done'.templates.get? a.name = some t' ∧
        t.resources.keys = t'.resources.keys ∧
        (∀ id x x', t.resources.get? id = some x → t'.resources.get? id = some x' →
          x.SameButName x') ∧
        t.Exports version c.global.outputs ∧ t'.Exports version g.outputs := by
  constructor
  · intro failure
    rw [← failure?_eq_some_iff, ← failure?_eq_some_iff, Config.failure?_compile_withGlobal g hfiles]
  · intro done done' h h'
    have hdone := Config.compiled_of_compile h
    have hdone' := Config.compiled_of_compile h'
    have hregistry : done'.registry = done.registry :=
      Except.ok.inj (hdone'.registry.symm.trans hdone.registry)
    rw [hregistry] at hdone'
    refine ⟨hregistry, fun a ha => ?_⟩
    have halike := (BuildScope.alike_allKinds (s := .of c done.registry source) g hdone.sound
      (hfiles _ hdone.registry)).resourcesFor a.name
    obtain ⟨hkeys, hsame⟩ :=
      hdone.alike_templates hdone' ha (hdone.get? ha) (hdone'.get? ha) halike
    exact ⟨_, _, hdone.get? ha, hdone'.get? ha, hkeys, hsame, hdone.exports ha (hdone.get? ha),
      hdone'.exports ha (hdone'.get? ha)⟩

def namesWithoutOutputs : GlobalConfig where
  names := { policies := true, buckets := true, trails := true }
  outputs := false

theorem orgOfLogs_under_other_settings :
    ∃ done done' t t', orgOfLogs.compile textOfLogs "1" = .ok done ∧
      { orgOfLogs with global := namesWithoutOutputs }.compile textOfLogs "1" = .ok done' ∧
      done.templates.get? "root" = some t ∧ done'.templates.get? "root" = some t' ∧
      t.resources.keys = t'.resources.keys ∧ t.Exports "1" true ∧ t'.Exports "1" false := by
  obtain ⟨done, done', hdone, hdone', hroot⟩ :
      ∃ done done', orgOfLogs.compile textOfLogs "1" = .ok done ∧
        { orgOfLogs with global := namesWithoutOutputs }.compile textOfLogs "1" = .ok done' ∧
        ⟨"root", "1", true, none⟩ ∈ done.registry.toList := ⟨_, _, rfl, rfl, by decide⟩
  obtain ⟨_, h⟩ := @settings_only_name_and_export orgOfLogs textOfLogs namesWithoutOutputs
    (fun _ _ _ _ _ huse => orgOfLogs_document _ huse) "1"
  obtain ⟨_, h⟩ := h done done' hdone hdone'
  obtain ⟨t, t', ht, ht', hkeys, _, hexports, hexports'⟩ := h _ hroot
  exact ⟨done, done', t, t', hdone, hdone', ht, ht', hkeys, hexports, hexports'⟩

end OrgStacks
