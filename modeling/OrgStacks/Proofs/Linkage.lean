import OrgStacks.Proofs.Listing
import OrgStacks.Proofs.References

/-!
# Nothing points outside its template

`Template.Linked` says of one template that what its resources and outputs point at is in it, and
that it is of the right type. By `compile_linked` every template of a compilation is linked. What a
resource points at is read off the resources of `BuildScope.Makes`; that it is there follows from
the placements, the checks and the listing.
-/

namespace OrgStacks
set_option autoImplicit false

namespace Template

def Has (t : Template) (kind : ResourceKind) (id : String) : Prop :=
  ∃ resource, t.resources.get? id = some resource ∧ resource.get? "Type" = some (.str kind.name)

/-- Whatever points at a resource points at one of the same template, of the type that is needed. -/
structure Linked (t : Template) : Prop where
  managedPolicies : ∀ {id : String} {resource value : Json}, t.resources.get? id = some resource →
    resource.property? "ManagedPolicyArns" = some value →
    ∃ references, value = .arr references ∧
      ∀ target, refValue target ∈ references → t.Has .managedPolicy target
  profileRoles : ∀ {id : String} {resource value : Json}, t.resources.get? id = some resource →
    resource.get? "Type" = some (.str ResourceKind.instanceProfile.name) →
    resource.property? "Roles" = some value →
    ∃ target, value = .arr [refValue target] ∧ t.Has .role target
  policyBucket : ∀ {id : String} {resource value : Json}, t.resources.get? id = some resource →
    resource.get? "Type" = some (.str ResourceKind.bucketPolicy.name) →
    resource.property? "Bucket" = some value →
    ∃ target, value = refValue target ∧ t.Has .bucket target
  dependsOn : ∀ {id : String} {resource value : Json}, t.resources.get? id = some resource →
    resource.get? "DependsOn" = some value →
    ∃ target, value = .str target ∧ t.Has .bucket target
  outputs : ∀ {key : String} {output : Json}, t.outputs.get? key = some output →
    ∃ value, output.get? "Value" = some value ∧
      ∀ target, value.PointsTo target → ∃ resource, t.resources.get? target = some resource

end Template

namespace Placements

theorem resolve_localRef {r : Registry} {policies : NameMap PolicyConfig}
    {reference account entity name : String}
    (h : (ofPolicies r policies).resolve reference account entity = .ok (.localRef name)) :
    ∃ p, policies.get? name = some p ∧ p.inline = false ∧ r.places p account = true := by
  cases resolve_eq_iff.mp h with
  | placed _ hp hselect hinline haccount =>
    exact ⟨_, hp, hinline, (Registry.places_of_select hselect).mpr haccount⟩

end Placements

theorem ManagedPolicy.eq_localRef_of_toJson {m : ManagedPolicy} {target : String}
    (h : m.toJson = refValue target) : ∃ name, m = .localRef name ∧ target = Text.scrub name := by
  cases m with
  | literal arn => cases h
  | imported key => simp [toJson, importValue, refValue] at h
  | localRef name => exact ⟨name, rfl, (refValue_injective h).symm⟩

namespace BuildScope
variable {s : BuildScope} {a : Account} {x : Resource}

theorem of_managedPolicies_ref {c : Config} {r : Registry} {source : PolicySource}
    {references : List String} {entity target : String} {policies : List Json}
    (h : (BuildScope.of c r source).managedPolicies references a entity = .ok policies)
    (ht : refValue target ∈ policies) :
    ∃ name p, c.policies.get? name = some p ∧ p.inline = false ∧ r.places p a.name = true ∧
      target = Text.scrub name := by
  unfold managedPolicies at h
  obtain ⟨resolved, hresolved, rfl⟩ := map_eq_ok_iff.mp h
  obtain ⟨m, hm, hjson⟩ := List.mem_map.mp ht
  obtain ⟨name, rfl, rfl⟩ := ManagedPolicy.eq_localRef_of_toJson hjson
  obtain ⟨reference, _, href⟩ := exists_of_mem_mapM hresolved hm
  obtain ⟨p, hp, hinline, hplaced⟩ := Placements.resolve_localRef href
  exact ⟨name, p, hp, hinline, hplaced, rfl⟩

theorem Makes.managedPolicyArns (h : s.Makes a x) {value : Json}
    (hv : x.properties.get? "ManagedPolicyArns" = some value) :
    ∃ references entity policies, s.managedPolicies references a entity = .ok policies ∧
      value = .arr policies := by
  have hlist {references : List String} {entity : String} {policies : List Json}
      (hp : s.managedPolicies references a entity = .ok policies)
      (heq : policies ≠ [] ∧ .arr policies = value) :
      ∃ references entity policies, s.managedPolicies references a entity = .ok policies ∧
        value = .arr policies :=
    ⟨references, entity, policies, hp, heq.2.symm⟩
  cases h with
  | filePolicy => simp [policyResource] at hv
  | assumePolicy => simp [policyResource] at hv
  | role _ _ _ hp => exact hlist hp (by simpa [roleResource] using hv)
  | profile => simp [profileResource] at hv
  | group _ _ _ hp => exact hlist hp (by simpa [groupResource] using hv)
  | expandedGroup _ _ _ _ _ hp => exact hlist hp (by simpa [groupResource] using hv)
  | user _ _ hp => exact hlist hp (by simpa [userResource] using hv)
  | bucket => simp [bucketResource] at hv
  | bucketPolicy => simp [bucketPolicyResource] at hv
  | trail => simp [trailResource] at hv

theorem Makes.profileRoles (h : s.Makes a x) (hkind : x.header.kind = .instanceProfile)
    {value : Json} (hv : x.properties.get? "Roles" = some value) :
    ∃ name r, s.config.roles.get? name = some r ∧ s.registry.places r a.name = true ∧
      value = .arr [refValue (Text.scrub (name ++ "Role"))] := by
  cases h <;> simp at hkind
  case profile name r hr hplaced _ =>
    refine ⟨name, r, hr, hplaced, ?_⟩
    simpa [profileResource, eq_comm] using hv

theorem Makes.policyBucket (h : s.Makes a x) (hkind : x.header.kind = .bucketPolicy)
    {value : Json} (hv : x.properties.get? "Bucket" = some value) :
    ∃ name b, s.config.buckets.get? name = some b ∧ s.registry.places b a.name = true ∧
      value = refValue (Text.scrub (name ++ "Bucket")) := by
  cases h <;> simp at hkind
  case bucketPolicy name b p document hb hplaced _ _ =>
    refine ⟨name, b, hb, hplaced, ?_⟩
    simpa [bucketPolicyResource, eq_comm] using hv

/-- Only a trail on a configured bucket waits for anything. -/
theorem Makes.dependsOn (h : s.Makes a x) {target : String}
    (htarget : x.header.dependsOn = some target) :
    ∃ name t bucket, s.config.trails.get? name = some t ∧ s.registry.places t a.name = true ∧
      t.bucket = some bucket ∧ s.config.buckets.contains bucket = true ∧
      target = Text.scrub (bucket ++ "Bucket") := by
  cases h <;> simp at htarget
  case trail name t ht hplaced =>
    unfold waitsFor at htarget
    obtain ⟨bucket, hbucket, hwait⟩ := Option.bind_eq_some_iff.mp htarget
    split at hwait
    · exact ⟨name, t, bucket, ht, hplaced, hbucket, by assumption, (Option.some.inj hwait).symm⟩
    · cases hwait

end BuildScope

namespace Config

/-- A trail that is accepted goes only where its bucket goes, when that is configured. -/
theorem bucket_placed_of_validate {c : Config} {r : Registry} (hv : c.validate r = .ok ())
    {name bucket account : String} {t : TrailConfig} (ht : c.trails.get? name = some t)
    (hplaced : r.places t account = true) (hbucket : t.bucket = some bucket)
    {b : BucketConfig} (hb : c.buckets.get? bucket = some b) : r.places b account = true := by
  obtain ⟨accounts, hselect, haccount⟩ := Registry.places_iff.mp hplaced
  have hvalid := validate_eq_ok_iff.mp hv
  cases hplace : r.select (Entity.context b) with
  | error e =>
    refine absurd (Scope.mem_findings_of_bucket hb ?_) (hvalid e)
    exact mem_problemOf.mpr hplace
  | ok placed =>
    refine (Registry.places_of_select hplace).mpr (Decidable.byContradiction fun hmiss => ?_)
    have hmem : account ∈ accounts.diff placed := NameSet.mem_diff.mpr ⟨haccount, hmiss⟩
    refine absurd (Scope.mem_findings_of_trail ht ?_)
      (hvalid (.bucketNotInAccount name bucket account))
    have hselect' : (Scope.of c r).accountsOf t = .ok accounts := hselect
    have hplaced' : (Scope.of c r).bucketAccounts? bucket = some placed := by
      change (c.buckets.get? bucket).bind (fun b => (r.select (Entity.context b)).toOption) = _
      rw [hb]
      change (r.select (Entity.context b)).toOption = _
      rw [hplace]
      rfl
    unfold Scope.trailFindings
    simp only [hselect', hbucket, hplaced']
    exact List.mem_map.mpr ⟨account, hmem, rfl⟩

namespace Compiled
variable {c : Config} {source : PolicySource} {version : String} {r : Registry} {set : TemplateSet}
variable {a : Account} {t : Template}

theorem exists_account (h : c.Compiled source version r set) {name : String}
    (ht : set.get? name = some t) : ∃ a ∈ r.toList, a.name = name := by
  rw [TemplateSet.run_get? h.run] at ht
  obtain ⟨empty, hempty, _⟩ := Option.map_eq_some_iff.mp ht
  unfold TemplateSet.get? TemplateSet.ofRegistry at hempty
  rw [NameMap.get?_map] at hempty
  obtain ⟨a, ha, _⟩ := Option.map_eq_some_iff.mp hempty
  obtain rfl := h.sound.name_eq ha
  exact ⟨a, h.sound.mem_toList_iff.mpr ha, rfl⟩

theorem makes (h : c.Compiled source version r set) (ha : a ∈ r.toList) {x : Resource}
    (hx : x ∈ (BuildScope.of c r source).allKinds.resourcesFor a.name) :
    (BuildScope.of c r source).Makes a x :=
  BuildScope.makes_of_mem_resourcesFor (s := .of c r source) h.sound ha hx

theorem makes_of_get? (h : c.Compiled source version r set) (ha : a ∈ r.toList)
    (ht : set.get? a.name = some t) {id : String} {resource : Json}
    (hget : t.resources.get? id = some resource) :
    ∃ x, (BuildScope.of c r source).Makes a x ∧ x.toJson = resource := by
  obtain rfl := Option.some.inj ((h.get? ha).symm.trans ht)
  rcases Template.get?_resources_insertAll hget with ⟨x, hx, _, hjson⟩ | hempty
  · exact ⟨x, h.makes ha hx, hjson⟩
  · cases hempty

/-- Every output belongs to a resource of the template, but for the one with the version. -/
theorem makes_of_get?_output (h : c.Compiled source version r set) (ha : a ∈ r.toList)
    (ht : set.get? a.name = some t) {key : String} {output : Json}
    (hget : t.outputs.get? key = some output) :
    (∃ x o, (BuildScope.of c r source).Makes a x ∧ t.resources.contains x.logicalId = true ∧
      o ∈ x.outputs ∧ o.toJson = output) ∨
    output = (Template.buildOutput version).toJson := by
  obtain rfl := Option.some.inj ((h.get? ha).symm.trans ht)
  rcases Template.get?_outputs_insertAll hget with ⟨x, hx, o, ho, _, hjson⟩ | hbuild
  · refine Or.inl ⟨x, o, h.makes ha hx, ?_, ho, hjson⟩
    exact Template.contains_resources_insertAll.mpr (Or.inl ⟨x, hx, rfl⟩)
  · refine Or.inr ?_
    change (NameMap.empty.insert _ _).get? key = _ at hbuild
    rw [NameMap.get?_insert] at hbuild
    split at hbuild
    · exact (Option.some.inj hbuild).symm
    · cases hbuild

theorem has_of_placed {α : Type} [Entity α] (h : c.Compiled source version r set)
    (ha : a ∈ r.toList) (ht : set.get? a.name = some t) {items : String → α → List Item}
    {entities : NameMap α} (hlisted : placedItems r a.name items entities ⊆ c.listed r a.name)
    {name : String} {entity : α} (hget : entities.get? name = some entity)
    (hplaced : r.places entity a.name = true) {id : String} {kind : ResourceKind}
    (hitem : (id, kind) ∈ items name entity) : t.Has kind id := by
  have hmem := hlisted (mem_placedItems.mpr ⟨name, entity, hget, hplaced, hitem⟩)
  have htyped : Item.typed (id, kind) ∈ t.typed :=
    (h.typed_perm ha ht).mem_iff.mpr (List.mem_map.mpr ⟨_, hmem, rfl⟩)
  obtain ⟨⟨id', resource⟩, hentry, heq⟩ := List.mem_map.mp htyped
  obtain ⟨rfl, htype⟩ := Prod.mk.inj heq
  exact ⟨resource, NameMap.mem_entries_iff.mp hentry, htype⟩

theorem has_policy (h : c.Compiled source version r set) (ha : a ∈ r.toList)
    (ht : set.get? a.name = some t) {name : String} {p : PolicyConfig}
    (hp : c.policies.get? name = some p) (hinline : p.inline = false)
    (hplaced : r.places p a.name = true) : t.Has .managedPolicy (Text.scrub name) := by
  have hlisted : placedItems r a.name policyItems c.policies ⊆ c.listed r a.name :=
    fun i hi => by simp [listed, hi]
  exact h.has_of_placed ha ht hlisted hp hplaced (by simp [policyItems, hinline])

theorem has_role (h : c.Compiled source version r set) (ha : a ∈ r.toList)
    (ht : set.get? a.name = some t) {name : String} {role : RoleConfig}
    (hr : c.roles.get? name = some role) (hplaced : r.places role a.name = true) :
    t.Has .role (Text.scrub (name ++ "Role")) := by
  have hlisted : placedItems r a.name roleItems c.roles ⊆ c.listed r a.name :=
    fun i hi => by simp [listed, hi]
  exact h.has_of_placed ha ht hlisted hr hplaced List.mem_cons_self

theorem has_bucket (h : c.Compiled source version r set) (ha : a ∈ r.toList)
    (ht : set.get? a.name = some t) {name : String} {b : BucketConfig}
    (hb : c.buckets.get? name = some b) (hplaced : r.places b a.name = true) :
    t.Has .bucket (Text.scrub (name ++ "Bucket")) := by
  have hlisted : placedItems r a.name bucketItems c.buckets ⊆ c.listed r a.name :=
    fun i hi => by simp [listed, hi]
  exact h.has_of_placed ha ht hlisted hb hplaced List.mem_cons_self

end Compiled

end Config

/-- Nothing in a compilation points outside its template: local managed policies, the role of an
instance profile, the bucket of a bucket policy or trail, and the resource of an output are all
there, under the id that is written and with the type that is meant. -/
theorem compile_linked {c : Config} {source : PolicySource} {version : String}
    {done : Compilation} (h : c.compile source version = .ok done) {account : String}
    {t : Template} (ht : done.templates.get? account = some t) : t.Linked := by
  have hdone := Config.compiled_of_compile h
  obtain ⟨a, ha, rfl⟩ := hdone.exists_account ht
  constructor
  case managedPolicies =>
    intro id resource value hget hvalue
    obtain ⟨x, hx, rfl⟩ := hdone.makes_of_get? ha ht hget
    rw [Resource.property?_toJson] at hvalue
    obtain ⟨references, entity, policies, hpolicies, rfl⟩ := hx.managedPolicyArns hvalue
    refine ⟨policies, rfl, fun target htarget => ?_⟩
    obtain ⟨name, p, hp, hinline, hplaced, rfl⟩ :=
      BuildScope.of_managedPolicies_ref hpolicies htarget
    exact hdone.has_policy ha ht hp hinline hplaced
  case profileRoles =>
    intro id resource value hget htype hvalue
    obtain ⟨x, hx, rfl⟩ := hdone.makes_of_get? ha ht hget
    rw [Resource.property?_toJson] at hvalue
    obtain ⟨name, role, hr, hplaced, rfl⟩ := hx.profileRoles (x.kind_of_type htype) hvalue
    exact ⟨_, rfl, hdone.has_role ha ht hr hplaced⟩
  case policyBucket =>
    intro id resource value hget htype hvalue
    obtain ⟨x, hx, rfl⟩ := hdone.makes_of_get? ha ht hget
    rw [Resource.property?_toJson] at hvalue
    obtain ⟨name, b, hb, hplaced, rfl⟩ := hx.policyBucket (x.kind_of_type htype) hvalue
    exact ⟨_, rfl, hdone.has_bucket ha ht hb hplaced⟩
  case dependsOn =>
    intro id resource value hget hvalue
    obtain ⟨x, hx, rfl⟩ := hdone.makes_of_get? ha ht hget
    rw [Resource.get?_dependsOn_toJson] at hvalue
    obtain ⟨target, htarget, rfl⟩ := Option.map_eq_some_iff.mp hvalue
    obtain ⟨name, trail, bucket, htrail, hplaced, hbucket, hknown, rfl⟩ := hx.dependsOn htarget
    obtain ⟨b, hb⟩ := NameMap.contains_iff.mp hknown
    exact ⟨_, rfl, hdone.has_bucket ha ht hb
      (Config.bucket_placed_of_validate hdone.valid htrail hplaced hbucket hb)⟩
  case outputs =>
    intro key output hget
    rcases hdone.makes_of_get?_output ha ht hget with ⟨x, o, hx, hpresent, ho, rfl⟩ | rfl
    · refine ⟨o.value, o.get?_value_toJson, fun target htarget => ?_⟩
      obtain rfl := htarget.eq (hx.output ho).value
      exact NameMap.contains_iff.mp hpresent
    · refine ⟨.str version, rfl, fun target htarget => ?_⟩
      rcases htarget with h | ⟨name, h⟩ <;> cases h

theorem orgOfLogs_linked :
    ∃ done t, orgOfLogs.compile textOfLogs "1" = .ok done ∧
      done.templates.get? "root" = some t ∧ t.Linked :=
  ⟨_, _, rfl, rfl, @compile_linked orgOfLogs textOfLogs "1" _ rfl "root" _ rfl⟩

end OrgStacks
