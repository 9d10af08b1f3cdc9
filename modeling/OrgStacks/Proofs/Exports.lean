import OrgStacks.Proofs.Clash
import OrgStacks.Proofs.Linkage

/-!
# The outputs of a template

Every template has an output with the version. When there are to be outputs, each resource that may
have one has it under an id of its own, made of the id and the kind of the resource. So the keys of
the outputs can be read off the resources, `Template.Exports`.
-/

namespace OrgStacks
set_option autoImplicit false

theorem ResourceKind.ofName?_name (k : ResourceKind) : ofName? k.name = some k := by
  cases k <;> decide

def Json.kind? (resource : Json) : Option ResourceKind :=
  match resource.get? "Type" with
  | some (.str name) => ResourceKind.ofName? name
  | _ => none

theorem Resource.kind?_toJson (x : Resource) : x.toJson.kind? = some x.kind := by
  unfold Json.kind?
  rw [get?_type_toJson]
  exact x.kind.ofName?_name

theorem BuildScope.Makes.outputIds {s : BuildScope} {a : Account} {x : Resource}
    (h : s.Makes a x) : x.outputs.map Output.logicalId =
      if s.config.global.outputs then
        (x.header.kind.outputSuffix?.map fun suffix => x.header.logicalId ++ suffix).toList
      else [] := by
  have hids {r : Resource} {o : Output} {y : Resource.Header} (hr : r.outputs = [])
      (hy : (s.withOutput r o).header = y)
      (ho : ∃ suffix, y.kind.outputSuffix? = some suffix ∧ o.logicalId = y.logicalId ++ suffix) :
      (s.withOutput r o).outputs.map Output.logicalId =
        if s.config.global.outputs then
          ((s.withOutput r o).header.kind.outputSuffix?.map fun suffix =>
            (s.withOutput r o).header.logicalId ++ suffix).toList
        else [] := by
    obtain ⟨suffix, hsuffix, hid⟩ := ho
    rw [hy, hsuffix]
    unfold withOutput
    split
    · simp [Resource.output, hr, hid]
    · simp [hr]
  cases h with
  | filePolicy => exact hids (by simp) (header_policyResource ..) ⟨_, rfl, rfl⟩
  | assumePolicy => exact hids (by simp) (header_policyResource ..) ⟨_, rfl, rfl⟩
  | role => exact hids (by simp) (header_roleResource ..) ⟨_, rfl, rfl⟩
  | profile => exact hids (by simp) (header_profileResource ..) ⟨_, rfl, rfl⟩
  | group => exact hids (by simp) (header_groupResource ..) ⟨_, rfl, rfl⟩
  | expandedGroup => exact hids (by simp) (header_groupResource ..) ⟨_, rfl, rfl⟩
  | user => exact hids (by simp) (header_userResource ..) ⟨_, rfl, rfl⟩
  | bucket => exact hids (by simp) (header_bucketResource ..) ⟨_, rfl, rfl⟩
  | bucketPolicy =>
    simp [bucketPolicyResource, Resource.property, Resource.header, ResourceKind.outputSuffix?]
  | trail => exact hids (by simp) (header_trailResource ..) ⟨_, rfl, rfl⟩

namespace Template

/-- The ids of the outputs that the resources of a template may have, one for each resource but for
bucket policies. -/
def outputIds (t : Template) : List String :=
  t.resources.entries.filterMap fun e =>
    e.2.kind?.bind fun k => k.outputSuffix?.map fun suffix => e.1 ++ suffix

structure Exports (t : Template) (version : String) (enabled : Bool) : Prop where
  build : t.outputs.get? "TemplateBuild" = some (buildOutput version).toJson
  keys : t.outputs.keys.Perm ("TemplateBuild" :: if enabled then t.outputIds else [])

end Template

namespace Config.Compiled
variable {c : Config} {source : PolicySource} {version : String} {r : Registry} {set : TemplateSet}
variable {a : Account} {t : Template}

theorem outputs_nodup (h : c.Compiled source version r set) (ha : a ∈ r.toList) :
    ("TemplateBuild" :: ((BuildScope.of c r source).allKinds.resourcesFor a.name).flatMap
      fun x => x.outputs.map Output.logicalId).Nodup := by
  apply List.nodup_cons.mpr
  constructor
  · intro hmem
    obtain ⟨x, hx, hid⟩ := List.mem_flatMap.mp hmem
    obtain ⟨o, ho, hid⟩ := List.mem_map.mp hid
    exact (h.makes ha hx).output_ne_build ho hid
  · apply List.nodup_flatMap.mpr
    constructor
    · intro x hx
      rw [(h.makes ha hx).outputIds]
      split
      · cases x.header.kind.outputSuffix? <;> simp
      · exact List.nodup_nil
    · have hdistinct := List.pairwise_map.mp (h.distinct ha)
      apply hdistinct.imp_of_mem
      intro x y hx hy hne key hkey hkey'
      obtain ⟨o, ho, rfl⟩ := List.mem_map.mp hkey
      obtain ⟨p, hp, hid⟩ := List.mem_map.mp hkey'
      have hitem := (h.makes ha hx).item_eq_of_outputs (h.makes ha hy) ho hp hid.symm
      exact hne (congrArg Prod.fst hitem)

theorem outputIds_perm (h : c.Compiled source version r set) (ha : a ∈ r.toList)
    (ht : set.get? a.name = some t) :
    (((BuildScope.of c r source).allKinds.resourcesFor a.name).flatMap
      fun x => x.outputs.map Output.logicalId).Perm
        (if c.global.outputs then t.outputIds else []) := by
  have hglobal : (BuildScope.of c r source).config.global = c.global := rfl
  rw [List.flatMap_congr fun x hx => (h.makes ha hx).outputIds, hglobal]
  split
  · have hids := (h.entries_perm ha ht).filterMap fun e =>
      e.2.kind?.bind fun k => k.outputSuffix?.map fun suffix => e.1 ++ suffix
    refine List.Perm.trans (.of_eq ?_) hids.symm
    rw [List.filterMap_map, List.filterMap_eq_flatMap_toList]
    apply List.flatMap_congr
    intro x _
    simp only [Function.comp_apply, x.kind?_toJson, Option.bind_some]
    rfl
  · simp

theorem exports (h : c.Compiled source version r set) (ha : a ∈ r.toList)
    (ht : set.get? a.name = some t) : t.Exports version c.global.outputs := by
  have hperm := h.outputIds_perm ha ht
  obtain rfl := Option.some.inj ((h.get? ha).symm.trans ht)
  have hstart (key : String) :
      (Template.ofAccount a version).outputs.contains key = true ↔ "TemplateBuild" = key := by
    simp [Template.ofAccount, NameMap.contains_insert]
  constructor
  case build =>
    obtain ⟨value, hvalue⟩ := NameMap.contains_iff.mp
      (Template.contains_outputs_insertAll.mpr (Or.inr ((hstart "TemplateBuild").mpr rfl)))
    rcases Template.get?_outputs_insertAll hvalue with ⟨x, hx, o, ho, hid, _⟩ | hbuild
    · exact absurd hid ((h.makes ha hx).output_ne_build ho)
    · rw [hvalue, ← hbuild]
      rfl
  case keys =>
    -- Neither side repeats a key, so it is enough that both have the same ones.
    refine List.Perm.trans ?_ (hperm.cons "TemplateBuild")
    apply (List.perm_ext_iff_of_nodup (NameMap.keys_nodup _) (h.outputs_nodup ha)).mpr
    intro key
    rw [NameMap.mem_keys_iff, Template.contains_outputs_insertAll, hstart, List.mem_cons,
      List.mem_flatMap, or_comm, eq_comm]
    simp only [List.mem_map]

end Config.Compiled

end OrgStacks
