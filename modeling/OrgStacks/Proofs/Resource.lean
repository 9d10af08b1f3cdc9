import OrgStacks.Build
import OrgStacks.Proofs.NameMap

/-!
# The shape of the resources

A resource has a header, properties and outputs, and setting one of these leaves the others alone.
From that each kind of resource gets its header, its outputs, and those of its properties that point
at other resources.
-/

namespace OrgStacks
set_option autoImplicit false

theorem ResourceKind.name_injective {k k' : ResourceKind} (h : k.name = k'.name) : k = k' := by
  cases k <;> cases k' <;> first | rfl | exact absurd h (by decide)

def Json.property? (key : String) (resource : Json) : Option Json :=
  (resource.get? "Properties").bind (get? key)

namespace Resource

structure Header where
  account : String
  logicalId : String
  kind : ResourceKind
  retain : Bool := false
  dependsOn : Option String := none
deriving DecidableEq

def header (r : Resource) : Header := ⟨r.account, r.logicalId, r.kind, r.retain, r.dependsOn⟩

section Setting
variable (r : Resource) (key : String)

@[simp] theorem header_property (value : Json) : (r.property key value).header = r.header := rfl

@[simp] theorem outputs_property (value : Json) : (r.property key value).outputs = r.outputs := rfl

@[simp] theorem get?_property (value : Json) (other : String) :
    (r.property key value).properties.get? other =
      if key = other then some value else r.properties.get? other :=
  NameMap.get?_insert r.properties key other value

@[simp] theorem header_optional (value : Option Json) :
    (r.optional key value).header = r.header := by
  cases value <;> rfl

@[simp] theorem outputs_optional (value : Option Json) :
    (r.optional key value).outputs = r.outputs := by
  cases value <;> rfl

@[simp] theorem get?_optional (value : Option Json) (other : String) :
    (r.optional key value).properties.get? other =
      if key = other then value.or (r.properties.get? other) else r.properties.get? other := by
  cases value with
  | none => simp [optional]
  | some v => simp [optional]

@[simp] theorem header_listProperty (values : List Json) :
    (r.listProperty key values).header = r.header := by
  unfold listProperty
  split <;> rfl

@[simp] theorem outputs_listProperty (values : List Json) :
    (r.listProperty key values).outputs = r.outputs := by
  unfold listProperty
  split <;> rfl

@[simp] theorem get?_listProperty (values : List Json) (other : String) :
    (r.listProperty key values).properties.get? other =
      if key = other ∧ values ≠ [] then some (.arr values) else r.properties.get? other := by
  cases values with
  | nil => simp [listProperty]
  | cons v vs => simp [listProperty]

end Setting

theorem get?_type_toJson (r : Resource) : r.toJson.get? "Type" = some (.str r.kind.name) := by
  unfold toJson Json.get?
  cases r.retain <;> cases r.dependsOn <;> cases r.properties.isEmpty <;> simp [valueOf?]

theorem get?_dependsOn_toJson (r : Resource) :
    r.toJson.get? "DependsOn" = r.dependsOn.map Json.str := by
  unfold toJson Json.get?
  cases r.retain <;> cases r.dependsOn <;> cases r.properties.isEmpty <;> simp [valueOf?]

theorem property?_toJson (r : Resource) (key : String) :
    r.toJson.property? key = r.properties.get? key := by
  have hobj : (r.toJson.get? "Properties") =
      if r.properties.isEmpty then none else some (.obj r.properties.entries) := by
    unfold toJson Json.get?
    cases r.retain <;> cases r.dependsOn <;> cases r.properties.isEmpty <;> simp [valueOf?]
  unfold Json.property?
  rw [hobj]
  split
  · rename_i hempty
    unfold NameMap.get?
    rw [List.isEmpty_iff.mp hempty]
    rfl
  · rfl

theorem kind_of_type (r : Resource) {kind : ResourceKind}
    (h : r.toJson.get? "Type" = some (.str kind.name)) : r.header.kind = kind := by
  rw [get?_type_toJson] at h
  exact ResourceKind.name_injective (Json.str.inj (Option.some.inj h))

end Resource

theorem Output.get?_value_toJson (o : Output) : o.toJson.get? "Value" = some o.value := by
  unfold toJson Json.get?
  simp [valueOf?]

def Json.PointsTo (value : Json) (id : String) : Prop :=
  value = refValue id ∨ ∃ name, value = .obj [("Fn::GetAtt", .arr [.str id, .str name])]

theorem refValue_injective {id id' : String} (h : refValue id = refValue id') : id = id' := by
  simpa [refValue] using h

theorem Json.PointsTo.eq {value : Json} {id id' : String} (h : value.PointsTo id)
    (h' : value.PointsTo id') : id = id' := by
  rcases h with rfl | ⟨name, rfl⟩ <;> rcases h' with h' | ⟨name', h'⟩
  · exact refValue_injective h'
  · simp [refValue] at h'
  · simp [refValue] at h'
  · simp only [Json.obj.injEq, List.cons.injEq, Prod.mk.injEq, Json.arr.injEq,
      Json.str.injEq] at h'
    exact h'.1.2.1

/-- What the output of a resource has after the id of the resource; a bucket policy has none. -/
def ResourceKind.outputSuffix? : ResourceKind → Option String
  | managedPolicy => some "PolicyArn"
  | bucketPolicy => none
  | _ => some "Arn"

/-- An output is named after its resource and points at it. -/
structure Output.BelongsTo (o : Output) (r : Resource.Header) : Prop where
  logicalId : ∃ suffix, r.kind.outputSuffix? = some suffix ∧ o.logicalId = r.logicalId ++ suffix
  value : o.value.PointsTo r.logicalId

namespace BuildScope
variable {s : BuildScope} {a : Account} {name : String}

@[simp] theorem header_withOutput (s : BuildScope) (r : Resource) (o : Output) :
    (s.withOutput r o).header = r.header := by
  unfold withOutput
  split <;> rfl

@[simp] theorem properties_withOutput (s : BuildScope) (r : Resource) (o : Output) :
    (s.withOutput r o).properties = r.properties := by
  unfold withOutput
  split <;> rfl

theorem belongsTo_arnOutput {r : Resource.Header} {o : Output} {description : String}
    (ho : o = arnOutput r.logicalId description) (hkind : r.kind.outputSuffix? = some "Arn") :
    o.BelongsTo r := by
  subst ho
  exact ⟨⟨"Arn", hkind, rfl⟩, Or.inr ⟨"Arn", rfl⟩⟩

theorem mem_outputs_withOutput {r : Resource} {o p : Output} (hr : r.outputs = [])
    (h : p ∈ (s.withOutput r o).outputs) : p = o := by
  unfold withOutput at h
  split at h
  · simpa [Resource.output, hr] using h
  · simp [hr] at h

@[simp] theorem header_policyResource (p : PolicyConfig) (document : Json) :
    (s.policyResource a name p document).header =
      ⟨a.name, Text.scrub name, .managedPolicy, p.retainOnDelete, none⟩ := by
  simp only [policyResource, header_withOutput, Resource.header_optional,
    Resource.header_listProperty, Resource.header_property]
  rfl

@[simp] theorem header_roleResource (r : RoleConfig) (trust : PolicyDocument)
    (policies : List Json) :
    (s.roleResource a name r trust policies).header =
      ⟨a.name, Text.scrub (name ++ "Role"), .role, r.retainOnDelete, none⟩ := by
  simp only [roleResource, header_withOutput, Resource.header_optional,
    Resource.header_listProperty, Resource.header_property]
  rfl

@[simp] theorem header_profileResource (r : RoleConfig) :
    (s.profileResource a name r).header =
      ⟨a.name, Text.scrub (name ++ "InstanceProfile"), .instanceProfile, r.retainOnDelete,
        none⟩ := by
  simp only [profileResource, header_withOutput, Resource.header_optional,
    Resource.header_property]
  rfl

@[simp] theorem header_groupResource (g : GroupConfig) (inline policies : List Json) :
    (s.groupResource a name g inline policies).header =
      ⟨a.name, Text.scrub (name ++ "Group"), .group, g.retainOnDelete, none⟩ := by
  simp only [groupResource, header_withOutput, Resource.header_optional,
    Resource.header_listProperty, Resource.header_property]
  rfl

@[simp] theorem header_userResource (u : UserConfig) (policies : List Json) :
    (s.userResource a name u policies).header =
      ⟨a.name, Text.scrub (name ++ "User"), .user, u.retainOnDelete, none⟩ := by
  simp only [userResource, header_withOutput, Resource.header_optional,
    Resource.header_listProperty, Resource.header_property]
  rfl

@[simp] theorem header_bucketResource (b : BucketConfig) :
    (s.bucketResource a name b).header =
      ⟨a.name, Text.scrub (name ++ "Bucket"), .bucket, b.retainOnDelete, none⟩ := by
  simp only [bucketResource, header_withOutput, Resource.header_optional]
  rfl

@[simp] theorem header_bucketPolicyResource (document : Json) :
    (bucketPolicyResource a name document).header =
      ⟨a.name, Text.scrub (name ++ "BucketPolicy"), .bucketPolicy, false, none⟩ := rfl

/-- The bucket that a trail waits for: its own when that is configured. -/
def waitsFor (s : BuildScope) (t : TrailConfig) : Option String :=
  t.bucket.bind fun bucket =>
    if s.config.buckets.contains bucket then some (Text.scrub (bucket ++ "Bucket")) else none

@[simp] theorem header_trailResource (t : TrailConfig) :
    (s.trailResource a name t).header =
      ⟨a.name, Text.scrub (name ++ "Trail"), .trail, t.retainOnDelete, s.waitsFor t⟩ := by
  simp only [trailResource, header_withOutput, Resource.header_optional,
    Resource.header_property]
  rfl

end BuildScope

end OrgStacks
