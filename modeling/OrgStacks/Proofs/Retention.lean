import OrgStacks.Proofs.Linkage

/-!
# What stays when a stack is deleted

Every entity says whether its resources are to be kept, and `Config.Owns` says for which entity an
account has a resource. A template keeps the resources of an entity that asks for it, those that
stand beside the main one too, except for bucket policies, which are never kept. So the templates do
as they are told unless a bucket with a policy is to be kept.
-/

namespace OrgStacks
set_option autoImplicit false

namespace Config

def SectionOwns {α : Type} [Entity α] (r : Registry) (account : String)
    (items : String → α → List Item) (entities : NameMap α) (i : Item) (keep : Bool) : Prop :=
  ∃ name entity, entities.get? name = some entity ∧ r.places entity account = true ∧
    i ∈ items name entity ∧ Entity.retainOnDelete entity = keep

def Owns (c : Config) (r : Registry) (account : String) (i : Item) (keep : Bool) : Prop :=
  SectionOwns r account policyItems c.policies i keep ∨
    SectionOwns r account roleItems c.roles i keep ∨
    SectionOwns r account (groupItems r) c.groups i keep ∨
    SectionOwns r account userItems c.users i keep ∨
    SectionOwns r account bucketItems c.buckets i keep ∨
    SectionOwns r account trailItems c.trails i keep

theorem exists_sectionOwns_iff {α : Type} [Entity α] {r : Registry} {account : String}
    {items : String → α → List Item} {entities : NameMap α} {i : Item} :
    (∃ keep, SectionOwns r account items entities i keep) ↔
      i ∈ placedItems r account items entities := by
  rw [mem_placedItems]
  constructor
  · rintro ⟨_, name, entity, hget, hplaced, hi, _⟩
    exact ⟨name, entity, hget, hplaced, hi⟩
  · rintro ⟨name, entity, hget, hplaced, hi⟩
    exact ⟨_, name, entity, hget, hplaced, hi, rfl⟩

/-- What an account has is what is listed for it. -/
theorem exists_owns_iff {c : Config} {r : Registry} {account : String} {i : Item} :
    (∃ keep, c.Owns r account i keep) ↔ i ∈ c.listed r account := by
  simp only [Owns, exists_or, exists_sectionOwns_iff, listed, List.mem_append, or_assoc]

theorem owns_of_bucket {c : Config} {r : Registry} {account name : String} {b : BucketConfig}
    (hb : c.buckets.get? name = some b) (hplaced : r.places b account = true) {i : Item}
    (hi : i ∈ bucketItems name b) : c.Owns r account i b.retainOnDelete :=
  Or.inr (Or.inr (Or.inr (Or.inr (Or.inl ⟨name, b, hb, hplaced, hi, rfl⟩))))

theorem Owns.bucket {c : Config} {r : Registry} {account id : String} {keep : Bool}
    (h : c.Owns r account (id, .bucketPolicy) keep) :
    ∃ name b, c.buckets.get? name = some b ∧ r.places b account = true ∧
      b.bucketPolicy.isSome = true ∧ b.retainOnDelete = keep := by
  rcases h with h | h | h | h | h | h <;>
    obtain ⟨name, entity, hget, hplaced, hi, hkeep⟩ := h
  case inr.inr.inr.inr.inl =>
    refine ⟨name, entity, hget, hplaced, ?_, hkeep⟩
    by_contra hnone
    simp [bucketItems, hnone] at hi
  all_goals simp [policyItems, roleItems, groupItems, userItems, trailItems] at hi

end Config

namespace Resource

theorem get?_deletionPolicy_toJson (r : Resource) :
    r.toJson.get? "DeletionPolicy" = if r.retain then some (.str "Retain") else none := by
  unfold toJson Json.get?
  cases r.retain <;> cases r.dependsOn <;> cases r.properties.isEmpty <;> simp [valueOf?]

/-- A resource in an account that is kept when its entity is, unless it is a bucket policy. -/
structure Follows (x : Resource) (a : Account) (keep : Bool) : Prop where
  account : x.account = a.name
  retain : x.retain = (keep && x.kind != .bucketPolicy)

theorem follows_of_header {x : Resource} {a : Account} {id : String} {kind : ResourceKind}
    {keep : Bool} {dependsOn : Option String}
    (hx : x.header = ⟨a.name, id, kind, keep, dependsOn⟩) (hkind : kind ≠ .bucketPolicy) :
    x.Follows a keep := by
  have haccount : x.account = a.name := congrArg Header.account hx
  have hretain : x.retain = keep := congrArg Header.retain hx
  have hxkind : x.kind = kind := congrArg Header.kind hx
  refine ⟨haccount, ?_⟩
  simp [hretain, hxkind, hkind]

end Resource

namespace BuildScope
variable {s : BuildScope} {a : Account} {name : String} {x : Resource}

theorem follows_policySteps {p : PolicyConfig} (h : .ok x ∈ s.policySteps a name p) :
    x.Follows a p.retainOnDelete := by
  obtain ⟨_, rfl, _⟩ := made_of_policySteps h
  exact Resource.follows_of_header (header_policyResource ..) (by simp)

theorem follows_roleSteps {r : RoleConfig} (h : .ok x ∈ s.roleSteps a name r) :
    x.Follows a r.retainOnDelete := by
  obtain ⟨_, _, _, _, rfl⟩ | ⟨_, rfl⟩ := made_of_roleSteps h
  · exact Resource.follows_of_header (header_roleResource ..) (by simp)
  · exact Resource.follows_of_header (header_profileResource ..) (by simp)

theorem follows_groupSteps {g : GroupConfig} (h : .ok x ∈ s.groupSteps a name g) :
    x.Follows a g.retainOnDelete := by
  obtain ⟨_, _, _, rfl⟩ | ⟨_, _, _, _, _, _, _, _, rfl⟩ := made_of_groupSteps h
  · exact Resource.follows_of_header (header_groupResource ..) (by simp)
  · exact Resource.follows_of_header (header_groupResource ..) (by simp)

theorem follows_userSteps {u : UserConfig} (h : .ok x ∈ s.userSteps a name u) :
    x.Follows a u.retainOnDelete := by
  obtain ⟨_, _, rfl⟩ := made_of_userSteps h
  exact Resource.follows_of_header (header_userResource ..) (by simp)

theorem follows_bucketSteps {b : BucketConfig} (h : .ok x ∈ s.bucketSteps a name b) :
    x.Follows a b.retainOnDelete := by
  obtain rfl | ⟨_, _, _, _, rfl⟩ := made_of_bucketSteps h
  · exact Resource.follows_of_header (header_bucketResource ..) (by simp)
  · -- The resource of a bucket policy is made without looking at the bucket.
    exact ⟨rfl, by simp [bucketPolicyResource, Resource.property]⟩

theorem follows_trailSteps {t : TrailConfig} (h : .ok x ∈ s.trailSteps a name t) :
    x.Follows a t.retainOnDelete := by
  obtain rfl := made_of_trailSteps h
  exact Resource.follows_of_header (header_trailResource ..) (by simp)

end BuildScope

namespace Config.Compiled
variable {c : Config} {source : PolicySource} {version : String} {r : Registry} {set : TemplateSet}
variable {a : Account} {t : Template}

/-- A resource is there for each item of an entity, and is kept as the entity says. -/
theorem exists_of_sectionOwns {α : Type} [Entity α] (h : c.Compiled source version r set)
    (ha : a ∈ r.toList) (kind : EntityKind) {steps : Account → String → α → Steps}
    {items : String → α → List Item} {entities : NameMap α}
    (hsteps : (BuildScope.of c r source).steps kind =
      (BuildScope.of c r source).allSteps steps entities)
    (hlists : ∀ name entity, BuildScope.Lists steps items a name entity)
    (hfollows : ∀ name entity x, .ok x ∈ steps a name entity →
      x.Follows a (Entity.retainOnDelete entity))
    {i : Item} {keep : Bool} (hi : SectionOwns r a.name items entities i keep) :
    ∃ x ∈ (BuildScope.of c r source).allKinds.resourcesFor a.name,
      x.item = i ∧ x.Follows a keep := by
  obtain ⟨name, entity, hget, hplaced, hi, rfl⟩ := hi
  have hmem : ∀ y ∈ steps a name entity, y ∈ (BuildScope.of c r source).allKinds :=
    fun _ hy => h.mem_allKinds_of_placed ha kind hsteps hget hplaced hy
  have hitems := hlists name entity fun e he => h.no_error e (hmem _ he)
  rw [← hitems] at hi
  obtain ⟨x, hx, rfl⟩ := List.mem_map.mp hi
  have hstep := Steps.mem_resources.mp hx
  have hfollow := hfollows name entity x hstep
  exact ⟨x, Steps.mem_resourcesFor.mpr ⟨hmem _ hstep, hfollow.account⟩, rfl, hfollow⟩

theorem exists_of_owns (h : c.Compiled source version r set) (ha : a ∈ r.toList) {i : Item}
    {keep : Bool} (hi : c.Owns r a.name i keep) :
    ∃ x ∈ (BuildScope.of c r source).allKinds.resourcesFor a.name,
      x.item = i ∧ x.Follows a keep := by
  rcases hi with hi | hi | hi | hi | hi | hi
  · exact h.exists_of_sectionOwns ha .policy rfl
      (fun _ => BuildScope.lists_policySteps) (fun _ _ _ => BuildScope.follows_policySteps) hi
  · exact h.exists_of_sectionOwns ha .role rfl
      (fun _ => BuildScope.lists_roleSteps) (fun _ _ _ => BuildScope.follows_roleSteps) hi
  · exact h.exists_of_sectionOwns ha .group rfl
      (fun _ => BuildScope.lists_groupSteps) (fun _ _ _ => BuildScope.follows_groupSteps) hi
  · exact h.exists_of_sectionOwns ha .user rfl
      (fun _ => BuildScope.lists_userSteps) (fun _ _ _ => BuildScope.follows_userSteps) hi
  · exact h.exists_of_sectionOwns ha .bucket rfl
      (fun _ => BuildScope.lists_bucketSteps) (fun _ _ _ => BuildScope.follows_bucketSteps) hi
  · exact h.exists_of_sectionOwns ha .trail rfl
      (fun _ => BuildScope.lists_trailSteps) (fun _ _ _ => BuildScope.follows_trailSteps) hi

theorem owns_of_get? (h : c.Compiled source version r set) (ha : a ∈ r.toList)
    (ht : set.get? a.name = some t) {id : String} {resource : Json}
    (hget : t.resources.get? id = some resource) :
    ∃ kind keep, c.Owns r a.name (id, kind) keep := by
  have hentry := (h.entries_perm ha ht).mem_iff.mp (NameMap.mem_entries_iff.mpr hget)
  obtain ⟨x, hx, heq⟩ := List.mem_map.mp hentry
  obtain ⟨rfl, _⟩ := Prod.mk.inj heq
  refine ⟨x.kind, exists_owns_iff.mpr ?_⟩
  rw [← h.item_resources ha]
  exact List.mem_map.mpr ⟨x, hx, rfl⟩

/-- Whether a resource is kept is up to its entity, except for bucket policies. -/
theorem deletionPolicy_of_owns (h : c.Compiled source version r set) (ha : a ∈ r.toList)
    (ht : set.get? a.name = some t) {id : String} {kind : ResourceKind} {keep : Bool}
    (hi : c.Owns r a.name (id, kind) keep) :
    ∃ resource, t.resources.get? id = some resource ∧
      resource.get? "Type" = some (.str kind.name) ∧
      resource.get? "DeletionPolicy" =
        if keep = true ∧ kind ≠ .bucketPolicy then some (.str "Retain") else none := by
  obtain ⟨x, hx, hitem, hfollow⟩ := h.exists_of_owns ha hi
  obtain ⟨rfl, rfl⟩ := Prod.mk.inj hitem
  refine ⟨x.toJson, h.get?_of_mem_resourcesFor ha ht hx, x.get?_type_toJson, ?_⟩
  rw [x.get?_deletionPolicy_toJson, hfollow.retain]
  simp

end Config.Compiled

/-- Every resource of the account is kept exactly when the entity that it is there for is to be. -/
def Template.Honours (t : Template) (c : Config) (r : Registry) (account : String) : Prop :=
  ∀ id kind keep resource, c.Owns r account (id, kind) keep → t.resources.get? id = some resource →
    (resource.get? "DeletionPolicy" = some (.str "Retain") ↔ keep = true)

/-- In a compilation every resource is there for an entity, and every item of an entity has its
resource, which is kept when the entity is to be kept and the item is no bucket policy. So a
template honours the configuration exactly when no bucket with a policy is to be kept in it. -/
theorem compile_retains {c : Config} {source : PolicySource} {version : String}
    {done : Compilation} (h : c.compile source version = .ok done) {account : String}
    {t : Template} (ht : done.templates.get? account = some t) :
    (∀ id resource, t.resources.get? id = some resource →
      ∃ kind keep, c.Owns done.registry account (id, kind) keep) ∧
    (∀ id kind keep, c.Owns done.registry account (id, kind) keep →
      ∃ resource, t.resources.get? id = some resource ∧
        resource.get? "Type" = some (.str kind.name) ∧
        resource.get? "DeletionPolicy" =
          if keep = true ∧ kind ≠ .bucketPolicy then some (.str "Retain") else none) ∧
    (t.Honours c done.registry account ↔ ∀ name b, c.buckets.get? name = some b →
      done.registry.places b account = true → b.bucketPolicy.isSome = true →
        b.retainOnDelete = false) := by
  have hdone := Config.compiled_of_compile h
  obtain ⟨a, ha, rfl⟩ := hdone.exists_account ht
  refine ⟨fun _ _ => hdone.owns_of_get? ha ht, fun _ _ _ => hdone.deletionPolicy_of_owns ha ht, ?_⟩
  constructor
  · intro hhonours name b hb hplaced hpolicy
    have howns : c.Owns done.registry a.name (Text.scrub (name ++ "BucketPolicy"), .bucketPolicy)
        b.retainOnDelete :=
      Config.owns_of_bucket hb hplaced (by simp [Config.bucketItems, hpolicy])
    obtain ⟨resource, hget, _, hdeletion⟩ := hdone.deletionPolicy_of_owns ha ht howns
    have hkept := hhonours _ _ _ resource howns hget
    simpa [hdeletion] using hkept
  · intro hbuckets id kind keep resource howns hget
    obtain ⟨resource', hget', _, hdeletion⟩ := hdone.deletionPolicy_of_owns ha ht howns
    obtain rfl : resource = resource' := Option.some.inj (hget.symm.trans hget')
    by_cases hkind : kind = .bucketPolicy
    · subst hkind
      obtain ⟨name, b, hb, hplaced, hpolicy, rfl⟩ := howns.bucket
      simp [hdeletion, hbuckets name b hb hplaced hpolicy]
    · simp [hdeletion, hkind]

def keptLogs : BucketConfig :=
  { inAccounts := some ["all"], bucketPolicy := some ⟨"logs.json", none⟩, retainOnDelete := true }

def orgOfKeptLogs : Config :=
  { orgOfLogs with buckets := NameMap.empty.insert "logs" keptLogs }

theorem orgOfKeptLogs_bucket :
    ∃ done t resource, orgOfKeptLogs.compile textOfLogs "1" = .ok done ∧
      done.templates.get? "root" = some t ∧ t.resources.get? "logsBucket" = some resource ∧
      resource.get? "DeletionPolicy" = some (.str "Retain") := by
  obtain ⟨done, t, hdone, ht, hplaced⟩ :
      ∃ done t, orgOfKeptLogs.compile textOfLogs "1" = .ok done ∧
        done.templates.get? "root" = some t ∧ done.registry.places keptLogs "root" = true :=
    ⟨_, _, rfl, rfl, rfl⟩
  have hitem : ("logsBucket", .bucket) ∈ Config.bucketItems "logs" keptLogs := by decide
  have howns : orgOfKeptLogs.Owns done.registry "root" ("logsBucket", .bucket) true :=
    Config.owns_of_bucket rfl hplaced hitem
  obtain ⟨resource, hget, _, hdeletion⟩ := (compile_retains hdone ht).2.1 _ _ _ howns
  exact ⟨done, t, resource, hdone, ht, hget, by simpa using hdeletion⟩

/-- The policy of a bucket that is to be kept goes with the stack. -/
theorem orgOfKeptLogs_policy_not_kept :
    ∃ done t resource, orgOfKeptLogs.compile textOfLogs "1" = .ok done ∧
      done.templates.get? "root" = some t ∧
      orgOfKeptLogs.Owns done.registry "root" ("logsBucketPolicy", .bucketPolicy) true ∧
      t.resources.get? "logsBucketPolicy" = some resource ∧
      resource.get? "DeletionPolicy" = none := by
  have hitem : ("logsBucketPolicy", .bucketPolicy) ∈ Config.bucketItems "logs" keptLogs := by
    decide
  exact ⟨_, _, _, rfl, rfl, Config.owns_of_bucket rfl rfl hitem, rfl, rfl⟩

end OrgStacks
