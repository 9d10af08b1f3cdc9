import OrgStacks.Build
import OrgStacks.Proofs.Emission
import OrgStacks.Proofs.Resource

/-!
# What building can do

`BuildScope.Makes` lists the resources that building can make for an account, each with everything
that led to it, and `makes_of_mem` says that there are no others. The `error_mem` statements do
the same for the problems that stop the building.
-/

namespace OrgStacks
set_option autoImplicit false

namespace BuildScope

def of (c : Config) (r : Registry) (source : PolicySource) : BuildScope :=
  ⟨c, r, .ofPolicies r c.policies, source⟩

def allKinds (s : BuildScope) : Steps := EntityKind.all.flatMap s.steps

theorem mem_allKinds {s : BuildScope} {x : Except Problem Resource} :
    x ∈ s.allKinds ↔ ∃ kind, x ∈ s.steps kind := by
  unfold allKinds
  rw [List.mem_flatMap]
  constructor
  · rintro ⟨kind, _, hx⟩
    exact ⟨kind, hx⟩
  · rintro ⟨kind, hx⟩
    exact ⟨kind, by cases kind <;> decide, hx⟩

theorem mem_given {α : Type} {value : Except Problem α} {steps : α → Steps}
    {x : Except Problem Resource} :
    x ∈ given value steps ↔
      (∃ e, value = .error e ∧ x = .error e) ∨ ∃ a, value = .ok a ∧ x ∈ steps a := by
  cases value <;> simp [given]

theorem error_mem_given {α : Type} {value : Except Problem α} {steps : α → Steps} {e : Problem} :
    .error e ∈ given value steps ↔
      value = .error e ∨ ∃ a, value = .ok a ∧ .error e ∈ steps a := by
  cases value <;> simp [given, eq_comm]

variable {s : BuildScope}

theorem mem_allSteps {α : Type} [Entity α] (hr : s.registry.Sound)
    {steps : Account → String → α → Steps} {entities : NameMap α} {x : Except Problem Resource} :
    x ∈ s.allSteps steps entities ↔ ∃ name entity, entities.get? name = some entity ∧
      ((∃ e, s.registry.select (Entity.context entity) = .error e ∧ x = .error e) ∨
      ∃ a ∈ s.registry.toList, s.registry.places entity a.name = true ∧
        x ∈ steps a name entity) := by
  simp only [allSteps, List.mem_flatMap, Prod.exists, NameMap.mem_entries_iff, entitySteps,
    mem_given]
  refine exists_congr fun name => exists_congr fun entity => and_congr_right fun _ => ?_
  refine or_congr Iff.rfl ?_
  constructor
  · rintro ⟨accounts, hselect, account, haccount, hx⟩
    have hplaced := (Registry.places_of_select hselect).mpr (NameSet.mem_toList.mp haccount)
    obtain ⟨a, ha, hname, hget⟩ := hr.exists_account_of_places hplaced
    subst hname
    rcases hx with ⟨e, he, _⟩ | ⟨b, hb, hx⟩
    · rw [hget] at he
      cases he
    · rw [hget] at hb
      cases hb
      exact ⟨a, ha, hplaced, hx⟩
  · rintro ⟨a, ha, hplaced, hx⟩
    obtain ⟨accounts, hselect, hname⟩ := Registry.places_iff.mp hplaced
    refine ⟨accounts, hselect, a.name, NameSet.mem_toList.mpr hname, Or.inr ⟨a, ?_, hx⟩⟩
    exact Registry.account_eq_ok_iff.mpr (hr.mem_toList_iff.mp ha)

variable {a : Account} {name : String} {e : Problem}

theorem error_mem_policySteps {p : PolicyConfig} :
    .error e ∈ s.policySteps a name p ↔ p.body name = .error e ∨
      (∃ file, p.body name = .ok (.file file) ∧ s.document file a = .error e) ∨
      ∃ assume, p.body name = .ok (.assume assume) ∧ s.assumeDocument assume = .error e := by
  unfold policySteps
  rw [error_mem_given]
  refine or_congr Iff.rfl ?_
  cases p.body name with
  | error p => simp
  | ok body => cases body <;> simp

theorem error_mem_roleSteps {r : RoleConfig} :
    .error e ∈ s.roleSteps a name r ↔ s.registry.trustDocument r.trusts = .error e ∨
      ∃ trust, s.registry.trustDocument r.trusts = .ok trust ∧
        s.managedPolicies r.managedPolicies a name = .error e := by
  unfold roleSteps
  simp only [error_mem_given]
  refine or_congr Iff.rfl (exists_congr fun trust => and_congr_right fun _ => ?_)
  cases r.needsInstanceProfile <;> simp

theorem error_mem_groupSteps {g : GroupConfig} :
    .error e ∈ s.groupSteps a name g ↔
      (g.inlinePolicies = none ∧ s.managedPolicies g.managedPolicies a name = .error e) ∨
      ∃ roles, g.inlinePolicies = some roles ∧ ∃ child ∈ s.registry.childAccounts,
        ∃ role ∈ roles,
          s.managedPolicies g.managedPolicies a (expandedName child role) = .error e := by
  unfold groupSteps groupStep
  cases g.inlinePolicies <;> simp

theorem error_mem_userSteps {u : UserConfig} :
    .error e ∈ s.userSteps a name u ↔ s.managedPolicies u.managedPolicies a name = .error e := by
  simp [userSteps]

theorem error_mem_bucketSteps {b : BucketConfig} :
    .error e ∈ s.bucketSteps a name b ↔
      ∃ p, b.bucketPolicy = some p ∧ s.document p.file a = .error e := by
  unfold bucketSteps
  cases b.bucketPolicy <;> simp

theorem error_not_mem_trailSteps {t : TrailConfig} : .error e ∉ s.trailSteps a name t := by
  simp [trailSteps]

/-- The resources that building can make for an account. -/
inductive Makes (s : BuildScope) (a : Account) : Resource → Prop where
  | filePolicy {name : String} {p : PolicyConfig} {file : PolicyFile} {document : Json} :
      s.config.policies.get? name = some p → s.registry.places p a.name = true →
      p.body name = .ok (.file file) → s.document file a = .ok document →
      Makes s a (s.policyResource a name p document)
  | assumePolicy {name : String} {p : PolicyConfig} {assume : AssumeConfig}
      {document : PolicyDocument} :
      s.config.policies.get? name = some p → s.registry.places p a.name = true →
      p.body name = .ok (.assume assume) → s.assumeDocument assume = .ok document →
      Makes s a (s.policyResource a name p document.toJson.sorted)
  | role {name : String} {r : RoleConfig} {trust : PolicyDocument} {policies : List Json} :
      s.config.roles.get? name = some r → s.registry.places r a.name = true →
      s.registry.trustDocument r.trusts = .ok trust →
      s.managedPolicies r.managedPolicies a name = .ok policies →
      Makes s a (s.roleResource a name r trust policies)
  | profile {name : String} {r : RoleConfig} :
      s.config.roles.get? name = some r → s.registry.places r a.name = true →
      r.needsInstanceProfile = true → Makes s a (s.profileResource a name r)
  | group {name : String} {g : GroupConfig} {policies : List Json} :
      s.config.groups.get? name = some g → s.registry.places g a.name = true →
      g.inlinePolicies = none → s.managedPolicies g.managedPolicies a name = .ok policies →
      Makes s a (s.groupResource a name g [] policies)
  | expandedGroup {name : String} {g : GroupConfig} {roles : List String} {child : Account}
      {role : String} {policies : List Json} :
      s.config.groups.get? name = some g → s.registry.places g a.name = true →
      g.inlinePolicies = some roles → child ∈ s.registry.childAccounts → role ∈ roles →
      s.managedPolicies g.managedPolicies a (expandedName child role) = .ok policies →
      Makes s a
        (s.groupResource a (expandedName child role) g [inlinePolicy child role] policies)
  | user {name : String} {u : UserConfig} {policies : List Json} :
      s.config.users.get? name = some u → s.registry.places u a.name = true →
      s.managedPolicies u.managedPolicies a name = .ok policies →
      Makes s a (s.userResource a name u policies)
  | bucket {name : String} {b : BucketConfig} :
      s.config.buckets.get? name = some b → s.registry.places b a.name = true →
      Makes s a (s.bucketResource a name b)
  | bucketPolicy {name : String} {b : BucketConfig} {p : BucketPolicyConfig} {document : Json} :
      s.config.buckets.get? name = some b → s.registry.places b a.name = true →
      b.bucketPolicy = some p → s.document p.file a = .ok document →
      Makes s a (bucketPolicyResource a name document)
  | trail {name : String} {t : TrailConfig} :
      s.config.trails.get? name = some t → s.registry.places t a.name = true →
      Makes s a (s.trailResource a name t)

variable {x : Resource}

theorem account_of_header {y : Resource.Header} (h : x.header = y) : x.account = y.account :=
  congrArg Resource.Header.account h

theorem Makes.account_eq (h : s.Makes a x) : x.account = a.name := by
  cases h with
  | filePolicy => exact account_of_header (header_policyResource ..)
  | assumePolicy => exact account_of_header (header_policyResource ..)
  | role => exact account_of_header (header_roleResource ..)
  | profile => exact account_of_header (header_profileResource ..)
  | group => exact account_of_header (header_groupResource ..)
  | expandedGroup => exact account_of_header (header_groupResource ..)
  | user => exact account_of_header (header_userResource ..)
  | bucket => exact account_of_header (header_bucketResource ..)
  | bucketPolicy => rfl
  | trail => exact account_of_header (header_trailResource ..)

/-- A resource that is made has its own output at most. -/
theorem Makes.output (h : s.Makes a x) {o : Output} (ho : o ∈ x.outputs) :
    o.BelongsTo x.header := by
  have houtput {r : Resource} {p : Output} {y : Resource.Header}
      (ho : o ∈ (s.withOutput r p).outputs) (hy : (s.withOutput r p).header = y)
      (hr : r.outputs = []) (hp : p.BelongsTo y) : o.BelongsTo (s.withOutput r p).header := by
    rw [mem_outputs_withOutput hr ho, hy]
    exact hp
  cases h with
  | filePolicy =>
    exact houtput ho (header_policyResource ..) (by simp) ⟨⟨_, rfl, rfl⟩, Or.inl rfl⟩
  | assumePolicy =>
    exact houtput ho (header_policyResource ..) (by simp) ⟨⟨_, rfl, rfl⟩, Or.inl rfl⟩
  | role => exact houtput ho (header_roleResource ..) (by simp) (belongsTo_arnOutput rfl rfl)
  | profile => exact houtput ho (header_profileResource ..) (by simp) ⟨⟨_, rfl, rfl⟩, Or.inl rfl⟩
  | group => exact houtput ho (header_groupResource ..) (by simp) (belongsTo_arnOutput rfl rfl)
  | expandedGroup =>
    exact houtput ho (header_groupResource ..) (by simp) (belongsTo_arnOutput rfl rfl)
  | user => exact houtput ho (header_userResource ..) (by simp) (belongsTo_arnOutput rfl rfl)
  | bucket => exact houtput ho (header_bucketResource ..) (by simp) (belongsTo_arnOutput rfl rfl)
  | bucketPolicy => cases ho
  | trail => exact houtput ho (header_trailResource ..) (by simp) (belongsTo_arnOutput rfl rfl)

theorem made_of_policySteps {p : PolicyConfig} (h : .ok x ∈ s.policySteps a name p) :
    ∃ document, x = s.policyResource a name p document ∧
      ((∃ file, p.body name = .ok (.file file) ∧ s.document file a = .ok document) ∨
        ∃ assume d, p.body name = .ok (.assume assume) ∧ s.assumeDocument assume = .ok d ∧
          d.toJson.sorted = document) := by
  unfold policySteps at h
  rcases mem_given.mp h with ⟨e, _, he⟩ | ⟨body, hbody, h⟩
  · cases he
  · cases body with
    | inline => cases h
    | file file =>
      obtain ⟨document, hd, rfl⟩ := map_eq_ok_iff.mp (List.mem_singleton.mp h).symm
      exact ⟨document, rfl, .inl ⟨file, hbody, hd⟩⟩
    | assume assume =>
      obtain ⟨d, hd, rfl⟩ := map_eq_ok_iff.mp (List.mem_singleton.mp h).symm
      exact ⟨_, rfl, .inr ⟨assume, d, hbody, hd, rfl⟩⟩

theorem made_of_roleSteps {r : RoleConfig} (h : .ok x ∈ s.roleSteps a name r) :
    (∃ trust policies, s.registry.trustDocument r.trusts = .ok trust ∧
        s.managedPolicies r.managedPolicies a name = .ok policies ∧
        x = s.roleResource a name r trust policies) ∨
      r.needsInstanceProfile = true ∧ x = s.profileResource a name r := by
  unfold roleSteps at h
  rcases mem_given.mp h with ⟨e, _, he⟩ | ⟨trust, htrust, h⟩
  · cases he
  · rcases mem_given.mp h with ⟨e, _, he⟩ | ⟨policies, hpolicies, h⟩
    · cases he
    · rcases List.mem_cons.mp h with hx | h
      · cases hx
        exact .inl ⟨trust, policies, htrust, hpolicies, rfl⟩
      · split at h
        · cases List.mem_singleton.mp h
          exact .inr ⟨by assumption, rfl⟩
        · cases h

theorem made_of_groupSteps {g : GroupConfig} (h : .ok x ∈ s.groupSteps a name g) :
    (∃ policies, g.inlinePolicies = none ∧
        s.managedPolicies g.managedPolicies a name = .ok policies ∧
        x = s.groupResource a name g [] policies) ∨
      ∃ roles child role policies, g.inlinePolicies = some roles ∧
        child ∈ s.registry.childAccounts ∧ role ∈ roles ∧
        s.managedPolicies g.managedPolicies a (expandedName child role) = .ok policies ∧
        x = s.groupResource a (expandedName child role) g [inlinePolicy child role] policies := by
  unfold groupSteps groupStep at h
  split at h
  · next hinline =>
    obtain ⟨policies, hp, rfl⟩ := map_eq_ok_iff.mp (List.mem_singleton.mp h).symm
    exact .inl ⟨policies, hinline, hp, rfl⟩
  · next roles hinline =>
    obtain ⟨child, hchild, h⟩ := List.mem_flatMap.mp h
    obtain ⟨role, hrole, h⟩ := List.mem_map.mp h
    obtain ⟨policies, hp, rfl⟩ := map_eq_ok_iff.mp h
    exact .inr ⟨roles, child, role, policies, hinline, hchild, hrole, hp, rfl⟩

theorem made_of_userSteps {u : UserConfig} (h : .ok x ∈ s.userSteps a name u) :
    ∃ policies, s.managedPolicies u.managedPolicies a name = .ok policies ∧
      x = s.userResource a name u policies := by
  obtain ⟨policies, hp, rfl⟩ := map_eq_ok_iff.mp (List.mem_singleton.mp h).symm
  exact ⟨policies, hp, rfl⟩

theorem made_of_bucketSteps {b : BucketConfig} (h : .ok x ∈ s.bucketSteps a name b) :
    x = s.bucketResource a name b ∨ ∃ p document, b.bucketPolicy = some p ∧
      s.document p.file a = .ok document ∧ x = bucketPolicyResource a name document := by
  unfold bucketSteps at h
  rcases List.mem_cons.mp h with hx | h
  · cases hx
    exact .inl rfl
  · split at h
    · cases h
    · next p hp =>
      obtain ⟨document, hd, rfl⟩ := map_eq_ok_iff.mp (List.mem_singleton.mp h).symm
      exact .inr ⟨p, document, hp, hd, rfl⟩

theorem made_of_trailSteps {t : TrailConfig} (h : .ok x ∈ s.trailSteps a name t) :
    x = s.trailResource a name t := by
  cases List.mem_singleton.mp h
  rfl

/-- What the steps make is for the account that they are asked for. -/
def Local {α : Type} (steps : Account → String → α → Steps) : Prop :=
  ∀ {a : Account} {name : String} {entity : α} {x : Resource},
    .ok x ∈ steps a name entity → x.account = a.name

theorem local_policySteps : Local s.policySteps := by
  intro a name p x h
  obtain ⟨document, rfl, _⟩ := made_of_policySteps h
  exact account_of_header (header_policyResource p document)

theorem local_roleSteps : Local s.roleSteps := by
  intro a name r x h
  obtain ⟨trust, policies, _, _, rfl⟩ | ⟨_, rfl⟩ := made_of_roleSteps h
  · exact account_of_header (header_roleResource r trust policies)
  · exact account_of_header (header_profileResource r)

theorem local_groupSteps : Local s.groupSteps := by
  intro a name g x h
  obtain ⟨policies, _, _, rfl⟩ | ⟨_, _, _, policies, _, _, _, _, rfl⟩ := made_of_groupSteps h
  · exact account_of_header (header_groupResource g [] policies)
  · exact account_of_header (header_groupResource g _ policies)

theorem local_userSteps : Local s.userSteps := by
  intro a name u x h
  obtain ⟨policies, _, rfl⟩ := made_of_userSteps h
  exact account_of_header (header_userResource u policies)

theorem local_bucketSteps : Local s.bucketSteps := by
  intro a name b x h
  obtain rfl | ⟨_, document, _, _, rfl⟩ := made_of_bucketSteps h
  · exact account_of_header (header_bucketResource b)
  · exact account_of_header (header_bucketPolicyResource document)

theorem local_trailSteps : Local s.trailSteps := by
  intro a name t x h
  obtain rfl := made_of_trailSteps h
  exact account_of_header (header_trailResource t)

theorem ok_mem_policySteps {p : PolicyConfig} (hget : s.config.policies.get? name = some p)
    (hplaced : s.registry.places p a.name = true) (h : .ok x ∈ s.policySteps a name p) :
    s.Makes a x := by
  obtain ⟨_, rfl, ⟨_, hbody, hd⟩ | ⟨_, _, hbody, hd, rfl⟩⟩ := made_of_policySteps h
  · exact .filePolicy hget hplaced hbody hd
  · exact .assumePolicy hget hplaced hbody hd

theorem ok_mem_roleSteps {r : RoleConfig} (hget : s.config.roles.get? name = some r)
    (hplaced : s.registry.places r a.name = true) (h : .ok x ∈ s.roleSteps a name r) :
    s.Makes a x := by
  obtain ⟨_, _, htrust, hpolicies, rfl⟩ | ⟨hneeds, rfl⟩ := made_of_roleSteps h
  · exact .role hget hplaced htrust hpolicies
  · exact .profile hget hplaced hneeds

theorem ok_mem_groupSteps {g : GroupConfig} (hget : s.config.groups.get? name = some g)
    (hplaced : s.registry.places g a.name = true) (h : .ok x ∈ s.groupSteps a name g) :
    s.Makes a x := by
  obtain ⟨_, hinline, hp, rfl⟩ | ⟨_, _, _, _, hinline, hchild, hrole, hp, rfl⟩ :=
    made_of_groupSteps h
  · exact .group hget hplaced hinline hp
  · exact .expandedGroup hget hplaced hinline hchild hrole hp

theorem ok_mem_userSteps {u : UserConfig} (hget : s.config.users.get? name = some u)
    (hplaced : s.registry.places u a.name = true) (h : .ok x ∈ s.userSteps a name u) :
    s.Makes a x := by
  obtain ⟨_, hp, rfl⟩ := made_of_userSteps h
  exact .user hget hplaced hp

theorem ok_mem_bucketSteps {b : BucketConfig} (hget : s.config.buckets.get? name = some b)
    (hplaced : s.registry.places b a.name = true) (h : .ok x ∈ s.bucketSteps a name b) :
    s.Makes a x := by
  obtain rfl | ⟨_, _, hp, hd, rfl⟩ := made_of_bucketSteps h
  · exact .bucket hget hplaced
  · exact .bucketPolicy hget hplaced hp hd

theorem ok_mem_trailSteps {t : TrailConfig} (hget : s.config.trails.get? name = some t)
    (hplaced : s.registry.places t a.name = true) (h : .ok x ∈ s.trailSteps a name t) :
    s.Makes a x := by
  obtain rfl := made_of_trailSteps h
  exact .trail hget hplaced

/-- Building makes nothing but the resources of `Makes`. -/
theorem makes_of_mem (hr : s.registry.Sound) {kind : EntityKind} (h : .ok x ∈ s.steps kind) :
    ∃ a ∈ s.registry.toList, s.Makes a x := by
  cases kind <;>
    obtain ⟨name, entity, hget, ⟨e, _, he⟩ | ⟨a, ha, hplaced, h⟩⟩ := (mem_allSteps hr).mp h
  case policy.inr => exact ⟨a, ha, ok_mem_policySteps hget hplaced h⟩
  case role.inr => exact ⟨a, ha, ok_mem_roleSteps hget hplaced h⟩
  case group.inr => exact ⟨a, ha, ok_mem_groupSteps hget hplaced h⟩
  case user.inr => exact ⟨a, ha, ok_mem_userSteps hget hplaced h⟩
  case bucket.inr => exact ⟨a, ha, ok_mem_bucketSteps hget hplaced h⟩
  case trail.inr => exact ⟨a, ha, ok_mem_trailSteps hget hplaced h⟩
  all_goals cases he

theorem makes_of_mem_resourcesFor (hr : s.registry.Sound) (ha : a ∈ s.registry.toList)
    (hx : x ∈ s.allKinds.resourcesFor a.name) : s.Makes a x := by
  obtain ⟨hmem, haccount⟩ := Steps.mem_resourcesFor.mp hx
  obtain ⟨kind, hkind⟩ := mem_allKinds.mp hmem
  obtain ⟨b, hb, hmakes⟩ := makes_of_mem hr hkind
  obtain rfl := hr.eq_of_name_eq ha hb (haccount.symm.trans hmakes.account_eq)
  exact hmakes

end BuildScope

end OrgStacks
