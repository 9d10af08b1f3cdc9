import Mathlib.Data.List.Duplicate
import OrgStacks.Proofs.Foresight
import OrgStacks.Proofs.Listing

/-!
# When ids clash

A logical id is a scrubbed name with an ending that tells the kind of the resource, and only a
managed policy has none. So ids clash within a kind or with a managed policy, `Config.Clash`, and
outputs never do. An instance profile and a bucket policy follow the resource whose name they share,
and so are never the first to clash.
-/

namespace OrgStacks
set_option autoImplicit false

namespace ResourceKind

def suffix : ResourceKind → String
  | managedPolicy => ""
  | role => "Role"
  | instanceProfile => "InstanceProfile"
  | group => "Group"
  | user => "User"
  | bucket => "Bucket"
  | bucketPolicy => "BucketPolicy"
  | trail => "Trail"

/-- The kind of the resource that comes before one of this kind and shares its name. -/
def leader? : ResourceKind → Option ResourceKind
  | instanceProfile => some role
  | bucketPolicy => some bucket
  | _ => none

end ResourceKind

def EntityKind.resourceKind : EntityKind → ResourceKind
  | policy => .managedPolicy
  | role => .role
  | group => .group
  | user => .user
  | bucket => .bucket
  | trail => .trail

theorem EntityKind.exists_resourceKind {k : ResourceKind} (h : k.leader? = none) :
    ∃ kind : EntityKind, kind.resourceKind = k := by
  cases k with
  | managedPolicy => exact ⟨.policy, rfl⟩
  | role => exact ⟨.role, rfl⟩
  | instanceProfile => cases h
  | group => exact ⟨.group, rfl⟩
  | user => exact ⟨.user, rfl⟩
  | bucket => exact ⟨.bucket, rfl⟩
  | bucketPolicy => cases h
  | trail => exact ⟨.trail, rfl⟩

namespace Config

/-- The names in an account whose resources are of the kind of their section: inline policies have
no resource, and a group counts as the groups that it stands for. -/
def sectionNames (c : Config) (r : Registry) (account : String) : EntityKind → List String
  | .policy => ((placed r account c.policies).filter fun e => !e.2.inline).map Prod.fst
  | .role => (placed r account c.roles).map Prod.fst
  | .group => (placed r account c.groups).flatMap fun e => groupNames r e.1 e.2
  | .user => (placed r account c.users).map Prod.fst
  | .bucket => (placed r account c.buckets).map Prod.fst
  | .trail => (placed r account c.trails).map Prod.fst

/-- The ids that two resources of an account claim: two of one section whose names scrub to the
same text, or a managed policy and a resource of another kind. -/
inductive Clash (c : Config) (r : Registry) (account : String) : String → Prop where
  | sameSection {kind : EntityKind} {text : String} :
      ((c.sectionNames r account kind).map Text.scrub).Duplicate text →
      Clash c r account (text ++ kind.resourceKind.suffix)
  | policy {name : String} {other : ResourceKind} :
      name ∈ c.sectionNames r account .policy → other ≠ .managedPolicy →
      (Text.scrub name, other) ∈ c.listed r account → Clash c r account (Text.scrub name)

/-- Every policy file can be read, filled in and parsed in the accounts that need it. -/
def FilesRender (c : Config) (r : Registry) (source : PolicySource) : Prop :=
  ∀ a ∈ r.toList, ∀ file, c.UsesFile r a file →
    ∃ document, file.document source c a r.parent = .ok document

end Config

theorem isSuffix_of_append_eq {a b s t : String} (h : a ++ s = b ++ t) :
    s.toList <:+ t.toList ∨ t.toList <:+ s.toList := by
  have hlist : a.toList ++ s.toList = b.toList ++ t.toList := by
    simpa using congrArg String.toList h
  exact List.suffix_or_suffix_of_suffix ⟨a.toList, rfl⟩ ⟨b.toList, hlist.symm⟩

namespace ResourceKind

theorem scrub_append_suffix (name : String) (k : ResourceKind) :
    Text.scrub (name ++ k.suffix) = Text.scrub name ++ k.suffix := by
  rw [Text.scrub_append]
  cases k <;> rfl

/-- Only the ending of a managed policy is an ending of another. -/
theorem eq_of_suffix {k k' : ResourceKind} (hk : k ≠ managedPolicy)
    (h : k.suffix.toList <:+ k'.suffix.toList) : k = k' := by
  cases k <;> cases k' <;> first | rfl | exact absurd rfl hk | exact absurd h (by decide)

theorem eq_of_ids {k k' : ResourceKind} (hk : k ≠ managedPolicy) (hk' : k' ≠ managedPolicy)
    {a b : String} (h : a ++ k.suffix = b ++ k'.suffix) : k = k' := by
  rcases isSuffix_of_append_eq h with h | h
  · exact eq_of_suffix hk h
  · exact (eq_of_suffix hk' h).symm

theorem eq_of_output_suffix {k k' : ResourceKind} {u u' : String} (hu : k.outputSuffix? = some u)
    (hu' : k'.outputSuffix? = some u') (h : (k.suffix ++ u).toList <:+ (k'.suffix ++ u').toList) :
    k = k' := by
  cases k <;> cases hu <;> cases k' <;> cases hu' <;>
    first | rfl | exact absurd h (by decide)

end ResourceKind

namespace BuildScope
variable {s : BuildScope} {a : Account} {x y : Resource}

theorem Makes.named (h : s.Makes a x) :
    ∃ name, x.header.logicalId = Text.scrub name ++ x.header.kind.suffix := by
  have hnamed {r : Resource} {y : Resource.Header} (hy : r.header = y) (name : String)
      (hname : y.logicalId = Text.scrub (name ++ y.kind.suffix)) :
      ∃ name, r.header.logicalId = Text.scrub name ++ r.header.kind.suffix :=
    ⟨name, by rw [hy, hname, ResourceKind.scrub_append_suffix]⟩
  cases h with
  | @filePolicy name => exact hnamed (header_policyResource ..) name (by simp [ResourceKind.suffix])
  | @assumePolicy name =>
    exact hnamed (header_policyResource ..) name (by simp [ResourceKind.suffix])
  | @role name => exact hnamed (header_roleResource ..) name rfl
  | @profile name => exact hnamed (header_profileResource ..) name rfl
  | @group name => exact hnamed (header_groupResource ..) name rfl
  | expandedGroup => exact hnamed (header_groupResource ..) _ rfl
  | @user name => exact hnamed (header_userResource ..) name rfl
  | @bucket name => exact hnamed (header_bucketResource ..) name rfl
  | @bucketPolicy name => exact hnamed (header_bucketPolicyResource ..) name rfl
  | @trail name => exact hnamed (header_trailResource ..) name rfl

theorem Makes.kind_eq (hx : s.Makes a x) (hy : s.Makes a y) (hkx : x.kind ≠ .managedPolicy)
    (hky : y.kind ≠ .managedPolicy) (h : x.logicalId = y.logicalId) : x.kind = y.kind := by
  obtain ⟨name, hname⟩ := hx.named
  obtain ⟨name', hname'⟩ := hy.named
  exact ResourceKind.eq_of_ids hkx hky (hname.symm.trans (h.trans hname'))

/-- Outputs under one id belong to resources of one kind under one id. -/
theorem Makes.item_eq_of_outputs (hx : s.Makes a x) (hy : s.Makes a y) {o p : Output}
    (ho : o ∈ x.outputs) (hp : p ∈ y.outputs) (h : o.logicalId = p.logicalId) :
    x.item = y.item := by
  obtain ⟨name, hname⟩ := hx.named
  obtain ⟨name', hname'⟩ := hy.named
  obtain ⟨u, hu, hou⟩ := (hx.output ho).logicalId
  obtain ⟨v, hv, hpv⟩ := (hy.output hp).logicalId
  have hid : x.header.logicalId ++ u = y.header.logicalId ++ v := by rw [← hou, ← hpv, h]
  have hends : Text.scrub name ++ (x.header.kind.suffix ++ u) =
      Text.scrub name' ++ (y.header.kind.suffix ++ v) := by
    rw [← String.append_assoc, ← hname, ← String.append_assoc, ← hname', hid]
  have hkind : x.header.kind = y.header.kind := by
    rcases isSuffix_of_append_eq hends with hend | hend
    · exact ResourceKind.eq_of_output_suffix hu hv hend
    · exact (ResourceKind.eq_of_output_suffix hv hu hend).symm
  rw [hkind, hv] at hu
  cases hu
  exact Prod.ext ((String.append_left_inj _).mp hid) hkind

theorem Makes.output_ne_build (hx : s.Makes a x) {o : Output} (ho : o ∈ x.outputs) :
    o.logicalId ≠ "TemplateBuild" := by
  intro h
  obtain ⟨u, hu, hou⟩ := (hx.output ho).logicalId
  have hend : u.toList <:+ "TemplateBuild".toList := by
    rw [← h, hou]
    exact ⟨x.header.logicalId.toList, by simp⟩
  generalize x.header.kind = k at hu
  cases k <;> cases hu <;> exact absurd hend (by decide)

end BuildScope

/-- The first item is the leader of the second: they are there for one name. -/
def Item.Leads (j i : Item) : Prop :=
  i.2.leader? = some j.2 ∧ ∃ text, j.1 = text ++ j.2.suffix ∧ i.1 = text ++ i.2.suffix

theorem Item.Leads.unique {j j' i : Item} (h : j.Leads i) (h' : j'.Leads i) : j = j' := by
  obtain ⟨hkind, text, hj, hi⟩ := h
  obtain ⟨hkind', text', hj', hi'⟩ := h'
  have hkinds : j.2 = j'.2 := Option.some.inj (hkind.symm.trans hkind')
  have htext : text = text' := (String.append_left_inj _).mp (hi.symm.trans hi')
  exact Prod.ext (by rw [hj, hj', hkinds, htext]) hkinds

theorem ResourceKind.leader?_leader {k k' : ResourceKind} (h : k.leader? = some k') :
    k'.leader? = none := by
  cases k <;> cases h <;> rfl

/-- A list of items in which every item that has a leader comes right after it. -/
inductive Led : List Item → Prop where
  | nil : Led []
  | leader {i : Item} {l : List Item} : i.2.leader? = none → Led l → Led (i :: l)
  | pair {j i : Item} {l : List Item} : j.Leads i → Led l → Led (j :: i :: l)

namespace Led

theorem append {l l' : List Item} (h : Led l) (h' : Led l') : Led (l ++ l') := by
  induction h with
  | nil => exact h'
  | leader hi _ ih => exact .leader hi ih
  | pair hj _ ih => exact .pair hj ih

theorem flatMap {α : Type} {l : List α} {f : α → List Item} (h : ∀ x ∈ l, Led (f x)) :
    Led (l.flatMap f) := by
  induction l with
  | nil => exact .nil
  | cons x l ih =>
    exact (h x List.mem_cons_self).append (ih fun y hy => h y (List.mem_cons_of_mem x hy))

theorem of_leaders {l : List Item} (h : ∀ i ∈ l, i.2.leader? = none) : Led l := by
  induction l with
  | nil => exact .nil
  | cons i l ih =>
    exact .leader (h i List.mem_cons_self) (ih fun j hj => h j (List.mem_cons_of_mem i hj))

theorem before {l l₁ l₂ : List Item} {i : Item} (h : Led l) (hl : l = l₁ ++ i :: l₂)
    (hi : i.2.leader? ≠ none) : ∃ l₀ j, l₁ = l₀ ++ [j] ∧ j.Leads i := by
  induction h generalizing l₁ with
  | nil => simp at hl
  | leader hk _ ih =>
    cases l₁ with
    | nil =>
      cases hl
      exact absurd hk hi
    | cons j l₁ =>
      obtain ⟨l₀, m, rfl, hm⟩ := ih (List.cons.inj hl).2
      exact ⟨j :: l₀, m, rfl, hm⟩
  | @pair j k l hj _ ih =>
    match l₁ with
    | [] =>
      cases hl
      exact absurd (ResourceKind.leader?_leader hj.1) hi
    | [m] =>
      cases hl
      exact ⟨[], j, rfl, hj⟩
    | m :: n :: l₁ =>
      obtain ⟨l₀, o, rfl, ho⟩ := ih (List.cons.inj (List.cons.inj hl).2).2
      exact ⟨m :: n :: l₀, o, rfl, ho⟩

/-- An item is repeated only when its leader was repeated before. -/
theorem leader?_of_mem {l l₁ l₂ : List Item} {i : Item} (h : Led l) (hl : l = l₁ ++ i :: l₂)
    (hdistinct : l₁.Nodup) (hmem : i ∈ l₁) : i.2.leader? = none := by
  by_contra hi
  -- The leader comes right before both occurrences, so it is there twice before the second.
  obtain ⟨m₁, m₂, rfl⟩ := List.append_of_mem hmem
  obtain ⟨l₀, j, hlast, hj⟩ := h.before hl hi
  obtain ⟨m₀, k, rfl, hk⟩ := h.before (hl.trans (List.append_assoc ..)) hi
  obtain rfl := hk.unique hj
  have hend : k ∈ i :: m₂ := by
    have hget := congrArg List.getLast? hlast
    rw [List.getLast?_append_of_ne_nil _ (List.cons_ne_nil i m₂), List.getLast?_concat] at hget
    exact List.mem_of_getLast? hget
  rw [List.nodup_append] at hdistinct
  exact hdistinct.2.2 k (List.mem_append_right _ (List.mem_singleton.mpr rfl)) k hend rfl

end Led

namespace Config
variable {c : Config} {r : Registry} {account : String}

theorem filter_placedItems {α : Type} [Entity α] (items : String → α → List Item)
    (entities : NameMap α) (p : Item → Bool) :
    (placedItems r account items entities).filter p =
      (placed r account entities).flatMap fun e => (items e.1 e.2).filter p :=
  List.filter_flatMap

theorem flatMap_nil_fun {α β : Type} (l : List α) : l.flatMap (fun _ => ([] : List β)) = [] := by
  simp

theorem flatMap_ite_nil {α β : Type} (p : α → Bool) (f : α → β) (l : List α) :
    (l.flatMap fun x => if p x then [] else [f x]) = (l.filter fun x => !p x).map f := by
  rw [List.map_eq_flatMap, flatMap_filter]
  refine List.flatMap_congr fun x _ => ?_
  cases p x <;> rfl

theorem filter_listed (kind : EntityKind) :
    (c.listed r account).filter (fun i => i.2 == kind.resourceKind) =
      (c.sectionNames r account kind).map fun n =>
        (Text.scrub (n ++ kind.resourceKind.suffix), kind.resourceKind) := by
  have hgroup : (ResourceKind.group == .managedPolicy) = false := rfl
  unfold listed
  simp only [List.filter_append, filter_placedItems]
  cases kind <;> simp [sectionNames, policyItems, roleItems, groupItems, userItems, bucketItems,
    trailItems, EntityKind.resourceKind, ResourceKind.suffix, apply_ite (List.filter _),
    List.filter_map, Function.comp_def, flatMap_nil_fun, flatMap_ite_nil, ← List.map_eq_flatMap,
    List.map_flatMap, hgroup]

theorem ids_of_section (kind : EntityKind) :
    ((c.listed r account).filter (fun i => i.2 == kind.resourceKind)).map Prod.fst =
      ((c.sectionNames r account kind).map Text.scrub).map (· ++ kind.resourceKind.suffix) := by
  rw [filter_listed, List.map_map, List.map_map]
  exact List.map_congr_left fun n _ => ResourceKind.scrub_append_suffix n _

theorem mem_listed_policy {id : String} :
    (id, ResourceKind.managedPolicy) ∈ c.listed r account ↔
      ∃ name ∈ c.sectionNames r account .policy, Text.scrub name = id := by
  have hsection := congrArg (fun l => (id, ResourceKind.managedPolicy) ∈ l)
    (@filter_listed c r account .policy)
  simpa [EntityKind.resourceKind, ResourceKind.suffix] using hsection

theorem led_listed : Led (c.listed r account) := by
  have hpolicy (name : String) (p : PolicyConfig) : Led (policyItems name p) := by
    unfold policyItems
    split
    · exact .nil
    · exact .leader rfl .nil
  have hrole (name : String) (role : RoleConfig) : Led (roleItems name role) := by
    unfold roleItems
    split
    · exact .pair ⟨rfl, Text.scrub name, ResourceKind.scrub_append_suffix name .role,
        ResourceKind.scrub_append_suffix name .instanceProfile⟩ .nil
    · exact .leader rfl .nil
  have hgroup (name : String) (g : GroupConfig) : Led (groupItems r name g) := by
    refine Led.of_leaders fun i hi => ?_
    obtain ⟨n, _, rfl⟩ := List.mem_map.mp hi
    rfl
  have hbucket (name : String) (b : BucketConfig) : Led (bucketItems name b) := by
    unfold bucketItems
    split
    · exact .pair ⟨rfl, Text.scrub name, ResourceKind.scrub_append_suffix name .bucket,
        ResourceKind.scrub_append_suffix name .bucketPolicy⟩ .nil
    · exact .leader rfl .nil
  have hplaced {α : Type} [Entity α] {items : String → α → List Item} {entities : NameMap α}
      (h : ∀ name entity, Led (items name entity)) :
      Led (placedItems r account items entities) := Led.flatMap fun e _ => h e.1 e.2
  exact (((((hplaced hpolicy).append (hplaced hrole)).append (hplaced hgroup)).append
    (hplaced fun _ _ => .leader rfl .nil)).append (hplaced hbucket)).append
    (hplaced fun _ _ => .leader rfl .nil)

theorem clash_of_policy {id : String} {other : ResourceKind}
    (hp : (id, ResourceKind.managedPolicy) ∈ c.listed r account) (hother : other ≠ .managedPolicy)
    (h : (id, other) ∈ c.listed r account) : c.Clash r account id := by
  obtain ⟨name, hname, rfl⟩ := mem_listed_policy.mp hp
  exact .policy hname hother h

theorem clash_of_duplicate {i : Item} (h : (c.listed r account).Duplicate i)
    (hleader : i.2.leader? = none) : c.Clash r account i.1 := by
  obtain ⟨kind, hkind⟩ := EntityKind.exists_resourceKind hleader
  have hsection := ((List.duplicate_iff_sublist.mp h).filter
    (fun i => i.2 == kind.resourceKind)).map Prod.fst
  rw [ids_of_section, List.filter_eq_self.mpr (by simp [hkind])] at hsection
  obtain ⟨texts, htexts, heq⟩ := List.sublist_map_iff.mp hsection
  have hlength : texts.length = 2 := by simpa using (congrArg List.length heq).symm
  obtain ⟨text, text', rfl⟩ := List.length_eq_two.mp hlength
  simp only [List.map_cons, List.map_nil, List.cons.injEq, and_true] at heq
  obtain rfl : text = text' := (String.append_left_inj _).mp (heq.1.symm.trans heq.2)
  rw [heq.1]
  exact .sameSection (List.duplicate_iff_sublist.mpr htexts)

/-- The first id that is taken already is one of a clash. -/
theorem clash_of_repeated {l₁ l₂ : List Item} {i : Item}
    (hl : c.listed r account = l₁ ++ i :: l₂) (hdistinct : (l₁.map Prod.fst).Nodup)
    (htaken : i.1 ∈ l₁.map Prod.fst)
    (hkinds : ∀ i ∈ c.listed r account, ∀ j ∈ c.listed r account, i.2 ≠ .managedPolicy →
      j.2 ≠ .managedPolicy → i.1 = j.1 → i.2 = j.2) : c.Clash r account i.1 := by
  obtain ⟨j, hj, hid⟩ := List.mem_map.mp htaken
  have himem : i ∈ c.listed r account := by simp [hl]
  have hjmem : j ∈ c.listed r account := by simp [hl, hj]
  by_cases hkind : j.2 = i.2
  · obtain rfl : j = i := Prod.ext hid hkind
    have hleader := led_listed.leader?_of_mem hl (List.Nodup.of_map _ hdistinct) hj
    refine clash_of_duplicate (List.duplicate_iff_sublist.mpr ?_) hleader
    rw [hl]
    exact (List.singleton_sublist.mpr hj).append (List.singleton_sublist.mpr List.mem_cons_self)
  · obtain ⟨id, k⟩ := i
    obtain ⟨id', k'⟩ := j
    obtain rfl : id' = id := hid
    by_cases hk : k = .managedPolicy
    · subst hk
      exact clash_of_policy himem hkind hjmem
    · by_cases hk' : k' = .managedPolicy
      · subst hk'
        exact clash_of_policy hjmem hk himem
      · exact absurd (hkinds _ hjmem _ himem hk' hk rfl) hkind

theorem not_clash_of_nodup (h : ((c.listed r account).map Prod.fst).Nodup) (id : String) :
    ¬ c.Clash r account id := by
  intro hclash
  cases hclash with
  | @sameSection kind text hdup =>
    have hids := (List.duplicate_iff_sublist.mp hdup).map (· ++ kind.resourceKind.suffix)
    rw [← ids_of_section] at hids
    have hall := hids.trans (List.filter_sublist.map Prod.fst)
    exact (List.duplicate_iff_sublist.mpr hall).not_nodup h
  | policy hname hother hlisted =>
    have hpolicy := mem_listed_policy.mpr ⟨_, hname, rfl⟩
    have heq := List.inj_on_of_nodup_map h hpolicy hlisted rfl
    exact hother (Prod.mk.inj heq).2.symm

end Config

/-- A resource is refused because its own id is taken, never because of its output. -/
theorem BuildScope.Makes.taken {s : BuildScope} {a : Account} {x : Resource} (hx : s.Makes a x)
    {version : String} {rs : List Resource} (hrs : ∀ y ∈ rs, s.Makes a y) {id : String}
    (h : ((Template.ofAccount a version).insertAll rs).clash? x = some id) :
    id = x.logicalId ∧ x.logicalId ∈ rs.map Resource.logicalId := by
  have hids {id : String} : ((Template.ofAccount a version).insertAll rs).resources.contains id =
      true ↔ id ∈ rs.map Resource.logicalId := by
    rw [Template.contains_resources_insertAll, List.mem_map]
    exact or_iff_left (by simp [Template.ofAccount, NameMap.contains_empty])
  rcases Template.clash?_eq_some h with ⟨htaken, rfl⟩ | ⟨hfree, o, ho, htaken, rfl⟩
  · exact ⟨rfl, hids.mp htaken⟩
  · exfalso
    rcases Template.contains_outputs_insertAll.mp htaken with ⟨y, hy, p, hp, hid⟩ | hbuild
    · have hitem := hx.item_eq_of_outputs (hrs y hy) ho hp hid.symm
      have hmem := hids.mpr (List.mem_map.mpr ⟨y, hy, (congrArg Prod.fst hitem).symm⟩)
      rw [show x.item.1 = x.logicalId from rfl, hfree] at hmem
      cases hmem
    · simp only [Template.ofAccount, NameMap.contains_insert] at hbuild
      rcases hbuild with hbuild | hbuild
      · exact hx.output_ne_build ho hbuild.symm
      · simp [NameMap.contains_empty] at hbuild

namespace Config
variable {c : Config} {r : Registry} {source : PolicySource}

theorem no_error_of_validate (hr : r.Sound) (hv : c.validate r = .ok ())
    (hf : c.FilesRender r source) (e : Problem) :
    .error e ∉ (BuildScope.of c r source).allKinds := by
  intro he
  obtain ⟨kind, hkind⟩ := BuildScope.mem_allKinds.mp he
  rcases BuildScope.step_problem_foreseen hr hkind with ⟨a, ha, file, huse, hdoc⟩ | hforeseen
  · obtain ⟨document, hok⟩ := hf a ha file huse
    rw [hok] at hdoc
    cases hdoc
  · exact not_foreseen_of_validate hv e hforeseen

theorem kind_eq_of_listed (hr : r.Sound)
    (hok : ∀ e, .error e ∉ (BuildScope.of c r source).allKinds) {a : Account} (ha : a ∈ r.toList)
    (i : Item) (hi : i ∈ c.listed r a.name) (j : Item) (hj : j ∈ c.listed r a.name)
    (hik : i.2 ≠ .managedPolicy) (hjk : j.2 ≠ .managedPolicy) (hid : i.1 = j.1) : i.2 = j.2 := by
  have hlisted := BuildScope.item_resourcesFor_allKinds (s := .of c r source) hr hok ha
  have hmade {k : Item} (hk : k ∈ c.listed r a.name) :
      ∃ x, (BuildScope.of c r source).Makes a x ∧ x.item = k := by
    obtain ⟨x, hx, hitem⟩ := List.mem_map.mp (hlisted ▸ hk)
    exact ⟨x, BuildScope.makes_of_mem_resourcesFor (s := .of c r source) hr ha hx, hitem⟩
  obtain ⟨x, hx, rfl⟩ := hmade hi
  obtain ⟨y, hy, rfl⟩ := hmade hj
  exact hx.kind_eq hy hik hjk hid

theorem clash_of_run (hr : r.Sound) (hok : ∀ e, .error e ∉ (BuildScope.of c r source).allKinds)
    {version : String} {set : TemplateSet} {e : Problem}
    (h : (TemplateSet.ofRegistry r version).run (BuildScope.of c r source).allKinds =
      (set, some e)) :
    ∃ a ∈ r.toList, ∃ id, c.Clash r a.name id ∧ e = .duplicateResource a.name id := by
  obtain ⟨before, step, after, hsteps, hbefore, hstop⟩ := TemplateSet.run_failed h
  have hstep : step ∈ (BuildScope.of c r source).allKinds := by simp [hsteps]
  rcases hstop with rfl | ⟨x, rfl, hemit⟩
  · exact absurd hstep (hok e)
  obtain ⟨kind, hkind⟩ := BuildScope.mem_allKinds.mp hstep
  obtain ⟨a, ha, hx⟩ := BuildScope.makes_of_mem (s := .of c r source) hr hkind
  -- The template of the account holds the resources that were made before.
  have hresources : (BuildScope.of c r source).allKinds.resourcesFor a.name =
      Steps.resourcesFor a.name before ++ x :: Steps.resourcesFor a.name after := by
    rw [hsteps, Steps.resourcesFor_append, Steps.resourcesFor_cons_ok, if_pos hx.account_eq]
  have hmade : ∀ y ∈ (BuildScope.of c r source).allKinds.resourcesFor a.name,
      (BuildScope.of c r source).Makes a y := fun y hy =>
    BuildScope.makes_of_mem_resourcesFor (s := .of c r source) hr ha hy
  have hget := TemplateSet.get?_of_run hr hbefore ha
  rcases TemplateSet.emit_eq_error hemit with ⟨hnone, _⟩ | ⟨t, id, ht, hclash, rfl⟩
  · rw [hx.account_eq, hget] at hnone
    cases hnone
  rw [hx.account_eq, hget] at ht
  cases ht
  obtain ⟨rfl, htaken⟩ := hx.taken (fun y hy => hmade y (by simp [hresources, hy])) hclash
  refine ⟨a, ha, x.logicalId, ?_, by rw [Template.account_insertAll]; rfl⟩
  have hlisted := BuildScope.item_resourcesFor_allKinds (s := .of c r source) hr hok ha
  rw [hresources, List.map_append, List.map_cons] at hlisted
  obtain ⟨empty, hempty, _⟩ := TemplateSet.covers_ofRegistry hr version a ha
  refine clash_of_repeated hlisted.symm ?_ ?_ (kind_eq_of_listed hr hok ha)
  · rw [List.map_map]
    exact (TemplateSet.run_distinct hbefore hempty).1
  · rw [List.map_map]
    exact htaken

theorem compile_clash_cases (hr : c.registry = .ok r) (hv : c.validate r = .ok ())
    (hf : c.FilesRender r source) (version : String) :
    ((∃ done, c.compile source version = .ok done) ∧
      ∀ a ∈ r.toList, ∀ id, ¬ c.Clash r a.name id) ∨
    ∃ a ∈ r.toList, ∃ id, c.Clash r a.name id ∧
      c.compile source version = .error (.problem (.duplicateResource a.name id)) := by
  have hsound := registry_sound hr
  have hok := no_error_of_validate hsound hv hf
  rw [compile_of_validate hr hv]
  cases hrun : (TemplateSet.ofRegistry r version).run (BuildScope.of c r source).allKinds with
  | mk set stop =>
    cases stop with
    | none =>
      refine Or.inl ⟨⟨⟨r, set⟩, rfl⟩, fun a ha => ?_⟩
      have hdone : c.Compiled source version r set := ⟨hr, hv, hrun⟩
      have hdistinct := hdone.distinct ha
      refine not_clash_of_nodup ?_
      rw [← hdone.item_resources ha, List.map_map]
      exact hdistinct
    | some e =>
      obtain ⟨a, ha, id, hclash, rfl⟩ := clash_of_run hsound hok hrun
      exact Or.inr ⟨a, ha, id, hclash, rfl⟩

end Config

/-- What the checks accept, with all policy files in order, compiles unless ids clash in some
account, and otherwise such an account and id are reported. Only managed policies share ids with
other kinds of resources. Outputs under one id are of resources under one id, so no output is ever
reported, and none replaces the one with the version. -/
theorem compile_reports_clash {c : Config} {r : Registry} {source : PolicySource}
    (hr : c.registry = .ok r) (hv : c.validate r = .ok ()) (hf : c.FilesRender r source)
    (version : String) :
    ((∀ a ∈ r.toList, ∀ id, ¬ c.Clash r a.name id) →
      ∃ done, c.compile source version = .ok done) ∧
    ((∃ a ∈ r.toList, ∃ id, c.Clash r a.name id) →
      ∃ a ∈ r.toList, ∃ id, c.Clash r a.name id ∧
        c.compile source version = .error (.problem (.duplicateResource a.name id))) ∧
    (∀ a x y, (BuildScope.of c r source).Makes a x → (BuildScope.of c r source).Makes a y →
      x.kind ≠ .managedPolicy → y.kind ≠ .managedPolicy → x.logicalId = y.logicalId →
      x.kind = y.kind) ∧
    ∀ a x, (BuildScope.of c r source).Makes a x → ∀ o ∈ x.outputs,
      o.logicalId ≠ "TemplateBuild" ∧
      ∀ y, (BuildScope.of c r source).Makes a y → ∀ p ∈ y.outputs, o.logicalId = p.logicalId →
        x.logicalId = y.logicalId ∧ x.kind = y.kind := by
  refine ⟨fun hnone => ?_, fun ⟨a, ha, id, hclash⟩ => ?_, fun a x y hx hy => hx.kind_eq hy,
    fun a x hx o ho => ⟨hx.output_ne_build ho, fun y hy p hp hid => ?_⟩⟩
  · rcases Config.compile_clash_cases hr hv hf version with ⟨hdone, _⟩ | ⟨a, ha, id, hclash, _⟩
    · exact hdone
    · exact absurd hclash (hnone a ha id)
  · rcases Config.compile_clash_cases hr hv hf version with ⟨_, hnone⟩ | hclashes
    · exact absurd hclash (hnone a ha id)
    · exact hclashes
  · exact Prod.mk.inj (hx.item_eq_of_outputs hy ho hp hid)

/-- The ids of the children and the roles run together: `1-23` and `12-3` are the same digits. -/
def orgOfDigits : Config where
  accounts := ((NameMap.empty.insert "root" { id := "9", parent := true }).insert "dev"
    { id := "1" }).insert "prod" { id := "12" }
  groups := NameMap.empty.insert "ops"
    { inAccounts := some ["parent"], inlinePolicies := some ["23", "3"] }

theorem orgOfDigits_clash :
    ∃ r, orgOfDigits.registry = .ok r ∧ ∃ a ∈ r.toList, ∃ id, orgOfDigits.Clash r a.name id ∧
      orgOfDigits.compile (.ofTexts .empty) "1" =
        .error (.problem (.duplicateResource a.name id)) := by
  refine ⟨_, rfl, (compile_reports_clash (c := orgOfDigits) rfl rfl ?_ "1").2.1 ?_⟩
  · intro a _ file huse
    cases huse with
    | policy hp => cases hp
    | bucketPolicy hb => cases hb
  · refine ⟨⟨"root", "9", true, none⟩, by decide, "123Group", ?_⟩
    exact @Config.Clash.sameSection _ _ _ .group "123" (by decide)

end OrgStacks
