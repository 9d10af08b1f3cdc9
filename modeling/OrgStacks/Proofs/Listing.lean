import OrgStacks.Proofs.Compilation

/-!
# What a template lists

`Config.listed` reads off a configuration which resources an account gets, without building
anything. `compile_lists_exactly` says that the template of the account has exactly these.
-/

namespace OrgStacks
set_option autoImplicit false

/-- A logical id and the kind of the resource under it. -/
abbrev Item := String × ResourceKind

def Resource.item (r : Resource) : Item := (r.logicalId, r.kind)

theorem Resource.item_of_header {r : Resource} {h : Resource.Header} (hr : r.header = h) :
    r.item = (h.logicalId, h.kind) :=
  congrArg (fun x : Resource.Header => (x.logicalId, x.kind)) hr

namespace Config

def policyItems (name : String) (p : PolicyConfig) : List Item :=
  if p.inline then [] else [(Text.scrub name, .managedPolicy)]

def roleItems (name : String) (r : RoleConfig) : List Item :=
  (Text.scrub (name ++ "Role"), .role) ::
    if r.trusts.contains "ec2.amazonaws.com" then
      [(Text.scrub (name ++ "InstanceProfile"), .instanceProfile)]
    else []

/-- The groups that a group stands for: itself, or one for each child account and inline role. -/
def groupNames (r : Registry) (name : String) (g : GroupConfig) : List String :=
  match g.inlinePolicies with
  | none => [name]
  | some roles => r.childAccounts.flatMap fun child => roles.map fun role => child.id ++ "-" ++ role

def groupItems (r : Registry) (name : String) (g : GroupConfig) : List Item :=
  (groupNames r name g).map fun n => (Text.scrub (n ++ "Group"), .group)

def userItems (name : String) (_u : UserConfig) : List Item :=
  [(Text.scrub (name ++ "User"), .user)]

def bucketItems (name : String) (b : BucketConfig) : List Item :=
  (Text.scrub (name ++ "Bucket"), .bucket) ::
    if b.bucketPolicy.isSome then [(Text.scrub (name ++ "BucketPolicy"), .bucketPolicy)] else []

def trailItems (name : String) (_t : TrailConfig) : List Item :=
  [(Text.scrub (name ++ "Trail"), .trail)]

def placed {α : Type} [Entity α] (r : Registry) (account : String) (entities : NameMap α) :
    List (String × α) :=
  entities.entries.filter fun e => r.places e.2 account

def placedItems {α : Type} [Entity α] (r : Registry) (account : String)
    (items : String → α → List Item) (entities : NameMap α) : List Item :=
  (placed r account entities).flatMap fun e => items e.1 e.2

/-- The resources that an account gets, in the order of the kinds and names. -/
def listed (c : Config) (r : Registry) (account : String) : List Item :=
  placedItems r account policyItems c.policies ++
    placedItems r account roleItems c.roles ++
    placedItems r account (groupItems r) c.groups ++
    placedItems r account userItems c.users ++
    placedItems r account bucketItems c.buckets ++
    placedItems r account trailItems c.trails

theorem mem_placed {α : Type} [Entity α] {r : Registry} {account : String} {entities : NameMap α}
    {name : String} {entity : α} :
    (name, entity) ∈ placed r account entities ↔
      entities.get? name = some entity ∧ r.places entity account = true := by
  simp [placed, NameMap.mem_entries_iff]

theorem mem_placedItems {α : Type} [Entity α] {r : Registry} {account : String}
    {items : String → α → List Item} {entities : NameMap α} {i : Item} :
    i ∈ placedItems r account items entities ↔ ∃ name entity,
      entities.get? name = some entity ∧ r.places entity account = true ∧
        i ∈ items name entity := by
  simp only [placedItems, List.mem_flatMap, Prod.exists, mem_placed, and_assoc]

end Config

theorem flatMap_filter {α β : Type} (p : α → Bool) (f : α → List β) (l : List α) :
    (l.filter p).flatMap f = l.flatMap fun x => if p x then f x else [] := by
  induction l with
  | nil => rfl
  | cons x l ih => cases hx : p x <;> simp [hx, ih]

/-- When only one element of a list without repetition gives anything. -/
theorem flatMap_eq_of_nodup {α β : Type} [DecidableEq α] {l : List α} (hl : l.Nodup) {x : α}
    {f : α → List β} (hf : ∀ y ∈ l, y ≠ x → f y = []) :
    l.flatMap f = if x ∈ l then f x else [] := by
  induction l with
  | nil => rfl
  | cons y l ih =>
    obtain ⟨hy, hl⟩ := List.nodup_cons.mp hl
    have hrest := ih hl fun z hz => hf z (List.mem_cons_of_mem y hz)
    rw [List.flatMap_cons, hrest]
    by_cases hyx : y = x
    · subst hyx
      simp [hy]
    · simp [hf y List.mem_cons_self hyx, Ne.symm hyx]

namespace Steps

theorem resources_flatMap {α : Type} (l : List α) (f : α → Steps) :
    resources (l.flatMap f) = l.flatMap fun x => resources (f x) := by
  induction l with
  | nil => rfl
  | cons x l ih => rw [List.flatMap_cons, resources_append, ih, List.flatMap_cons]

theorem resourcesFor_flatMap {α : Type} (account : String) (l : List α) (f : α → Steps) :
    resourcesFor account (l.flatMap f) = l.flatMap fun x => resourcesFor account (f x) := by
  simp only [resourcesFor, resources_flatMap, List.filter_flatMap]

theorem resources_cons_ok (r : Resource) (steps : Steps) :
    resources (.ok r :: steps) = r :: steps.resources := rfl

theorem resourcesFor_eq_nil {account : String} {steps : Steps}
    (h : ∀ x, .ok x ∈ steps → x.account ≠ account) : resourcesFor account steps = [] := by
  refine List.eq_nil_iff_forall_not_mem.mpr fun x hx => ?_
  obtain ⟨hmem, heq⟩ := mem_resourcesFor.mp hx
  exact h x hmem heq

theorem resourcesFor_eq_resources {account : String} {steps : Steps}
    (h : ∀ x, .ok x ∈ steps → x.account = account) :
    resourcesFor account steps = resources steps := by
  refine List.filter_eq_self.mpr fun x hx => ?_
  simpa using h x (mem_resources.mp hx)

theorem item_resources_map {α : Type} {l : List α} {f : α → Except Problem Resource}
    {item : α → Item} (hok : ∀ x ∈ l, ∀ e, f x ≠ .error e)
    (hitem : ∀ x ∈ l, ∀ r, f x = .ok r → r.item = item x) :
    (resources (l.map f)).map Resource.item = l.map item := by
  induction l with
  | nil => rfl
  | cons x l ih =>
    have hrest := ih (fun y hy => hok y (List.mem_cons_of_mem x hy))
      (fun y hy => hitem y (List.mem_cons_of_mem x hy))
    cases hx : f x with
    | error e => exact absurd hx (hok x List.mem_cons_self e)
    | ok r =>
      have hr := hitem x List.mem_cons_self r hx
      simpa [resources, hx, hr, Except.toOption] using hrest

theorem item_resources_singleton {x : Except Problem Resource} {i : Item}
    (hok : ∀ e, .error e ∉ [x]) (hitem : ∀ r, x = .ok r → r.item = i) :
    (resources [x]).map Resource.item = [i] :=
  @item_resources_map _ [x] id (fun _ => i)
    (fun y hy e he => hok e (by rwa [← he]))
    fun y hy r hr => hitem r (List.mem_singleton.mp hy ▸ hr)

end Steps

namespace PolicyConfig

theorem inline_of_body {p : PolicyConfig} {name : String} (h : p.body name = .ok .inline) :
    p.inline = true := by
  unfold body at h
  split at h <;> cases h
  assumption

theorem not_inline_of_file {p : PolicyConfig} {name : String} {file : PolicyFile}
    (h : p.body name = .ok (.file file)) : p.inline = false := by
  unfold body at h
  split at h <;> cases h
  assumption

theorem not_inline_of_assume {p : PolicyConfig} {name : String} {assume : AssumeConfig}
    (h : p.body name = .ok (.assume assume)) : p.inline = false := by
  unfold body at h
  split at h <;> cases h
  assumption

end PolicyConfig

namespace BuildScope
variable {s : BuildScope} {a : Account} {name : String}

/-- The items of one entity in one account, when nothing fails. -/
def Lists {α : Type} (steps : Account → String → α → Steps) (items : String → α → List Item)
    (a : Account) (name : String) (entity : α) : Prop :=
  (∀ e, .error e ∉ steps a name entity) →
    (steps a name entity).resources.map Resource.item = items name entity

theorem exists_of_given {α : Type} {value : Except Problem α} {steps : α → Steps}
    (hok : ∀ e, .error e ∉ given value steps) :
    ∃ a, value = .ok a ∧ given value steps = steps a := by
  cases value with
  | error e => exact absurd (List.mem_singleton.mpr rfl) (hok e)
  | ok a => exact ⟨a, rfl, rfl⟩

theorem lists_policySteps (p : PolicyConfig) :
    Lists s.policySteps Config.policyItems a name p := by
  intro hok
  unfold policySteps at hok ⊢
  obtain ⟨body, hbody, heq⟩ := exists_of_given hok
  rw [heq] at hok ⊢
  unfold Config.policyItems
  cases body with
  | inline =>
    rw [if_pos (PolicyConfig.inline_of_body hbody)]
    rfl
  | file file =>
    rw [PolicyConfig.not_inline_of_file hbody]
    refine Steps.item_resources_singleton hok fun r hr => ?_
    obtain ⟨d, _, rfl⟩ := map_eq_ok_iff.mp hr
    exact Resource.item_of_header (header_policyResource p d)
  | assume assume =>
    rw [PolicyConfig.not_inline_of_assume hbody]
    refine Steps.item_resources_singleton hok fun r hr => ?_
    obtain ⟨d, _, rfl⟩ := map_eq_ok_iff.mp hr
    exact Resource.item_of_header (header_policyResource p d.toJson.sorted)

theorem lists_roleSteps (r : RoleConfig) : Lists s.roleSteps Config.roleItems a name r := by
  intro hok
  unfold roleSteps at hok ⊢
  obtain ⟨trust, _, heq⟩ := exists_of_given hok
  rw [heq] at hok ⊢
  obtain ⟨policies, _, heq⟩ := exists_of_given hok
  rw [heq, Steps.resources_cons_ok, List.map_cons,
    Resource.item_of_header (header_roleResource r trust policies)]
  unfold Config.roleItems RoleConfig.needsInstanceProfile
  congr 1
  split
  · rw [Steps.resources_cons_ok, List.map_cons,
      Resource.item_of_header (header_profileResource r)]
    rfl
  · rfl

theorem lists_groupSteps (g : GroupConfig) :
    Lists s.groupSteps (Config.groupItems s.registry) a name g := by
  intro hok
  have hitem (n : String) (inline : List Json) (r : Resource)
      (hr : s.groupStep a n g inline = .ok r) : r.item = (Text.scrub (n ++ "Group"), .group) := by
    obtain ⟨policies, _, rfl⟩ := map_eq_ok_iff.mp hr
    exact Resource.item_of_header (header_groupResource g inline policies)
  unfold groupSteps at hok ⊢
  unfold Config.groupItems Config.groupNames
  cases hinline : g.inlinePolicies with
  | none =>
    rw [hinline] at hok
    exact Steps.item_resources_singleton hok (hitem name [])
  | some roles =>
    rw [hinline] at hok
    dsimp only
    rw [Steps.resources_flatMap, List.map_flatMap, List.map_flatMap]
    refine List.flatMap_congr fun child hchild => ?_
    rw [List.map_map]
    refine Steps.item_resources_map (fun role hrole e he => ?_) fun role _ => hitem _ _
    exact hok e (List.mem_flatMap.mpr ⟨child, hchild, List.mem_map.mpr ⟨role, hrole, he⟩⟩)

theorem lists_userSteps (u : UserConfig) : Lists s.userSteps Config.userItems a name u := by
  intro hok
  refine Steps.item_resources_singleton hok fun r hr => ?_
  obtain ⟨policies, _, rfl⟩ := map_eq_ok_iff.mp hr
  exact Resource.item_of_header (header_userResource u policies)

theorem lists_bucketSteps (b : BucketConfig) : Lists s.bucketSteps Config.bucketItems a name b := by
  intro hok
  unfold bucketSteps at hok ⊢
  rw [Steps.resources_cons_ok, List.map_cons, Resource.item_of_header (header_bucketResource b)]
  unfold Config.bucketItems
  congr 1
  split at hok
  · rename_i hnone
    simp only [hnone]
    rfl
  · rename_i p hp
    simp only [hp, Option.isSome_some, if_true]
    refine Steps.item_resources_singleton (fun e he => hok e (List.mem_cons_of_mem _ he))
      fun r hr => ?_
    obtain ⟨d, _, rfl⟩ := map_eq_ok_iff.mp hr
    rfl

theorem lists_trailSteps (t : TrailConfig) : Lists s.trailSteps Config.trailItems a name t :=
  fun _ => congrArg (fun i => [i]) (Resource.item_of_header (header_trailResource t))

theorem resourcesFor_allSteps {α : Type} [Entity α] (hr : s.registry.Sound)
    {steps : Account → String → α → Steps} {entities : NameMap α}
    (hlocal : Local steps) (hok : ∀ e, .error e ∉ s.allSteps steps entities) (ha : a ∈ s.registry.toList) :
    (s.allSteps steps entities).resourcesFor a.name =
      (Config.placed s.registry a.name entities).flatMap fun e =>
        (steps a e.1 e.2).resources := by
  unfold allSteps Config.placed
  rw [Steps.resourcesFor_flatMap, flatMap_filter]
  refine List.flatMap_congr fun entry hentry => ?_
  obtain ⟨name, entity⟩ := entry
  have hok' : ∀ e, .error e ∉ s.entitySteps steps name entity := fun e he =>
    hok e (List.mem_flatMap.mpr ⟨(name, entity), hentry, he⟩)
  unfold entitySteps at hok' ⊢
  obtain ⟨accounts, hselect, heq⟩ := exists_of_given hok'
  rw [heq]
  -- Only the steps for the account itself are left, and it is selected at most once.
  have hother : ∀ n ∈ accounts.toList, n ≠ a.name → Steps.resourcesFor a.name
      (given (s.registry.account n) fun b => steps b name entity) = [] := by
    intro n hn hne
    refine Steps.resourcesFor_eq_nil fun x hx heq => hne ?_
    have hplaced := (Registry.places_of_select hselect).mpr (NameSet.mem_toList.mp hn)
    obtain ⟨b, _, hname, hb⟩ := hr.exists_account_of_places hplaced
    rw [hb] at hx
    rw [← hname, ← heq]
    exact (hlocal hx).symm
  rw [Steps.resourcesFor_flatMap, flatMap_eq_of_nodup accounts.toList_nodup hother]
  have hplaces : s.registry.places entity a.name = true ↔ a.name ∈ accounts :=
    Registry.places_of_select hselect
  by_cases hmem : a.name ∈ accounts
  · have hgiven : given (s.registry.account a.name) (fun b => steps b name entity) =
        steps a name entity := by
      rw [Registry.account_eq_ok_iff.mpr (hr.mem_toList_iff.mp ha)]
      rfl
    rw [if_pos (NameSet.mem_toList.mpr hmem), if_pos (hplaces.mpr hmem), hgiven]
    exact Steps.resourcesFor_eq_resources fun x hx => hlocal hx
  · rw [if_neg (fun h => hmem (NameSet.mem_toList.mp h)),
      if_neg (fun h => hmem (hplaces.mp h))]

theorem item_resourcesFor_allSteps {α : Type} [Entity α] (hr : s.registry.Sound)
    {steps : Account → String → α → Steps} {items : String → α → List Item} {entities : NameMap α}
    (hlists : ∀ name entity, Lists steps items a name entity)
    (hlocal : Local steps) (hok : ∀ e, .error e ∉ s.allSteps steps entities) (ha : a ∈ s.registry.toList) :
    ((s.allSteps steps entities).resourcesFor a.name).map Resource.item =
      Config.placedItems s.registry a.name items entities := by
  rw [resourcesFor_allSteps hr hlocal hok ha, List.map_flatMap]
  refine List.flatMap_congr fun entry hentry => ?_
  obtain ⟨hget, hplaced⟩ := Config.mem_placed.mp hentry
  refine hlists entry.1 entry.2 fun e he => hok e ?_
  exact (mem_allSteps hr).mpr ⟨entry.1, entry.2, hget, Or.inr ⟨a, ha, hplaced, he⟩⟩

/-- The resources that building puts into an account, in the order in which they are made. -/
theorem item_resourcesFor_allKinds (hr : s.registry.Sound)
    (hok : ∀ e, .error e ∉ s.allKinds) (ha : a ∈ s.registry.toList) :
    (s.allKinds.resourcesFor a.name).map Resource.item = s.config.listed s.registry a.name := by
  have hkind (kind : EntityKind) (e : Problem) : .error e ∉ s.steps kind :=
    fun he => hok e (mem_allKinds.mpr ⟨kind, he⟩)
  have hpolicies := item_resourcesFor_allSteps hr (fun _ => lists_policySteps)
    local_policySteps (hkind .policy) ha
  have hroles := item_resourcesFor_allSteps hr (fun _ => lists_roleSteps)
    local_roleSteps (hkind .role) ha
  have hgroups := item_resourcesFor_allSteps hr (fun _ => lists_groupSteps)
    local_groupSteps (hkind .group) ha
  have husers := item_resourcesFor_allSteps hr (fun _ => lists_userSteps)
    local_userSteps (hkind .user) ha
  have hbuckets := item_resourcesFor_allSteps hr (fun _ => lists_bucketSteps)
    local_bucketSteps (hkind .bucket) ha
  have htrails := item_resourcesFor_allSteps hr (fun _ => lists_trailSteps)
    local_trailSteps (hkind .trail) ha
  unfold Config.listed
  rw [← hpolicies, ← hroles, ← hgroups, ← husers, ← hbuckets, ← htrails]
  rw [allKinds, Steps.resourcesFor_flatMap]
  simp only [EntityKind.all, List.flatMap_cons, List.flatMap_nil, List.append_nil,
    List.map_append, List.append_assoc]
  rfl

end BuildScope

def Item.typed (i : Item) : String × Option Json := (i.1, some (.str i.2.name))

def Template.typed (t : Template) : List (String × Option Json) :=
  t.resources.entries.map fun e => (e.1, e.2.get? "Type")

namespace Config.Compiled
variable {c : Config} {source : PolicySource} {version : String} {r : Registry} {set : TemplateSet}
variable {a : Account}

theorem item_resources (h : c.Compiled source version r set) (ha : a ∈ r.toList) :
    ((BuildScope.of c r source).allKinds.resourcesFor a.name).map Resource.item =
      c.listed r a.name :=
  BuildScope.item_resourcesFor_allKinds (s := .of c r source) h.sound h.no_error ha

theorem entries_perm (h : c.Compiled source version r set) (ha : a ∈ r.toList) {t : Template}
    (ht : set.get? a.name = some t) :
    t.resources.entries.Perm (((BuildScope.of c r source).allKinds.resourcesFor a.name).map
      fun x => (x.logicalId, x.toJson)) := by
  obtain rfl := Option.some.inj ((h.get? ha).symm.trans ht)
  have hperm := Template.resources_insertAll_perm (t := .ofAccount a version) (h.distinct ha)
    fun x _ => rfl
  simpa [Template.ofAccount, NameMap.empty] using hperm

theorem get?_of_mem_resourcesFor (h : c.Compiled source version r set) (ha : a ∈ r.toList)
    {t : Template} (ht : set.get? a.name = some t) {x : Resource}
    (hx : x ∈ (BuildScope.of c r source).allKinds.resourcesFor a.name) :
    t.resources.get? x.logicalId = some x.toJson := by
  apply NameMap.mem_entries_iff.mp
  apply (h.entries_perm ha ht).mem_iff.mpr
  exact List.mem_map.mpr ⟨x, hx, rfl⟩

theorem typed_perm (h : c.Compiled source version r set) (ha : a ∈ r.toList) {t : Template}
    (ht : set.get? a.name = some t) : t.typed.Perm ((c.listed r a.name).map Item.typed) := by
  refine ((h.entries_perm ha ht).map fun e => (e.1, e.2.get? "Type")).trans (.of_eq ?_)
  rw [← h.item_resources ha, List.map_map, List.map_map]
  exact List.map_congr_left fun x _ => Prod.ext rfl x.get?_type_toJson

theorem resourceCount_eq (h : c.Compiled source version r set) (ha : a ∈ r.toList) {t : Template}
    (ht : set.get? a.name = some t) : t.resourceCount = (c.listed r a.name).length := by
  have hlength := (h.typed_perm ha ht).length_eq
  rwa [Template.typed, List.length_map, List.length_map] at hlength

end Config.Compiled

/-- A compilation has a template for every account and for no other name, and the template holds
the resources that the configuration lists for the account: under the same ids, of the same types,
and as many. An account without any has no resources. -/
theorem compile_lists_exactly {c : Config} {source : PolicySource} {version : String}
    {done : Compilation} (h : c.compile source version = .ok done) :
    c.registry = .ok done.registry ∧
    done.templates.templates.keys = done.registry.accounts.keys ∧
    ∀ a ∈ done.registry.toList, ∃ t, done.templates.get? a.name = some t ∧
      t.typed.Perm ((c.listed done.registry a.name).map Item.typed) ∧
      t.resourceCount = (c.listed done.registry a.name).length ∧
      (c.listed done.registry a.name = [] → t.resources = .empty) := by
  have hdone := Config.compiled_of_compile h
  refine ⟨hdone.registry, ?_, fun a ha => ?_⟩
  · rw [TemplateSet.run_keys hdone.run]
    exact NameMap.keys_map _ _
  · obtain ⟨t, ht⟩ : ∃ t, done.templates.get? a.name = some t := ⟨_, hdone.get? ha⟩
    have hcount := hdone.resourceCount_eq ha ht
    refine ⟨t, ht, hdone.typed_perm ha ht, hcount, fun hnil => NameMap.ext_entries ?_⟩
    rw [hnil] at hcount
    exact List.eq_nil_of_length_eq_zero hcount

/-- Two accounts, and for them entities of every kind but users. -/
def orgOfLogs : Config where
  accounts := (NameMap.empty.insert "root" { id := "1", parent := true }).insert "dev" { id := "2" }
  policies := NameMap.empty.insert "read-only" { assume := some ⟨["children"], ["admin"]⟩ }
  roles := NameMap.empty.insert "web"
    { trusts := ["parent", "ec2.amazonaws.com"], managedPolicies := ["read-only"] }
  groups := NameMap.empty.insert "ops"
    { inAccounts := some ["parent"], inlinePolicies := some ["admin"] }
  buckets := NameMap.empty.insert "logs"
    { inAccounts := some ["all"], bucketPolicy := some ⟨"logs.json", none⟩ }
  trails := NameMap.empty.insert "audit" { inAccounts := some ["parent"], bucket := some "logs" }

def textOfLogs : PolicySource := .ofTexts (NameMap.empty.insert "logs.json" "\x7b\x7d")

theorem orgOfLogs_lists :
    ∃ done t, orgOfLogs.compile textOfLogs "1" = .ok done ∧
      done.templates.get? "root" = some t ∧
      t.typed.Perm ([("readonly", .managedPolicy), ("webRole", .role),
        ("webInstanceProfile", .instanceProfile), ("2adminGroup", .group), ("logsBucket", .bucket),
        ("logsBucketPolicy", .bucketPolicy), ("auditTrail", .trail)].map Item.typed) := by
  obtain ⟨_, _, h⟩ := @compile_lists_exactly orgOfLogs textOfLogs "1" _ rfl
  obtain ⟨t, ht, hperm, _⟩ := h ⟨"root", "1", true, none⟩ (by decide)
  exact ⟨_, t, rfl, ht, hperm⟩

end OrgStacks
