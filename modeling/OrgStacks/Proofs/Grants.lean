import OrgStacks.Proofs.Identity
import OrgStacks.Proofs.Linkage

/-!
# Who may assume which role

The policies and groups that are generated from role names let their bearers assume roles of other
accounts. `Template.GrantsAsConfigured` says of one template that these are the configured roles of
the configured accounts and no others, never a role of the parent through a group;
`compile_grants_exactly` says that every template of a compilation is like that.
-/

namespace OrgStacks
set_option autoImplicit false

def arnOfRole (id role : String) : String := "arn:aws:iam::" ++ id ++ ":role/" ++ role

namespace Json

def allowAssume (a : Account) (role : String) : Json :=
  .obj [("Action", .str "sts:AssumeRole"), ("Effect", .str "Allow"),
    ("Resource", .str (arnOfRole a.id role))]

def documentOf (statements : List Json) : Json :=
  .obj [("Statement", .arr statements), ("Version", .str "2012-10-17")]

def groupPolicy (a : Account) (role : String) : Json :=
  .obj [("PolicyDocument", documentOf [allowAssume a role]),
    ("PolicyName", .str (a.id ++ "-" ++ role))]

def items : Option Json → List Json
  | some (.arr values) => values
  | _ => []

/-- A statement in a policy of the resource allows assuming what has this ARN. -/
def Assumes (resource : Json) (arn : String) : Prop :=
  ∃ policy ∈ items (resource.property? "Policies"), ∃ document,
    policy.get? "PolicyDocument" = some document ∧ ∃ statement ∈ items (document.get? "Statement"),
      statement.get? "Effect" = some (.str "Allow") ∧
      statement.get? "Action" = some (.str "sts:AssumeRole") ∧
      statement.get? "Resource" = some (.str arn)

theorem sorted_assumeRole (a : Account) (role : String) :
    (Statement.assumeRole (a.roleArn role)).toJson.sorted = allowAssume a role := by
  have hmembers : (Statement.assumeRole (a.roleArn role)).toJson =
      .obj [("Effect", .str "Allow"), ("Action", .str "sts:AssumeRole"),
        ("Resource", .str (arnOfRole a.id role))] := rfl
  have haction : "Action" < "Effect" := by decide
  have haction' : "Action" < "Resource" := by decide
  have heffect : "Effect" < "Resource" := by decide
  simp only [hmembers, sorted, sortedMembers, object, NameMap.ofList, List.foldl_cons,
    List.foldl_nil, NameMap.insert, NameMap.empty, insertEntry_nil, insertEntry_of_lt haction,
    insertEntry_of_gt haction', insertEntry_of_gt heffect, allowAssume]

theorem sorted_document (statements : List Statement) :
    ({ statements := statements } : PolicyDocument).toJson.sorted =
      documentOf (statements.map fun s => s.toJson.sorted) := by
  have hstatement : "Statement" < "Version" := by decide
  simp only [PolicyDocument.toJson, sorted, sortedMembers, sortedItems_eq_map, List.map_map,
    Function.comp_def, object, NameMap.ofList, List.foldl_cons, List.foldl_nil, NameMap.insert,
    NameMap.empty, insertEntry_nil, insertEntry_of_lt hstatement, documentOf]

end Json

theorem BuildScope.inlinePolicy_eq (child : Account) (role : String) :
    inlinePolicy child role = Json.groupPolicy child role := by
  simp [inlinePolicy, Json.groupPolicy, Json.sorted_document, Json.sorted_assumeRole,
    expandedName]

theorem Json.assumes_iff {resource : Json} {a : Account} {role arn : String}
    (h : resource.property? "Policies" = some (.arr [groupPolicy a role])) :
    resource.Assumes arn ↔ arn = arnOfRole a.id role := by
  unfold Assumes
  rw [h]
  simp [items, groupPolicy, documentOf, allowAssume, get?, valueOf?, eq_comm]

def Registry.Selects (r : Registry) (tokens : List String) (accounts : List Account) : Prop :=
  ∃ names, r.select tokens = .ok names ∧
    List.Forall₂ (fun name a => r.get? name = some a) names.toList accounts

structure Config.Expands (c : Config) (r : Registry) (account name : String) (g : GroupConfig)
    (roles : List String) : Prop where
  configured : c.groups.get? name = some g
  inlined : g.inlinePolicies = some roles
  placed : r.places g account = true

namespace BuildScope
variable {s : BuildScope} {a : Account} {name : String} {x : Resource}

theorem statements_of_assumeDocument {assume : AssumeConfig} {d : PolicyDocument}
    (h : s.assumeDocument assume = .ok d) :
    ∃ accounts, s.registry.Selects assume.accounts accounts ∧ d.toJson.sorted =
      Json.documentOf (assume.roles.flatMap fun role =>
        accounts.map fun b => Json.allowAssume b role) := by
  unfold assumeDocument at h
  obtain ⟨names, hnames, h⟩ := bind_eq_ok_iff.mp h
  obtain ⟨accounts, haccounts, h⟩ := bind_eq_ok_iff.mp h
  cases h
  refine ⟨accounts, ⟨names, hnames, ?_⟩, ?_⟩
  · have hall := forall₂_of_mapM_eq_ok haccounts
    exact hall.imp fun _ _ hb => Registry.account_eq_ok_iff.mp hb
  · rw [Json.sorted_document, List.map_flatMap]
    simp only [List.map_map, Function.comp_def, Json.sorted_assumeRole]

theorem get?_policyDocument (p : PolicyConfig) (document : Json) :
    (s.policyResource a name p document).properties.get? "PolicyDocument" = some document := by
  simp [policyResource]

theorem get?_groupPolicies (g : GroupConfig) {inline : List Json} (policies : List Json)
    (h : inline ≠ []) :
    (s.groupResource a name g inline policies).properties.get? "Policies" =
      some (.arr inline) := by
  simp [groupResource, h]

theorem get?_groupName (g : GroupConfig) (inline policies : List Json) :
    (s.groupResource a name g inline policies).properties.get? "GroupName" =
      if s.config.global.names.groups then some (.str name) else none := by
  have hnamed : (s.groupResource a name g inline policies).properties.get? "GroupName" =
      named s.names.groups name := by simp [groupResource]
  rw [hnamed]
  rfl

/-- Only a group that stands for an account and a role has policies of its own. -/
theorem Makes.policies (h : s.Makes a x) {value : Json}
    (hv : x.properties.get? "Policies" = some value) :
    ∃ name g roles child role, s.config.Expands s.registry a.name name g roles ∧
      child ∈ s.registry.childAccounts ∧ role ∈ roles ∧
      value = .arr [Json.groupPolicy child role] := by
  cases h with
  | filePolicy => simp [policyResource] at hv
  | assumePolicy => simp [policyResource] at hv
  | role => simp [roleResource] at hv
  | profile => simp [profileResource] at hv
  | group => simp [groupResource] at hv
  | @expandedGroup name g roles child role policies hg hplaced hinline hchild hrole =>
    rw [get?_groupPolicies g policies (List.cons_ne_nil _ _), inlinePolicy_eq] at hv
    exact ⟨name, g, roles, child, role, ⟨hg, hinline, hplaced⟩, hchild, hrole,
      (Option.some.inj hv).symm⟩
  | user => simp [userResource] at hv
  | bucket => simp [bucketResource] at hv
  | bucketPolicy => simp [bucketPolicyResource] at hv
  | trail => simp [trailResource] at hv

end BuildScope

theorem PolicyConfig.body_of_assume {p : PolicyConfig} {name : String} {assume : AssumeConfig}
    (hassume : p.assume = some assume) (hbody : ∀ e, p.body name ≠ .error e) :
    p.body name = .ok (.assume assume) := by
  unfold body at hbody ⊢
  rw [hassume] at hbody ⊢
  split at hbody <;> simp_all

namespace Template

/-- One of the groups that a group stands for allows assuming what has this ARN. -/
def GroupsAssume (t : Template) (groups : List String) (arn : String) : Prop :=
  ∃ group ∈ groups, ∃ resource,
    t.resources.get? (Text.scrub (group ++ "Group")) = some resource ∧ resource.Assumes arn

/-- What the template lets others assume is what is configured. -/
structure GrantsAsConfigured (t : Template) (c : Config) (r : Registry) (account : String) :
    Prop where
  policies : ∀ {name : String} {p : PolicyConfig} {assume : AssumeConfig},
    c.policies.get? name = some p → p.assume = some assume → r.places p account = true →
    ∃ accounts resource, r.Selects assume.accounts accounts ∧
      t.resources.get? (Text.scrub name) = some resource ∧
      resource.property? "PolicyDocument" = some (.documentOf (assume.roles.flatMap fun role =>
        accounts.map fun a => .allowAssume a role))
  groups : ∀ {name : String} {g : GroupConfig} {roles : List String},
    c.Expands r account name g roles →
    ∀ child ∈ r.toList, child ≠ r.parent → ∀ role ∈ roles, ∃ resource,
      t.resources.get? (Text.scrub (child.id ++ "-" ++ role ++ "Group")) = some resource ∧
      resource.property? "Policies" = some (.arr [.groupPolicy child role]) ∧
      resource.property? "GroupName" =
        if c.global.names.groups then some (.str (child.id ++ "-" ++ role)) else none
  together : ∀ {name : String} {g : GroupConfig} {roles : List String},
    c.Expands r account name g roles →
    ∀ arn, t.GroupsAssume (Config.groupNames r name g) arn ↔
      ∃ child ∈ r.toList, child ≠ r.parent ∧ ∃ role ∈ roles, arn = arnOfRole child.id role
  within : ∀ {name : String} {g : GroupConfig} {roles : List String},
    c.Expands r account name g roles →
    ∀ id role, Text.isDigits id = true →
      t.GroupsAssume (Config.groupNames r name g) (arnOfRole id role) →
        (∃ child ∈ r.toList, child ≠ r.parent ∧ child.id = id) ∧ role ∈ roles ∧ id ≠ r.parent.id
  nothingElse : ∀ {id : String} {resource value : Json}, t.resources.get? id = some resource →
    resource.property? "Policies" = some value →
    ∃ name g roles child role, c.Expands r account name g roles ∧
      child ∈ r.toList ∧ child ≠ r.parent ∧ role ∈ roles ∧ value = .arr [.groupPolicy child role]

end Template

namespace Config.Compiled
variable {c : Config} {source : PolicySource} {version : String} {r : Registry} {set : TemplateSet}
variable {a : Account} {t : Template} {name : String}

theorem indexed (h : c.Compiled source version r set) : r.Indexed :=
  Registry.indexed_of_ofAccounts h.registry

theorem get?_of_placed {α : Type} [Entity α] (h : c.Compiled source version r set)
    (ha : a ∈ r.toList) (ht : set.get? a.name = some t) (kind : EntityKind)
    {steps : Account → String → α → Steps} {entities : NameMap α}
    (hsteps : (BuildScope.of c r source).steps kind =
      (BuildScope.of c r source).allSteps steps entities)
    {entity : α} (hget : entities.get? name = some entity)
    (hplaced : r.places entity a.name = true) {x : Resource} (hx : .ok x ∈ steps a name entity)
    {id : String} {type : ResourceKind} {retain : Bool}
    (hheader : x.header = ⟨a.name, id, type, retain, none⟩) :
    t.resources.get? id = some x.toJson := by
  have haccount : x.account = a.name := congrArg Resource.Header.account hheader
  have hid : x.logicalId = id := congrArg Resource.Header.logicalId hheader
  have hall := h.mem_allKinds_of_placed ha kind hsteps hget hplaced hx
  rw [← hid]
  exact h.get?_of_mem_resourcesFor ha ht (Steps.mem_resourcesFor.mpr ⟨hall, haccount⟩)

theorem assumePolicy (h : c.Compiled source version r set) (ha : a ∈ r.toList)
    (ht : set.get? a.name = some t) {p : PolicyConfig} {assume : AssumeConfig}
    (hp : c.policies.get? name = some p) (hassume : p.assume = some assume)
    (hplaced : r.places p a.name = true) :
    ∃ accounts resource, r.Selects assume.accounts accounts ∧
      t.resources.get? (Text.scrub name) = some resource ∧
      resource.property? "PolicyDocument" = some (.documentOf (assume.roles.flatMap fun role =>
        accounts.map fun b => .allowAssume b role)) := by
  have hok : ∀ e, .error e ∉ (BuildScope.of c r source).policySteps a name p := fun e he =>
    h.no_error e (h.mem_allKinds_of_placed ha .policy rfl hp hplaced he)
  have hbody : p.body name = .ok (.assume assume) := by
    apply PolicyConfig.body_of_assume hassume
    intro e he
    exact hok e (BuildScope.error_mem_policySteps.mpr (Or.inl he))
  -- Nothing stopped the building, so neither the body nor the document of the policy failed.
  cases hd : (BuildScope.of c r source).assumeDocument assume with
  | error e =>
    exact absurd (BuildScope.error_mem_policySteps.mpr (Or.inr (Or.inr ⟨assume, hbody, hd⟩)))
      (hok e)
  | ok d =>
    obtain ⟨accounts, haccounts, hdocument⟩ := BuildScope.statements_of_assumeDocument hd
    have hstep : .ok ((BuildScope.of c r source).policyResource a name p d.toJson.sorted) ∈
        (BuildScope.of c r source).policySteps a name p := by
      unfold BuildScope.policySteps
      rw [hbody]
      simp [BuildScope.given, hd, Except.map]
    refine ⟨accounts, _, haccounts, h.get?_of_placed ha ht .policy rfl hp hplaced hstep
      (BuildScope.header_policyResource ..), ?_⟩
    rw [Resource.property?_toJson, BuildScope.get?_policyDocument, hdocument]

theorem expandedGroup (h : c.Compiled source version r set) (ha : a ∈ r.toList)
    (ht : set.get? a.name = some t) {g : GroupConfig} {roles : List String}
    (hg : c.Expands r a.name name g roles) {child : Account} (hchild : child ∈ r.childAccounts)
    {role : String} (hrole : role ∈ roles) :
    ∃ resource, t.resources.get? (Text.scrub (child.id ++ "-" ++ role ++ "Group")) =
        some resource ∧
      resource.property? "Policies" = some (.arr [.groupPolicy child role]) ∧
      resource.property? "GroupName" =
        if c.global.names.groups then some (.str (child.id ++ "-" ++ role)) else none := by
  let s := BuildScope.of c r source
  have hstep : s.groupStep a (BuildScope.expandedName child role) g
      [BuildScope.inlinePolicy child role] ∈ s.groupSteps a name g := by
    unfold BuildScope.groupSteps
    rw [hg.inlined]
    exact List.mem_flatMap.mpr ⟨child, hchild, List.mem_map.mpr ⟨role, hrole, rfl⟩⟩
  cases hp : s.managedPolicies g.managedPolicies a (BuildScope.expandedName child role) with
  | error e =>
    rw [BuildScope.groupStep, hp] at hstep
    exact absurd (h.mem_allKinds_of_placed ha .group rfl hg.configured hg.placed hstep) (h.no_error e)
  | ok policies =>
    rw [BuildScope.groupStep, hp] at hstep
    refine ⟨_, h.get?_of_placed ha ht .group rfl hg.configured hg.placed
      hstep (BuildScope.header_groupResource ..), ?_, ?_⟩
    · rw [Resource.property?_toJson, BuildScope.get?_groupPolicies _ _ (List.cons_ne_nil _ _),
        BuildScope.inlinePolicy_eq]
    · rw [Resource.property?_toJson, BuildScope.get?_groupName]
      rfl

end Config.Compiled

theorem arnOfRole_inj {id id' role role' : String} (h : Text.isDigits id = true)
    (h' : Text.isDigits id' = true) (heq : arnOfRole id role = arnOfRole id' role') :
    id = id' ∧ role = role' := by
  have htail : id ++ ":role/" ++ role = id' ++ ":role/" ++ role' := by
    unfold arnOfRole at heq
    rw [← String.toList_inj] at heq ⊢
    simpa only [String.toList_append, List.append_assoc, List.append_cancel_left_eq] using heq
  exact Text.append_inj_of_isDigits h h' ⟨':', "role/".toList, rfl, rfl⟩ htail

theorem Registry.Indexed.eq_of_expandedName {r : Registry} (h : r.Indexed) (hr : r.Sound)
    {a b : Account} (ha : a ∈ r.toList) (hb : b ∈ r.toList) {role role' : String}
    (heq : a.id ++ "-" ++ role = b.id ++ "-" ++ role') : a = b ∧ role = role' := by
  obtain ⟨hid, hrole⟩ :=
    Text.append_inj_of_isDigits (h.digits ha) (h.digits hb) ⟨'-', [], rfl, rfl⟩ heq
  exact ⟨h.eq_of_id hr ha hb hid, hrole⟩

theorem Config.mem_groupNames {r : Registry} {name : String} {g : GroupConfig}
    {roles : List String} (h : g.inlinePolicies = some roles) {group : String} :
    group ∈ groupNames r name g ↔
      ∃ child ∈ r.childAccounts, ∃ role ∈ roles, child.id ++ "-" ++ role = group := by
  simp [groupNames, h]

namespace Config.Compiled
variable {c : Config} {source : PolicySource} {version : String} {r : Registry} {set : TemplateSet}
variable {a : Account} {t : Template} {name : String} {g : GroupConfig} {roles : List String}

theorem groupsAssume_iff (h : c.Compiled source version r set) (ha : a ∈ r.toList)
    (ht : set.get? a.name = some t) (hg : c.Expands r a.name name g roles) {arn : String} :
    t.GroupsAssume (groupNames r name g) arn ↔
      ∃ child ∈ r.childAccounts, ∃ role ∈ roles, arn = arnOfRole child.id role := by
  constructor
  · rintro ⟨group, hgroup, resource, hresource, hassumes⟩
    obtain ⟨child, hchild, role, hrole, rfl⟩ := (mem_groupNames hg.inlined).mp hgroup
    obtain ⟨written, hwritten, hpolicies, _⟩ := h.expandedGroup ha ht hg hchild hrole
    obtain rfl : resource = written := Option.some.inj (hresource.symm.trans hwritten)
    exact ⟨child, hchild, role, hrole, (Json.assumes_iff hpolicies).mp hassumes⟩
  · rintro ⟨child, hchild, role, hrole, rfl⟩
    obtain ⟨written, hwritten, hpolicies, _⟩ := h.expandedGroup ha ht hg hchild hrole
    exact ⟨_, (mem_groupNames hg.inlined).mpr ⟨child, hchild, role, hrole, rfl⟩, written, hwritten,
      (Json.assumes_iff hpolicies).mpr rfl⟩

/-- A group never lets anyone assume a role of the parent or outside the organization. -/
theorem child_of_groupsAssume (h : c.Compiled source version r set) (ha : a ∈ r.toList)
    (ht : set.get? a.name = some t) (hg : c.Expands r a.name name g roles) {id role : String}
    (hid : Text.isDigits id = true)
    (hassumes : t.GroupsAssume (groupNames r name g) (arnOfRole id role)) :
    (∃ child ∈ r.toList, child ≠ r.parent ∧ child.id = id) ∧ role ∈ roles ∧ id ≠ r.parent.id := by
  obtain ⟨child, hchild, role', hrole, heq⟩ :=
    (h.groupsAssume_iff ha ht hg).mp hassumes
  obtain ⟨hmem, hne⟩ := h.indexed.mem_childAccounts_iff.mp hchild
  obtain ⟨rfl, rfl⟩ := arnOfRole_inj hid (h.indexed.digits hmem) heq
  refine ⟨⟨child, hmem, hne, rfl⟩, hrole, fun hparent => hne ?_⟩
  exact h.indexed.eq_of_id h.sound hmem h.sound.parent_mem hparent

end Config.Compiled

/-- In every template of a compilation a policy of role names has one statement for each of its
roles and selected accounts, in this order. The groups that a group stands for have one statement
each, for the account and the role in their name, and together they let their members assume the
listed roles of the accounts that are not the parent, and nothing else. -/
theorem compile_grants_exactly {c : Config} {source : PolicySource} {version : String}
    {done : Compilation} (h : c.compile source version = .ok done) {account : String}
    {t : Template} (ht : done.templates.get? account = some t) :
    t.GrantsAsConfigured c done.registry account ∧
    ∀ a ∈ done.registry.toList, ∀ b ∈ done.registry.toList, ∀ role role',
      a.id ++ "-" ++ role = b.id ++ "-" ++ role' → a = b ∧ role = role' := by
  have hdone := Config.compiled_of_compile h
  obtain ⟨a, ha, rfl⟩ := hdone.exists_account ht
  refine ⟨?_, fun a ha b hb role role' heq =>
    hdone.indexed.eq_of_expandedName hdone.sound ha hb heq⟩
  constructor
  case policies =>
    intro name p assume hp hassume hplaced
    exact hdone.assumePolicy ha ht hp hassume hplaced
  case groups =>
    intro name g roles hg child hchild hne role hrole
    have hmem := hdone.indexed.mem_childAccounts_iff.mpr ⟨hchild, hne⟩
    exact hdone.expandedGroup ha ht hg hmem hrole
  case together =>
    intro name g roles hg arn
    rw [hdone.groupsAssume_iff ha ht hg]
    simp only [hdone.indexed.mem_childAccounts_iff, and_assoc]
  case within =>
    intro name g roles hg id role hid hassumes
    exact hdone.child_of_groupsAssume ha ht hg hid hassumes
  case nothingElse =>
    intro id resource value hget hvalue
    obtain ⟨x, hx, rfl⟩ := hdone.makes_of_get? ha ht hget
    rw [Resource.property?_toJson] at hvalue
    obtain ⟨name, g, roles, child, role, hg, hchild, hrole, rfl⟩ := hx.policies hvalue
    obtain ⟨hmem, hne⟩ := hdone.indexed.mem_childAccounts_iff.mp hchild
    exact ⟨name, g, roles, child, role, hg, hmem, hne, hrole, rfl⟩

theorem orgOfLogs_grants :
    ∃ done t, orgOfLogs.compile textOfLogs "1" = .ok done ∧
      done.templates.get? "root" = some t ∧ t.GrantsAsConfigured orgOfLogs done.registry "root" ∧
      t.GroupsAssume ["2-admin"] "arn:aws:iam::2:role/admin" := by
  obtain ⟨done, t, g, hdone, ht, hg, hnames, hdev, hparent⟩ :
      ∃ done t g, orgOfLogs.compile textOfLogs "1" = .ok done ∧
        done.templates.get? "root" = some t ∧
        orgOfLogs.Expands done.registry "root" "ops" g ["admin"] ∧
        Config.groupNames done.registry "ops" g = ["2-admin"] ∧
        done.registry.get? "dev" = some ⟨"dev", "2", false, none⟩ ∧
        done.registry.parent.name = "root" :=
    ⟨_, _, _, rfl, rfl, ⟨rfl, rfl, rfl⟩, rfl, rfl, rfl⟩
  have hgrants := (compile_grants_exactly hdone ht).1
  refine ⟨done, t, hdone, ht, hgrants, ?_⟩
  have hmem : (⟨"dev", "2", false, none⟩ : Account) ∈ done.registry.toList :=
    NameMap.mem_values_iff.mpr ⟨"dev", hdev⟩
  have hne : (⟨"dev", "2", false, none⟩ : Account) ≠ done.registry.parent := by
    intro heq
    rw [← heq] at hparent
    exact absurd hparent (by decide)
  rw [← hnames]
  exact (hgrants.together hg _).mpr
    ⟨_, hmem, hne, "admin", List.mem_singleton.mpr rfl, rfl⟩

end OrgStacks
