import OrgStacks.Policy.Rendering
import OrgStacks.Reference
import OrgStacks.Template
import OrgStacks.Trust

/-!
# Building resources

Each configured entity gives a list of resources for an account it goes into. A list ends at the
first resource that cannot be made. `BuildScope.steps` joins the lists of a kind, in name order and
for each entity in account order; `TemplateSet.run` emits them.
-/

set_option autoImplicit false

namespace OrgStacks

structure BuildScope where
  config : Config
  registry : Registry
  placements : Placements
  source : PolicySource

/-- Resources to emit in order; the first that cannot be made ends the emitting. -/
abbrev Steps := List (Except Problem Resource)

namespace BuildScope

def given {α : Type} (value : Except Problem α) (steps : α → Steps) : Steps :=
  match value with
  | .error e => [.error e]
  | .ok a => steps a

def names (s : BuildScope) : NameSettings := s.config.global.names

def named (setting : Bool) (name : String) : Option Json :=
  if setting then some (.str name) else none

def withOutput (s : BuildScope) (r : Resource) (o : Output) : Resource :=
  if s.config.global.outputs then r.output o else r

def arnOutput (logicalId description : String) : Output :=
  ⟨logicalId ++ "Arn", description, .obj [("Fn::GetAtt", .arr [.str logicalId, .str "Arn"])]⟩

def managedPolicies (s : BuildScope) (references : List String) (account : Account)
    (entity : String) : Except Problem (List Json) :=
  (s.placements.resolveAll references account.name entity).map (·.map ManagedPolicy.toJson)

def document (s : BuildScope) (file : PolicyFile) (account : Account) : Except Problem Json :=
  file.document s.source s.config account s.registry.parent

/-- One statement for each role and each selected account. -/
def assumeDocument (s : BuildScope) (a : AssumeConfig) : Except Problem PolicyDocument := do
  let names ← s.registry.select a.accounts
  let accounts ← names.toList.mapM s.registry.account
  return { statements := a.roles.flatMap fun role =>
    accounts.map fun account => Statement.assumeRole (account.roleArn role) }

def importValues (texts : List String) : List Json := texts.map fun t => (NameRef.ofText t).toJson

def policyResource (s : BuildScope) (account : Account) (name : String) (p : PolicyConfig)
    (document : Json) : Resource :=
  let id := Text.scrub name
  let description := p.description.getD ("Managed Policy " ++ name)
  let r : Resource :=
    { account := account.name, logicalId := id, kind := .managedPolicy, retain := p.retainOnDelete }
  let r := r.property "Description" (.str description)
  let r := r.property "PolicyDocument" document
  let r := r.listProperty "Groups" (importValues p.groups)
  let r := r.listProperty "Users" (importValues p.users)
  let r := r.listProperty "Roles" (importValues p.roles)
  let r := r.optional "ManagedPolicyName" (named s.names.policies name)
  s.withOutput r ⟨id ++ "PolicyArn", description ++ " Policy Document ARN", refValue id⟩

/-- An inline policy has no resource of its own. -/
def policySteps (s : BuildScope) (account : Account) (name : String) (p : PolicyConfig) : Steps :=
  given (p.body name) fun body =>
    match body with
    | .inline => []
    | .file file => [(s.document file account).map (s.policyResource account name p)]
    | .assume a =>
      [(s.assumeDocument a).map fun d => s.policyResource account name p d.toJson.sorted]

def roleResource (s : BuildScope) (account : Account) (name : String) (r : RoleConfig)
    (trust : PolicyDocument) (policies : List Json) : Resource :=
  let id := Text.scrub (name ++ "Role")
  let res : Resource :=
    { account := account.name, logicalId := id, kind := .role, retain := r.retainOnDelete }
  let res := res.property "Path" (.str "/")
  let res := res.property "AssumeRolePolicyDocument" trust.toJson.sorted
  let res := res.listProperty "ManagedPolicyArns" policies
  let res := res.optional "RoleName" (named s.names.roles name)
  s.withOutput res (arnOutput id ("Role " ++ name ++ " ARN"))

def profileResource (s : BuildScope) (account : Account) (name : String) (r : RoleConfig) :
    Resource :=
  let id := Text.scrub (name ++ "InstanceProfile")
  let res : Resource :=
    { account := account.name, logicalId := id, kind := .instanceProfile,
      retain := r.retainOnDelete }
  let res := res.property "Path" (.str "/")
  let res := res.property "Roles" (.arr [refValue (Text.scrub (name ++ "Role"))])
  let res := res.optional "InstanceProfileName" (named s.names.roles name)
  s.withOutput res ⟨id ++ "Arn", "Instance profile for Role " ++ name ++ " ARN", refValue id⟩

/-- A role that virtual machines may assume has an instance profile too. -/
def roleSteps (s : BuildScope) (account : Account) (name : String) (r : RoleConfig) : Steps :=
  given (s.registry.trustDocument r.trusts) fun trust =>
    given (s.managedPolicies r.managedPolicies account name) fun policies =>
      .ok (s.roleResource account name r trust policies) ::
        if r.needsInstanceProfile then [.ok (s.profileResource account name r)] else []

def groupResource (s : BuildScope) (account : Account) (name : String) (g : GroupConfig)
    (inline : List Json) (policies : List Json) : Resource :=
  let id := Text.scrub (name ++ "Group")
  let r : Resource :=
    { account := account.name, logicalId := id, kind := .group, retain := g.retainOnDelete }
  let r := r.property "Path" (.str "/")
  let r := r.listProperty "ManagedPolicyArns" policies
  let r := r.listProperty "Policies" inline
  let r := r.optional "GroupName" (named s.names.groups name)
  s.withOutput r (arnOutput id ("Group " ++ name ++ " ARN"))

def groupStep (s : BuildScope) (account : Account) (name : String) (g : GroupConfig)
    (inline : List Json) : Except Problem Resource :=
  (s.managedPolicies g.managedPolicies account name).map (s.groupResource account name g inline)

def expandedName (child : Account) (role : String) : String := child.id ++ "-" ++ role

def inlinePolicy (child : Account) (role : String) : Json :=
  let d : PolicyDocument := { statements := [Statement.assumeRole (child.roleArn role)] }
  .obj [("PolicyDocument", d.toJson.sorted), ("PolicyName", .str (expandedName child role))]

/-- A group with inline policies stands for one group per child account and role. -/
def groupSteps (s : BuildScope) (account : Account) (name : String) (g : GroupConfig) : Steps :=
  match g.inlinePolicies with
  | none => [s.groupStep account name g []]
  | some roles =>
    s.registry.childAccounts.flatMap fun child => roles.map fun role =>
      s.groupStep account (expandedName child role) g [inlinePolicy child role]

/-- The password is for the first sign-in only. -/
def loginProfile (password : String) : Json :=
  .obj [("Password", .str password), ("PasswordResetRequired", .bool true)]

def userResource (s : BuildScope) (account : Account) (name : String) (u : UserConfig)
    (policies : List Json) : Resource :=
  let id := Text.scrub (name ++ "User")
  let r : Resource :=
    { account := account.name, logicalId := id, kind := .user, retain := u.retainOnDelete }
  let r := r.property "Path" (.str "/")
  let r := r.listProperty "Groups" (importValues u.groups)
  let r := r.listProperty "ManagedPolicyArns" policies
  let r := r.optional "LoginProfile" (u.password.map loginProfile)
  let r := r.optional "UserName" (named s.names.users name)
  s.withOutput r (arnOutput id ("User " ++ name ++ " ARN"))

def userSteps (s : BuildScope) (account : Account) (name : String) (u : UserConfig) : Steps :=
  [(s.managedPolicies u.managedPolicies account name).map (s.userResource account name u)]

def bucketResource (s : BuildScope) (account : Account) (name : String) (b : BucketConfig) :
    Resource :=
  let id := Text.scrub (name ++ "Bucket")
  let r : Resource :=
    { account := account.name, logicalId := id, kind := .bucket, retain := b.retainOnDelete }
  let r := r.optional "BucketName" (named s.names.buckets name)
  s.withOutput r (arnOutput id ("Bucket " ++ name ++ " ARN"))

def bucketPolicyResource (account : Account) (name : String) (document : Json) : Resource :=
  let id := Text.scrub (name ++ "BucketPolicy")
  let r : Resource := { account := account.name, logicalId := id, kind := .bucketPolicy }
  let r := r.property "Bucket" (refValue (Text.scrub (name ++ "Bucket")))
  r.property "PolicyDocument" document

def bucketSteps (s : BuildScope) (account : Account) (name : String) (b : BucketConfig) : Steps :=
  .ok (s.bucketResource account name b) ::
    match b.bucketPolicy with
    | none => []
    | some p => [(s.document p.file account).map (bucketPolicyResource account name)]

/-- A trail waits for its bucket when that is configured here. -/
def trailResource (s : BuildScope) (account : Account) (name : String) (t : TrailConfig) :
    Resource :=
  let id := Text.scrub (name ++ "Trail")
  let r : Resource :=
    { account := account.name, logicalId := id, kind := .trail, retain := t.retainOnDelete
      dependsOn := do
        let bucket ← t.bucket
        if s.config.buckets.contains bucket then some (Text.scrub (bucket ++ "Bucket")) else none }
  let r := r.property "IncludeGlobalServiceEvents" (.bool (t.globalEvents.getD true))
  let r := r.optional "IsLogging" (t.logging.map .bool)
  let r := r.optional "IsMultiRegionTrail" (t.multiregion.map .bool)
  let r := r.optional "S3BucketName" (t.bucket.map .str)
  let r := r.optional "TrailName" (named s.names.trails name)
  s.withOutput r (arnOutput id ("Trail " ++ name ++ " ARN"))

def trailSteps (s : BuildScope) (account : Account) (name : String) (t : TrailConfig) : Steps :=
  [.ok (s.trailResource account name t)]

def entitySteps {α : Type} [Entity α] (s : BuildScope)
    (steps : Account → String → α → Steps) (name : String) (entity : α) : Steps :=
  given (s.registry.select (Entity.context entity)) fun accounts =>
    accounts.toList.flatMap fun account => given (s.registry.account account) fun a =>
      steps a name entity

def allSteps {α : Type} [Entity α] (s : BuildScope) (steps : Account → String → α → Steps)
    (entities : NameMap α) : Steps :=
  entities.entries.flatMap fun e => s.entitySteps steps e.1 e.2

def steps (s : BuildScope) : EntityKind → Steps
  | .policy => s.allSteps s.policySteps s.config.policies
  | .role => s.allSteps s.roleSteps s.config.roles
  | .group => s.allSteps s.groupSteps s.config.groups
  | .user => s.allSteps s.userSteps s.config.users
  | .bucket => s.allSteps s.bucketSteps s.config.buckets
  | .trail => s.allSteps s.trailSteps s.config.trails

/-- The templates after building a kind, and what stopped the building. -/
def build (s : BuildScope) (set : TemplateSet) (kind : EntityKind) : TemplateSet × Option Problem :=
  set.run (s.steps kind)

end BuildScope

end OrgStacks
