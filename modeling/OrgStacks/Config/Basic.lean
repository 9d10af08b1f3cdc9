import OrgStacks.Account
import OrgStacks.Config.Kind
import OrgStacks.Json.Value

/-!
# The configuration of an organization

Accounts, the global section, and six kinds of entities by name. `Entity` gives what the kinds have
in common: where an entity goes and whether its resources are kept when a stack is deleted.
-/

set_option autoImplicit false

namespace OrgStacks

structure NameSettings where
  policies : Bool := false
  roles : Bool := true
  users : Bool := true
  groups : Bool := true
  buckets : Bool := false
  trails : Bool := false
deriving DecidableEq, Inhabited

structure GlobalConfig where
  names : NameSettings := {}
  outputs : Bool := true
deriving DecidableEq, Inhabited

structure AccountConfig where
  id : String
  parent : Bool := false
  samlProvider : Option String := none
deriving DecidableEq, Inhabited

structure AssumeConfig where
  accounts : List String
  roles : List String
deriving DecidableEq, Inhabited

structure PolicyConfig where
  inAccounts : Option (List String) := none
  description : Option String := none
  inline : Bool := false
  policyFile : Option String := none
  templateVars : Option Json := none
  assume : Option AssumeConfig := none
  groups : List String := []
  users : List String := []
  roles : List String := []
  retainOnDelete : Bool := false
deriving Inhabited

structure RoleConfig where
  inAccounts : Option (List String) := none
  trusts : List String
  managedPolicies : List String := []
  retainOnDelete : Bool := false
deriving DecidableEq, Inhabited

structure GroupConfig where
  inAccounts : Option (List String) := none
  managedPolicies : List String := []
  /-- Role names; the group stands for one group per child account and role. -/
  inlinePolicies : Option (List String) := none
  retainOnDelete : Bool := false
deriving DecidableEq, Inhabited

structure UserConfig where
  inAccounts : Option (List String) := none
  groups : List String := []
  managedPolicies : List String := []
  password : Option String := none
  retainOnDelete : Bool := false
deriving DecidableEq, Inhabited

structure BucketPolicyConfig where
  policyFile : String
  templateVars : Option Json := none
deriving Inhabited

structure BucketConfig where
  inAccounts : Option (List String) := none
  bucketPolicy : Option BucketPolicyConfig := none
  retainOnDelete : Bool := false
deriving Inhabited

structure TrailConfig where
  inAccounts : Option (List String) := none
  bucket : Option String := none
  logging : Option Bool := none
  multiregion : Option Bool := none
  globalEvents : Option Bool := none
  retainOnDelete : Bool := false
deriving DecidableEq, Inhabited

structure Config where
  global : GlobalConfig := {}
  accounts : NameMap AccountConfig
  policies : NameMap PolicyConfig := .empty
  roles : NameMap RoleConfig := .empty
  groups : NameMap GroupConfig := .empty
  users : NameMap UserConfig := .empty
  buckets : NameMap BucketConfig := .empty
  trails : NameMap TrailConfig := .empty

class Entity (α : Type) where
  kind : EntityKind
  inAccounts : α → Option (List String)
  retainOnDelete : α → Bool

instance : Entity PolicyConfig := ⟨.policy, (·.inAccounts), (·.retainOnDelete)⟩
instance : Entity RoleConfig := ⟨.role, (·.inAccounts), (·.retainOnDelete)⟩
instance : Entity GroupConfig := ⟨.group, (·.inAccounts), (·.retainOnDelete)⟩
instance : Entity UserConfig := ⟨.user, (·.inAccounts), (·.retainOnDelete)⟩
instance : Entity BucketConfig := ⟨.bucket, (·.inAccounts), (·.retainOnDelete)⟩
instance : Entity TrailConfig := ⟨.trail, (·.inAccounts), (·.retainOnDelete)⟩

def Entity.context {α : Type} [Entity α] (entity : α) : List String :=
  (Entity.inAccounts entity).getD (Entity.kind α).defaultContext

structure PolicyFile where
  path : String
  vars : Option Json

inductive PolicyBody where
  | inline
  | file (file : PolicyFile)
  | assume (assume : AssumeConfig)

namespace PolicyConfig

/-- The body of the policy `name`, which must have exactly one form. -/
def body (p : PolicyConfig) (name : String) : Except Problem PolicyBody :=
  match p.inline, p.policyFile, p.assume with
  | true, none, none => .ok .inline
  | false, some path, none => .ok (.file ⟨path, p.templateVars⟩)
  | false, none, some assume => .ok (.assume assume)
  | _, _, _ => .error (.invalidBody name)

end PolicyConfig

def BucketPolicyConfig.file (p : BucketPolicyConfig) : PolicyFile := ⟨p.policyFile, p.templateVars⟩

/-- Whether virtual machines may assume the role, which then has an instance profile. -/
def RoleConfig.needsInstanceProfile (r : RoleConfig) : Bool := r.trusts.contains "ec2.amazonaws.com"

namespace Config

def account (e : String × AccountConfig) : Account :=
  { name := e.1, id := e.2.id, isParent := e.2.parent, samlProvider := e.2.samlProvider }

def registry (c : Config) : Except Problem Registry :=
  Registry.ofAccounts (c.accounts.entries.map account)

end Config

end OrgStacks
