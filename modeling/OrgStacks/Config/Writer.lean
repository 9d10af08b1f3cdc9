import OrgStacks.Config.Basic

/-!
# Writing a configuration

Every record under its main member names, in declaration order. Absent members and empty lists of
references are left out; settings with a default are always written.
-/

set_option autoImplicit false

namespace OrgStacks

namespace Config

def optionalMember {α : Type} (name : String) (write : α → Json) :
    Option α → List (String × Json)
  | some value => [(name, write value)]
  | none => []

def listMember (name : String) : List String → List (String × Json)
  | [] => []
  | texts => [(name, .ofStrings texts)]

def namesJson {α : Type} (write : α → Json) (m : NameMap α) : Json :=
  .obj (m.map fun _ value => write value).entries

end Config

open Config (optionalMember listMember namesJson)

def AccountConfig.toJson (a : AccountConfig) : Json :=
  .obj <| [("id", .str a.id), ("parent", .bool a.parent)] ++
    optionalMember "saml_provider" .str a.samlProvider

def NameSettings.toJson (n : NameSettings) : Json :=
  .obj [("policies", .bool n.policies), ("roles", .bool n.roles), ("users", .bool n.users),
    ("groups", .bool n.groups), ("buckets", .bool n.buckets), ("trails", .bool n.trails)]

def GlobalConfig.toJson (g : GlobalConfig) : Json :=
  .obj [("names", g.names.toJson),
    ("template_outputs", .str (if g.outputs then "enabled" else "disabled"))]

def AssumeConfig.toJson (a : AssumeConfig) : Json :=
  .obj [("accounts", .ofStrings a.accounts), ("roles", .ofStrings a.roles)]

def PolicyConfig.toJson (p : PolicyConfig) : Json :=
  .obj <| optionalMember "in_accounts" .ofStrings p.inAccounts ++
    optionalMember "description" .str p.description ++ [("inline", .bool p.inline)] ++
    optionalMember "policy_file" .str p.policyFile ++
    optionalMember "template_vars" id p.templateVars ++
    optionalMember "assume" AssumeConfig.toJson p.assume ++
    listMember "groups" p.groups ++ listMember "users" p.users ++ listMember "roles" p.roles ++
    [("retain_on_delete", .bool p.retainOnDelete)]

def RoleConfig.toJson (r : RoleConfig) : Json :=
  .obj <| optionalMember "in_accounts" .ofStrings r.inAccounts ++
    [("trusts", .ofStrings r.trusts)] ++ listMember "managed_policies" r.managedPolicies ++
    [("retain_on_delete", .bool r.retainOnDelete)]

def GroupConfig.toJson (g : GroupConfig) : Json :=
  .obj <| optionalMember "in_accounts" .ofStrings g.inAccounts ++
    listMember "managed_policies" g.managedPolicies ++
    optionalMember "inline_policies" .ofStrings g.inlinePolicies ++
    [("retain_on_delete", .bool g.retainOnDelete)]

def UserConfig.toJson (u : UserConfig) : Json :=
  .obj <| optionalMember "in_accounts" .ofStrings u.inAccounts ++ listMember "groups" u.groups ++
    listMember "managed_policies" u.managedPolicies ++ optionalMember "password" .str u.password ++
    [("retain_on_delete", .bool u.retainOnDelete)]

def BucketPolicyConfig.toJson (b : BucketPolicyConfig) : Json :=
  .obj <| [("policy_file", .str b.policyFile)] ++ optionalMember "template_vars" id b.templateVars

def BucketConfig.toJson (b : BucketConfig) : Json :=
  .obj <| optionalMember "in_accounts" .ofStrings b.inAccounts ++
    optionalMember "bucket_policy" BucketPolicyConfig.toJson b.bucketPolicy ++
    [("retain_on_delete", .bool b.retainOnDelete)]

def TrailConfig.toJson (t : TrailConfig) : Json :=
  .obj <| optionalMember "in_accounts" .ofStrings t.inAccounts ++
    optionalMember "bucket" .str t.bucket ++ optionalMember "logging" .bool t.logging ++
    optionalMember "multiregion" .bool t.multiregion ++
    optionalMember "global_events" .bool t.globalEvents ++
    [("retain_on_delete", .bool t.retainOnDelete)]

def Config.toJson (c : Config) : Json :=
  .obj [("global", c.global.toJson), ("accounts", namesJson AccountConfig.toJson c.accounts),
    ("policies", namesJson PolicyConfig.toJson c.policies),
    ("roles", namesJson RoleConfig.toJson c.roles),
    ("groups", namesJson GroupConfig.toJson c.groups),
    ("users", namesJson UserConfig.toJson c.users),
    ("buckets", namesJson BucketConfig.toJson c.buckets),
    ("trails", namesJson TrailConfig.toJson c.trails)]

end OrgStacks
