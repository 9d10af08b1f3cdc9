import OrgStacks.Config.Basic
import OrgStacks.Config.Record
import OrgStacks.Config.Substitution

/-!
# Reading a configuration

The members of every record of a configuration, and `Config.parse`, which reads a text with its tags
replaced. A configuration needs at least one account.
-/

set_option autoImplicit false

namespace OrgStacks

open Config (Reader Member readText readBool readOptional readList readNames readJson wrongType)

/-- An id may be written as a whole number. -/
def AccountConfig.readId : Reader String
  | .str s => .ok s
  | .int n => if 0 ≤ n then .ok (toString n) else .error "an account id cannot be negative"
  | _ => .error "an account id is a whole number or a text"

def AccountConfig.members : List (Member AccountConfig) := [
  .of "id" readId (fun a v => { a with id := v }) true,
  .of "parent" readBool fun a v => { a with parent := v },
  .of "saml_provider" (readOptional readText) (fun a v => { a with samlProvider := v })
    false ["samlProvider"]]

def AccountConfig.read : Reader AccountConfig := Member.readRecord members { id := "" }

def NameSettings.members : List (Member NameSettings) := [
  .of "policies" readBool fun a v => { a with policies := v },
  .of "roles" readBool fun a v => { a with roles := v },
  .of "users" readBool fun a v => { a with users := v },
  .of "groups" readBool fun a v => { a with groups := v },
  .of "buckets" readBool fun a v => { a with buckets := v },
  .of "trails" readBool (fun a v => { a with trails := v }) false ["cloudtrail"]]

def NameSettings.read : Reader NameSettings := Member.readRecord members {}

/-- Whether outputs are written, in words. A tag may take the place of the word. -/
def GlobalConfig.readOutputs : Reader Bool := fun value => do
  let (word, rest) ← match value with
    | .str s => .ok (s, Yaml.null)
    | .tagged tag rest => .ok (tag, rest)
    | other => wrongType other "the name of a setting"
  let enabled ← if word = "enabled" then .ok true
    else if word = "disabled" then .ok false
    else .error ("unknown variant \u0060" ++ word ++
      "\u0060, expected \u0060enabled\u0060 or \u0060disabled\u0060")
  match Config.untag rest with
  | .null => return enabled
  | other => wrongType other "unit"

def GlobalConfig.members : List (Member GlobalConfig) := [
  .of "names" NameSettings.read fun a v => { a with names := v },
  .of "template_outputs" readOutputs fun a v => { a with outputs := v }]

def GlobalConfig.read : Reader GlobalConfig := Member.readRecord members {}

def AssumeConfig.members : List (Member AssumeConfig) := [
  .of "accounts" (readList readText) (fun a v => { a with accounts := v }) true,
  .of "roles" (readList readText) (fun a v => { a with roles := v }) true]

def AssumeConfig.read : Reader AssumeConfig := Member.readRecord members ⟨[], []⟩

def PolicyConfig.members : List (Member PolicyConfig) := [
  .of "in_accounts" (readOptional (readList readText)) fun a v => { a with inAccounts := v },
  .of "description" (readOptional readText) fun a v => { a with description := v },
  .of "inline" readBool fun a v => { a with inline := v },
  .of "policy_file" (readOptional readText) fun a v => { a with policyFile := v },
  .of "template_vars" (readOptional readJson) fun a v => { a with templateVars := v },
  .of "assume" (readOptional AssumeConfig.read) fun a v => { a with assume := v },
  .of "groups" (readList readText) fun a v => { a with groups := v },
  .of "users" (readList readText) fun a v => { a with users := v },
  .of "roles" (readList readText) fun a v => { a with roles := v },
  .of "retain_on_delete" readBool fun a v => { a with retainOnDelete := v }]

def PolicyConfig.read : Reader PolicyConfig := Member.readRecord members {}

def RoleConfig.members : List (Member RoleConfig) := [
  .of "in_accounts" (readOptional (readList readText)) fun a v => { a with inAccounts := v },
  .of "trusts" (readList readText) (fun a v => { a with trusts := v }) true,
  .of "managed_policies" (readList readText) fun a v => { a with managedPolicies := v },
  .of "retain_on_delete" readBool fun a v => { a with retainOnDelete := v }]

def RoleConfig.read : Reader RoleConfig := Member.readRecord members { trusts := [] }

def GroupConfig.members : List (Member GroupConfig) := [
  .of "in_accounts" (readOptional (readList readText)) fun a v => { a with inAccounts := v },
  .of "managed_policies" (readList readText) fun a v => { a with managedPolicies := v },
  .of "inline_policies" (readOptional (readList readText)) fun a v =>
    { a with inlinePolicies := v },
  .of "retain_on_delete" readBool fun a v => { a with retainOnDelete := v }]

def GroupConfig.read : Reader GroupConfig := Member.readRecord members {}

def UserConfig.members : List (Member UserConfig) := [
  .of "in_accounts" (readOptional (readList readText)) fun a v => { a with inAccounts := v },
  .of "groups" (readList readText) fun a v => { a with groups := v },
  .of "managed_policies" (readList readText) fun a v => { a with managedPolicies := v },
  .of "password" (readOptional readText) fun a v => { a with password := v },
  .of "retain_on_delete" readBool fun a v => { a with retainOnDelete := v }]

def UserConfig.read : Reader UserConfig := Member.readRecord members {}

def BucketPolicyConfig.members : List (Member BucketPolicyConfig) := [
  .of "policy_file" readText (fun a v => { a with policyFile := v }) true,
  .of "template_vars" (readOptional readJson) fun a v => { a with templateVars := v }]

def BucketPolicyConfig.read : Reader BucketPolicyConfig :=
  Member.readRecord members { policyFile := "" }

def BucketConfig.members : List (Member BucketConfig) := [
  .of "in_accounts" (readOptional (readList readText)) fun a v => { a with inAccounts := v },
  .of "bucket_policy" (readOptional BucketPolicyConfig.read) fun a v =>
    { a with bucketPolicy := v },
  .of "retain_on_delete" readBool fun a v => { a with retainOnDelete := v }]

def BucketConfig.read : Reader BucketConfig := Member.readRecord members {}

def TrailConfig.members : List (Member TrailConfig) := [
  .of "in_accounts" (readOptional (readList readText)) fun a v => { a with inAccounts := v },
  .of "bucket" (readOptional readText) fun a v => { a with bucket := v },
  .of "logging" (readOptional readBool) fun a v => { a with logging := v },
  .of "multiregion" (readOptional readBool) fun a v => { a with multiregion := v },
  .of "global_events" (readOptional readBool) (fun a v => { a with globalEvents := v })
    false ["GlobalEvents"],
  .of "retain_on_delete" readBool fun a v => { a with retainOnDelete := v }]

def TrailConfig.read : Reader TrailConfig := Member.readRecord members {}

namespace Config

def members : List (Member Config) := [
  .of "global" GlobalConfig.read fun a v => { a with global := v },
  .of "accounts" (readNames AccountConfig.read) (fun a v => { a with accounts := v }) true,
  .of "policies" (readNames PolicyConfig.read) fun a v => { a with policies := v },
  .of "roles" (readNames RoleConfig.read) fun a v => { a with roles := v },
  .of "groups" (readNames GroupConfig.read) fun a v => { a with groups := v },
  .of "users" (readNames UserConfig.read) fun a v => { a with users := v },
  .of "buckets" (readNames BucketConfig.read) fun a v => { a with buckets := v },
  .of "trails" (readNames TrailConfig.read) (fun a v => { a with trails := v })
    false ["cloudtrail"]]

def read : Reader Config := Member.readRecord members { accounts := .empty }

def ofYaml (s : Substitution) (document : Yaml) : Except Problem Config := do
  match read (← s.apply document) with
  | .error reason => .error (.parse reason)
  | .ok c =>
    if c.accounts.isEmpty then
      .error (.parse "no account data was provided, at least one account must be present")
    else .ok c

def parse (s : Substitution) (text : String) : Except Problem Config :=
  match Yaml.parse text with
  | .error e => .error (.parse e.message)
  | .ok document => ofYaml s document

/-- The configuration of a file, with the secrets and the files around it. -/
def load (files : FileSource) (path : FilePath) (environment : NameMap String) :
    Except Problem Config :=
  match files.read path with
  | .error e => .error (.io ("failed to read " ++ path.text ++ ": " ++ e.message))
  | .ok text => do
    let s ← Substitution.ofDirectory files (path.parent.getD ⟨""⟩) environment
    parse s text

end Config

end OrgStacks
