import OrgStacks.Text

/-!
# What can be wrong with an organization

A `Problem` is one cause; a `CompileError` is one problem or a list of errors that were found
together. `CompileError.problems` lists the causes from left to right.
-/

set_option autoImplicit false

namespace OrgStacks

/-- One cause of failure. -/
inductive Problem where
  | missingParent
  | multipleParents (names : List String)
  | duplicateId (id first second : String)
  | duplicateName (name : String)
  | invalidId (account id : String)
  | unknownAccount (name : String)
  | unresolvedPattern (token : String)
  | invalidPattern (token reason : String)
  | undeclaredPolicy (policy entity : String)
  | inlineReference (policy entity : String)
  | policyNotInAccount (policy account entity : String)
  | invalidBody (policy : String)
  | unknownTrust (token : String)
  | ambiguousTrust (token : String) (accounts : List String)
  | emptyInlineGroup (group : String)
  | bucketNotInAccount (trail bucket account : String)
  | duplicateResource (account logicalId : String)
  | policyFileRead (path reason : String)
  | policyFileRender (path reason : String)
  | policyFileJson (path reason : String)
  | parse (reason : String)
  | undefinedSecret (key : String)
  | undefinedVariable (name : String)
  | io (reason : String)
  | serialize (reason : String)
deriving DecidableEq, Inhabited

inductive CompileError where
  | problem (p : Problem)
  | invalid (errors : List CompileError)
deriving Inhabited

namespace Problem

def message : Problem → String
  | missingParent => "no account is marked as parent, one account must have `parent: true`"
  | multipleParents names =>
    "more than one account is marked as parent: " ++ Text.joinWith ", " names
  | duplicateId id first second =>
    "account id " ++ id ++ " is used by both '" ++ first ++ "' and '" ++ second ++ "'"
  | duplicateName name => "account name '" ++ name ++ "' is declared more than once"
  | invalidId account id => "account '" ++ account ++ "' has a non-numeric id '" ++ id ++ "'"
  | unknownAccount name => "unknown account: " ++ name
  | unresolvedPattern token =>
    "unable to find account matching '" ++ token ++ "' in the accounts section of the config"
  | invalidPattern token reason => "invalid account pattern '" ++ token ++ "': " ++ reason
  | undeclaredPolicy policy entity =>
    "working on '" ++ entity ++ "': managed policy '" ++ policy ++ "' does not exist in the config"
  | inlineReference policy entity =>
    "working on '" ++ entity ++ "': policy '" ++ policy ++
      "' is inline and cannot be referenced as a managed policy"
  | policyNotInAccount policy account entity =>
    "working on '" ++ entity ++ "': managed policy '" ++ policy ++
      "' is not configured to go into account '" ++ account ++ "'"
  | invalidBody policy =>
    "policy '" ++ policy ++ "' must set exactly one of `inline: true`, `policy_file` or `assume`"
  | unknownTrust token =>
    "unable to find trust '" ++ token ++
      "': not an account, the SAML provider or a service principal"
  | ambiguousTrust token accounts =>
    "trust '" ++ token ++ "' matches several accounts (" ++ Text.joinWith ", " accounts ++
      "), name a single account or use its id"
  | emptyInlineGroup group =>
    "group '" ++ group ++ "' has `inline_policies` but expands to no groups: it needs at least " ++
      "one role and one child account"
  | bucketNotInAccount trail bucket account =>
    "trail '" ++ trail ++ "': bucket '" ++ bucket ++ "' is not configured to go into account '" ++
      account ++ "'"
  | duplicateResource account logicalId =>
    "resource '" ++ logicalId ++ "' is emitted twice into account '" ++ account ++ "'"
  | policyFileRead path reason => "failed to read policy file " ++ path ++ ": " ++ reason
  | policyFileRender path reason => "failed to render policy file " ++ path ++ ": " ++ reason
  | policyFileJson path reason =>
    "policy file " ++ path ++ " did not render to valid JSON: " ++ reason
  | parse reason => "failed to parse configuration: " ++ reason
  | undefinedSecret key => "secret '" ++ key ++ "' is not defined in any secrets.yaml"
  | undefinedVariable name =>
    "environment variable '" ++ name ++ "' is not defined and has no default"
  | io reason => "I/O error: " ++ reason
  | serialize reason => "failed to serialize template: " ++ reason

def kind : Problem → String
  | missingParent => "MissingParentAccount"
  | multipleParents _ => "MultipleParentAccounts"
  | duplicateId .. => "DuplicateAccountId"
  | duplicateName _ => "DuplicateAccountName"
  | invalidId .. => "InvalidAccountId"
  | unknownAccount _ => "UnknownAccount"
  | unresolvedPattern _ => "UnresolvedPattern"
  | invalidPattern .. => "InvalidPattern"
  | undeclaredPolicy .. => "UndeclaredPolicy"
  | inlineReference .. => "InlinePolicyReference"
  | policyNotInAccount .. => "PolicyNotInAccount"
  | invalidBody _ => "InvalidPolicyBody"
  | unknownTrust _ => "UnknownTrust"
  | ambiguousTrust .. => "AmbiguousTrust"
  | emptyInlineGroup _ => "EmptyInlineGroup"
  | bucketNotInAccount .. => "BucketNotInAccount"
  | duplicateResource .. => "DuplicateResource"
  | policyFileRead .. => "PolicyFileRead"
  | policyFileRender .. => "PolicyFileRender"
  | policyFileJson .. => "PolicyFileJson"
  | parse _ => "Parse"
  | undefinedSecret _ => "UndefinedSecret"
  | undefinedVariable _ => "UndefinedEnvVar"
  | io _ => "Io"
  | serialize _ => "Serialize"

end Problem

namespace CompileError

def kind : CompileError → String
  | problem p => p.kind
  | invalid _ => "Invalid"

mutual

/-- A list says how many errors it holds and gives each a line. -/
def message : CompileError → String
  | problem p => p.message
  | invalid errors =>
    "configuration has " ++ toString errors.length ++ " errors:\n  " ++
      Text.joinWith "\n  " (messages errors)

def messages : List CompileError → List String
  | [] => []
  | e :: es => message e :: messages es

end

mutual

def problems : CompileError → List Problem
  | problem p => [p]
  | invalid errors => problemsOf errors

def problemsOf : List CompileError → List Problem
  | [] => []
  | e :: es => problems e ++ problemsOf es

end

/-- No error for an empty list, the problem itself for one, and a list for several. -/
def collect : List Problem → Except CompileError Unit
  | [] => .ok ()
  | [p] => .error (.problem p)
  | ps => .error (.invalid (ps.map .problem))

end CompileError

end OrgStacks
