import OrgStacks.Json.Value
import OrgStacks.Problem

/-!
# Errors as JSON

An error is an object with its kind as only member, or the kind alone when it carries nothing. What
it carries is a text, a list of texts, or an object of texts, whose further members are ignored.
-/

set_option autoImplicit false

namespace OrgStacks

namespace Json

def string? : Json → Option String
  | .str s => some s
  | _ => none

def strings? : Json → Option (List String)
  | .arr items => items.mapM string?
  | _ => none

def fields? (names : List String) : Json → Option (List Json)
  | .obj members => names.mapM fun name => valueOf? name members
  | _ => none

def stringFields? (names : List String) (value : Json) : Option (List String) := do
  (← fields? names value).mapM string?

end Json

namespace Problem

def payload : Problem → Json
  | missingParent => .null
  | multipleParents names => .ofStrings names
  | duplicateId id first second =>
    .obj [("id", .str id), ("first", .str first), ("second", .str second)]
  | duplicateName name => .str name
  | invalidId account id => .obj [("account", .str account), ("id", .str id)]
  | unknownAccount name => .str name
  | unresolvedPattern token => .str token
  | invalidPattern token reason => .obj [("token", .str token), ("reason", .str reason)]
  | undeclaredPolicy policy entity => .obj [("policy", .str policy), ("entity", .str entity)]
  | inlineReference policy entity => .obj [("policy", .str policy), ("entity", .str entity)]
  | policyNotInAccount policy account entity =>
    .obj [("policy", .str policy), ("account", .str account), ("entity", .str entity)]
  | invalidBody policy => .str policy
  | unknownTrust token => .str token
  | ambiguousTrust token accounts =>
    .obj [("token", .str token), ("accounts", .ofStrings accounts)]
  | emptyInlineGroup group => .str group
  | bucketNotInAccount trail bucket account =>
    .obj [("trail", .str trail), ("bucket", .str bucket), ("account", .str account)]
  | duplicateResource account logicalId =>
    .obj [("account", .str account), ("logical_id", .str logicalId)]
  | policyFileRead path reason => .obj [("path", .str path), ("reason", .str reason)]
  | policyFileRender path reason => .obj [("path", .str path), ("reason", .str reason)]
  | policyFileJson path reason => .obj [("path", .str path), ("reason", .str reason)]
  | parse reason => .str reason
  | undefinedSecret key => .str key
  | undefinedVariable name => .str name
  | io reason => .str reason
  | serialize reason => .str reason

def text? (make : String → Problem) (value : Json) : Option Problem := value.string?.map make

def pair? (make : String → String → Problem) (a b : String) (value : Json) : Option Problem :=
  match value.stringFields? [a, b] with
  | some [x, y] => some (make x y)
  | _ => none

def triple? (make : String → String → String → Problem) (a b c : String) (value : Json) :
    Option Problem :=
  match value.stringFields? [a, b, c] with
  | some [x, y, z] => some (make x y z)
  | _ => none

def ofPayload? (kind : String) (value : Json) : Option Problem :=
  match kind with
  | "MissingParentAccount" => match value with
    | .null => some missingParent
    | _ => none
  | "MultipleParentAccounts" => value.strings?.map multipleParents
  | "DuplicateAccountId" => triple? duplicateId "id" "first" "second" value
  | "DuplicateAccountName" => text? duplicateName value
  | "InvalidAccountId" => pair? invalidId "account" "id" value
  | "UnknownAccount" => text? unknownAccount value
  | "UnresolvedPattern" => text? unresolvedPattern value
  | "InvalidPattern" => pair? invalidPattern "token" "reason" value
  | "UndeclaredPolicy" => pair? undeclaredPolicy "policy" "entity" value
  | "InlinePolicyReference" => pair? inlineReference "policy" "entity" value
  | "PolicyNotInAccount" => triple? policyNotInAccount "policy" "account" "entity" value
  | "InvalidPolicyBody" => text? invalidBody value
  | "UnknownTrust" => text? unknownTrust value
  | "AmbiguousTrust" =>
    match value.fields? ["token", "accounts"] with
    | some [.str token, accounts] => accounts.strings?.map (ambiguousTrust token)
    | _ => none
  | "EmptyInlineGroup" => text? emptyInlineGroup value
  | "BucketNotInAccount" => triple? bucketNotInAccount "trail" "bucket" "account" value
  | "DuplicateResource" => pair? duplicateResource "account" "logical_id" value
  | "PolicyFileRead" => pair? policyFileRead "path" "reason" value
  | "PolicyFileRender" => pair? policyFileRender "path" "reason" value
  | "PolicyFileJson" => pair? policyFileJson "path" "reason" value
  | "Parse" => text? parse value
  | "UndefinedSecret" => text? undefinedSecret value
  | "UndefinedEnvVar" => text? undefinedVariable value
  | "Io" => text? io value
  | "Serialize" => text? serialize value
  | _ => none

def toJson : Problem → Json
  | missingParent => .str missingParent.kind
  | p => .obj [(p.kind, p.payload)]

end Problem

namespace CompileError

mutual

def toJson : CompileError → Json
  | problem p => p.toJson
  | invalid errors => .obj [("Invalid", .arr (listToJson errors))]

def listToJson : List CompileError → List Json
  | [] => []
  | e :: es => toJson e :: listToJson es

end

mutual

def ofJson? : Json → Option CompileError
  | .str "MissingParentAccount" => some (.problem .missingParent)
  | .obj [("Invalid", .arr items)] => (listOfJson? items).map .invalid
  | .obj [(kind, value)] => (Problem.ofPayload? kind value).map .problem
  | _ => none

def listOfJson? : List Json → Option (List CompileError)
  | [] => some []
  | item :: items =>
    match ofJson? item, listOfJson? items with
    | some e, some es => some (e :: es)
    | _, _ => none

end

end CompileError

end OrgStacks
