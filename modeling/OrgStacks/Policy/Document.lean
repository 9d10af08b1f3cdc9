import OrgStacks.Json.Value
import OrgStacks.Problem.Codec

/-!
# Policy documents

A document is a version and a list of statements. Written as JSON, members stand in declaration
order and absent ones are left out. Reading takes members in any order, ignores unknown ones, reads
null as absent, and also takes an array of the members in declaration order.
-/

set_option autoImplicit false

namespace OrgStacks

inductive Effect where
  | allow | deny
deriving DecidableEq, Inhabited

inductive Principal where
  | aws (arn : String)
  | service (name : String)
  | federated (arn : String)
deriving DecidableEq, Inhabited

/-- Values by condition key, by operator. -/
abbrev Condition := NameMap (NameMap String)

structure Statement where
  effect : Effect := .allow
  principal : Option Principal := none
  action : String
  resource : Option String := none
  condition : Option Condition := none
deriving Inhabited

structure PolicyDocument where
  version : String := "2012-10-17"
  statements : List Statement
deriving Inhabited

namespace Effect

def name : Effect → String
  | allow => "Allow"
  | deny => "Deny"

def ofJson? : Json → Option Effect
  | .str "Allow" => some allow
  | .str "Deny" => some deny
  | .obj [("Allow", .null)] => some allow
  | .obj [("Deny", .null)] => some deny
  | _ => none

end Effect

namespace Principal

def toJson : Principal → Json
  | aws arn => .obj [("AWS", .str arn)]
  | service name => .obj [("Service", .str name)]
  | federated arn => .obj [("Federated", .str arn)]

def ofJson? : Json → Option Principal
  | .obj [("AWS", .str arn)] => some (aws arn)
  | .obj [("Service", .str name)] => some (service name)
  | .obj [("Federated", .str arn)] => some (federated arn)
  | _ => none

end Principal

namespace Condition

def toJson (c : Condition) : Json :=
  .obj (c.entries.map fun e => (e.1, .obj (e.2.entries.map fun v => (v.1, .str v.2))))

def values? : Json → Option (NameMap String)
  | .obj members => do
    let entries ← members.mapM fun m => m.2.string?.map fun s => (m.1, s)
    return .ofList entries
  | _ => none

def ofJson? : Json → Option Condition
  | .obj members => do
    let entries ← members.mapM fun m => (values? m.2).map fun c => (m.1, c)
    return .ofList entries
  | _ => none

end Condition

namespace Json

def optional? {α : Type} (read : Json → Option α) : Option Json → Option (Option α)
  | none => some none
  | some .null => some none
  | some value => (read value).map some

/-- The members of an object, or the items of an array under the given names; an array may not be
longer than the names. -/
def record? (names : List String) : Json → Option (List (String × Json))
  | .obj members => some members
  | .arr items => if items.length ≤ names.length then some (names.zip items) else none
  | _ => none

end Json

namespace Statement

def memberNames : List String := ["Effect", "Principal", "Action", "Resource", "Condition"]

def toJson (s : Statement) : Json :=
  .obj <| [("Effect", .str s.effect.name)] ++
    (s.principal.map fun p => ("Principal", p.toJson)).toList ++
    [("Action", .str s.action)] ++
    (s.resource.map fun r => ("Resource", .str r)).toList ++
    (s.condition.map fun c => ("Condition", c.toJson)).toList

def ofJson? (value : Json) : Option Statement := do
  let members ← value.record? memberNames
  let effect ← (valueOf? "Effect" members) >>= Effect.ofJson?
  let principal ← Json.optional? Principal.ofJson? (valueOf? "Principal" members)
  let action ← (valueOf? "Action" members) >>= Json.string?
  let resource ← Json.optional? Json.string? (valueOf? "Resource" members)
  let condition ← Json.optional? Condition.ofJson? (valueOf? "Condition" members)
  return { effect, principal, action, resource, condition }

def assumeRoleAction : String := "sts:AssumeRole"

def trust (p : Principal) : Statement := { principal := some p, action := assumeRoleAction }

def samlTrust (providerArn : String) : Statement where
  principal := some (.federated providerArn)
  action := "sts:AssumeRoleWithSAML"
  condition := some <| .ofList [("StringEquals",
    .ofList [("SAML:aud", "https://signin.aws.amazon.com/saml")])]

def assumeRole (roleArn : String) : Statement :=
  { action := assumeRoleAction, resource := some roleArn }

end Statement

namespace PolicyDocument

def toJson (d : PolicyDocument) : Json :=
  .obj [("Version", .str d.version), ("Statement", .arr (d.statements.map Statement.toJson))]

def ofJson? (value : Json) : Option PolicyDocument := do
  let members ← value.record? ["Version", "Statement"]
  let version ← (valueOf? "Version" members) >>= Json.string?
  match valueOf? "Statement" members with
  | some (.arr items) => do
    let statements ← items.mapM Statement.ofJson?
    return { version, statements }
  | _ => none

end PolicyDocument

end OrgStacks
