import OrgStacks.Account.Selection
import OrgStacks.Config.Basic

/-!
# References between entities

A managed policy is given by a literal ARN, by the export of another stack, or by the name of a
configured policy that goes into the same account. Where each policy goes is worked out once, before
any reference is looked at.
-/

set_option autoImplicit false

namespace OrgStacks

inductive ManagedPolicy where
  | literal (arn : String)
  | imported (key : String)
  | localRef (name : String)
deriving DecidableEq, Inhabited

def importValue (key : String) : Json := .obj [("Fn::ImportValue", .str key)]

def refValue (logicalId : String) : Json := .obj [("Ref", .str logicalId)]

def importLead : String := "import:"

namespace ManagedPolicy

def toJson : ManagedPolicy → Json
  | literal arn => .str arn
  | imported key => importValue key
  | localRef name => refValue (Text.scrub name)

end ManagedPolicy

/-- A name of a user, group or role, perhaps exported by another stack. -/
inductive NameRef where
  | literal (text : String)
  | imported (key : String)
deriving DecidableEq, Inhabited

namespace NameRef

def ofText (text : String) : NameRef :=
  match Text.stripPrefix? importLead text with
  | some key => imported key
  | none => literal text

def toJson : NameRef → Json
  | literal text => .str text
  | imported key => importValue key

end NameRef

structure Placement where
  inline : Bool
  accounts : NameSet

/-- For every configured policy, where it goes or why that cannot be said. -/
abbrev Placements := NameMap (Except Problem Placement)

namespace Placements

def ofPolicies (r : Registry) (policies : NameMap PolicyConfig) : Placements :=
  policies.map fun _ p =>
    (r.select (Entity.context p)).map fun accounts => ⟨p.inline, accounts⟩

def problems (ps : Placements) : List Problem :=
  ps.values.filterMap fun
    | .error e => some e
    | .ok _ => none

/-- The placements when every policy has one; otherwise the first problem. -/
def complete (ps : Placements) : Except Problem Placements :=
  match ps.problems with
  | [] => .ok ps
  | e :: _ => .error e

def isDeclared (ps : Placements) (name : String) : Bool := ps.contains name

def accounts? (ps : Placements) (name : String) : Option NameSet :=
  match ps.get? name with
  | some (.ok placement) => some placement.accounts
  | _ => none

def resolve (ps : Placements) (reference account entity : String) :
    Except Problem ManagedPolicy :=
  if Text.startsWith "arn:aws" reference then .ok (.literal reference)
  else match Text.stripPrefix? importLead reference with
    | some key => .ok (.imported key)
    | none =>
      match ps.get? reference with
      | none => .error (.undeclaredPolicy reference entity)
      | some (.error e) => .error e
      | some (.ok placement) =>
        if placement.inline then .error (.inlineReference reference entity)
        else if account ∈ placement.accounts then .ok (.localRef reference)
        else .error (.policyNotInAccount reference account entity)

def resolveAll (ps : Placements) (references : List String) (account entity : String) :
    Except Problem (List ManagedPolicy) :=
  references.mapM fun reference => ps.resolve reference account entity

end Placements

end OrgStacks
