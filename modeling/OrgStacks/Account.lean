import OrgStacks.NameMap
import OrgStacks.Problem

/-!
# Accounts and their registry

`Registry.ofAccounts` takes accounts in any order. It refuses an id that is not a digit string, a
repeated name, a repeated id, and any number of parents but one; the first offending account in the
given order is reported.
-/

set_option autoImplicit false

namespace OrgStacks

structure Account where
  name : String
  id : String
  isParent : Bool := false
  samlProvider : Option String := none
deriving DecidableEq, Inhabited

namespace Account

def rootArn (a : Account) : String := "arn:aws:iam::" ++ a.id ++ ":root"

def roleArn (a : Account) (role : String) : String := "arn:aws:iam::" ++ a.id ++ ":role/" ++ role

def display (a : Account) : String := a.name ++ " (" ++ a.id ++ ")"

end Account

/-- The accounts by name, who owns each id, and the one parent. -/
structure Registry where
  accounts : NameMap Account
  owners : NameMap String
  parent : Account

namespace Registry

structure Intake where
  accounts : NameMap Account := .empty
  owners : NameMap String := .empty

/-- The shape of the id comes first, then the name, then the owner of the id. -/
def Intake.add (taken : Intake) (a : Account) : Except Problem Intake :=
  if Text.isDigits a.id = false then .error (.invalidId a.name a.id)
  else if taken.accounts.contains a.name then .error (.duplicateName a.name)
  else match taken.owners.get? a.id with
    | some first => .error (.duplicateId a.id first a.name)
    | none => .ok ⟨taken.accounts.insert a.name a, taken.owners.insert a.id a.name⟩

def ofAccounts (accounts : List Account) : Except Problem Registry := do
  let taken ← accounts.foldlM Intake.add {}
  match taken.accounts.values.filter Account.isParent with
  | [] => .error .missingParent
  | [parent] => .ok ⟨taken.accounts, taken.owners, parent⟩
  | parents => .error (.multipleParents (parents.map Account.name))

def get? (r : Registry) (name : String) : Option Account := r.accounts.get? name

def account (r : Registry) (name : String) : Except Problem Account :=
  match r.get? name with
  | some a => .ok a
  | none => .error (.unknownAccount name)

/-- Every account, in name order. -/
def toList (r : Registry) : List Account := r.accounts.values

def nameOfId (r : Registry) (id : String) : Except Problem String :=
  match r.owners.get? id with
  | some name => .ok name
  | none => .error (.unknownAccount id)

def idOfName (r : Registry) (name : String) : Except Problem String :=
  (r.account name).map Account.id

/-- A digit string stands for the name of its account, any other text for the id of its account. -/
def convert (r : Registry) (value : String) : Except Problem String :=
  if Text.isDigits value then r.nameOfId value else r.idOfName value

def isParent (r : Registry) (name : String) : Bool := r.parent.name == name

def samlProvider (r : Registry) : Option String := r.parent.samlProvider

def all (r : Registry) : NameSet := .ofList r.accounts.keys

def children (r : Registry) : NameSet :=
  .ofList (r.accounts.keys.filter fun name => name != r.parent.name)

/-- The accounts that are not the parent, in name order. -/
def childAccounts (r : Registry) : List Account := r.toList.filter fun a => !a.isParent

end Registry

end OrgStacks
