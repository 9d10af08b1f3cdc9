/-!
# Kinds of configured entities

The kinds are listed in the order in which they are checked and built: a later kind may refer to an
earlier one.
-/

set_option autoImplicit false

namespace OrgStacks

inductive EntityKind where
  | policy | role | group | user | bucket | trail
deriving DecidableEq, Inhabited

namespace EntityKind

def all : List EntityKind := [policy, role, group, user, bucket, trail]

def name : EntityKind → String
  | policy => "Policy"
  | role => "Role"
  | group => "Group"
  | user => "User"
  | bucket => "Bucket"
  | trail => "Trail"

def ofName? (text : String) : Option EntityKind := all.find? fun k => k.name == text

/-- Where an entity goes that does not say so itself. -/
def defaultContext : EntityKind → List String
  | policy | role | group | trail => ["all"]
  | user | bucket => ["parent"]

end EntityKind

end OrgStacks
