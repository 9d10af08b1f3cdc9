import OrgStacks.Json.Value
import OrgStacks.Text
import OrgStacks.Text.Quoted
import OrgStacks.Yaml.Value

/-!
# Records in YAML

A record is a mapping with known members. Members are read in the order of the document; a member
that is not known or is given twice ends the reading at once, and a missing member is reported last.
Null stands for a record, a list or a map without entries. A tag on a value of a known type does not
count.
-/

set_option autoImplicit false

namespace OrgStacks.Config

abbrev Reader (α : Type) := Yaml → Except String α

def describe : Yaml → String
  | .null => "unit value"
  | .bool b => "boolean \u0060" ++ (if b then "true" else "false") ++ "\u0060"
  | .int n => "integer \u0060" ++ toString n ++ "\u0060"
  | .float x => "floating point \u0060" ++
    (if Decimal.isNaN x then "NaN"
      else if Decimal.isFinite x then Decimal.Style.positional.writeFloat x
      else if x < 0.0 then "-inf" else "inf") ++ "\u0060"
  | .str s => "string " ++ Text.quoted s
  | .seq _ => "sequence"
  | .map _ => "map"
  | .tagged .. => "enum"

def wrongType {α : Type} (found : Yaml) (expected : String) : Except String α :=
  .error ("invalid type: " ++ describe found ++ ", expected " ++ expected)

def untag : Yaml → Yaml
  | .tagged _ value => untag value
  | value => value

def readText : Reader String := fun value =>
  match untag value with
  | .str s => .ok s
  | other => wrongType other "a string"

def readBool : Reader Bool := fun value =>
  match untag value with
  | .bool b => .ok b
  | other => wrongType other "a boolean"

/-- Null is an absent value. -/
def readOptional {α : Type} (read : Reader α) : Reader (Option α)
  | .null => .ok none
  | value => (read value).map some

def readList {α : Type} (read : Reader α) : Reader (List α) := fun value =>
  match untag value with
  | .seq items => items.mapM read
  | .null => .ok []
  | other => wrongType other "a sequence"

def readPairs : Reader (List (Yaml × Yaml)) := fun value =>
  match untag value with
  | .map pairs => .ok pairs
  | .null => .ok []
  | other => wrongType other "a map"

/-- A map from names; of a repeated name the last value counts. -/
def readNames {α : Type} (read : Reader α) : Reader (NameMap α) := fun value => do
  let pairs ← readPairs value
  let entries ← pairs.mapM fun (key, value) => do return (← readText key, ← read value)
  return .ofList entries

structure Member (α : Type) where
  name : String
  aliases : List String := []
  required : Bool := false
  read : α → Reader α

namespace Member

variable {α : Type}

def of {β : Type} (name : String) (read : Reader β) (set : α → β → α)
    (required : Bool := false) (aliases : List String := []) : Member α where
  name
  aliases
  required
  read a value := (read value).map (set a)

/-- The names under which it may be given, in name order. -/
def names (m : Member α) : List String := NameSet.toList (.ofList (m.name :: m.aliases))

def listing (members : List (Member α)) : String :=
  match (members.flatMap names).map fun n => "\u0060" ++ n ++ "\u0060" with
  | [a] => a
  | [a, b] => a ++ " or " ++ b
  | all => "one of " ++ Text.joinWith ", " all

/-- One pair of the mapping; `seen` holds the members that were given before. -/
def step (members : List (Member α)) (state : α × List String) (pair : Yaml × Yaml) :
    Except String (α × List String) := do
  let name ← readText pair.1
  match members.find? fun m => m.names.contains name with
  | none => .error ("unknown field \u0060" ++ name ++ "\u0060, expected " ++ listing members)
  | some m =>
    if state.2.contains m.name then .error ("duplicate field \u0060" ++ m.name ++ "\u0060")
    else return (← m.read state.1 pair.2, m.name :: state.2)

/-- A record, starting from the values of the members that are not given. -/
def readRecord (members : List (Member α)) (start : α) : Reader α := fun value => do
  let pairs ← readPairs value
  let (a, seen) ← pairs.foldlM (step members) (start, [])
  match members.find? fun m => m.required && !seen.contains m.name with
  | some m => .error ("missing field \u0060" ++ m.name ++ "\u0060")
  | none => return a

end Member

mutual

/-- A value of any form; numbers without a value are null. -/
def readJson : Yaml → Except String Json
  | .null => .ok .null
  | .bool b => .ok (.bool b)
  | .int n => .ok (.int n)
  | .float x => .ok (if Decimal.isFinite x then .float x else .null)
  | .str s => .ok (.str s)
  | .seq items => (readJsonItems items).map .arr
  | .map pairs => (readJsonMembers pairs).map Json.object
  | .tagged tag value => wrongType (.tagged tag value) "any valid JSON value"

def readJsonItems : List Yaml → Except String (List Json)
  | [] => .ok []
  | item :: items => do
    let item ← readJson item
    let items ← readJsonItems items
    return item :: items

def readJsonMembers : List (Yaml × Yaml) → Except String (List (String × Json))
  | [] => .ok []
  | (key, value) :: pairs => do
    let name ← readText key
    let value ← readJson value
    let rest ← readJsonMembers pairs
    return (name, value) :: rest

end

end OrgStacks.Config
