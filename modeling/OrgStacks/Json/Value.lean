import OrgStacks.NameMap

/-!
# JSON values

Whole numbers and fractions are told apart. Members of an object stay in the order of the list;
`Json.object` sorts them by name and keeps the last of a repeated name.
-/

set_option autoImplicit false

namespace OrgStacks

inductive Json where
  | null
  | bool (b : Bool)
  | int (n : Int)
  | float (x : Float)
  | str (s : String)
  | arr (items : List Json)
  | obj (members : List (String × Json))
deriving Inhabited

namespace Json

/-- An object with its members in name order. -/
def object (members : List (String × Json)) : Json := .obj (NameMap.ofList members).entries

def get? (name : String) : Json → Option Json
  | .obj members => valueOf? name members
  | _ => none

mutual

/-- The value with the members of every object in name order. -/
def sorted : Json → Json
  | .arr items => .arr (sortedItems items)
  | .obj members => object (sortedMembers members)
  | .null => .null
  | .bool b => .bool b
  | .int n => .int n
  | .float x => .float x
  | .str s => .str s

def sortedItems : List Json → List Json
  | [] => []
  | item :: items => sorted item :: sortedItems items

def sortedMembers : List (String × Json) → List (String × Json)
  | [] => []
  | (name, value) :: members => (name, sorted value) :: sortedMembers members

end

theorem sortedItems_eq_map (items : List Json) : sortedItems items = items.map sorted := by
  induction items with
  | nil => rfl
  | cons item items ih => rw [sortedItems, ih, List.map_cons]

theorem sortedMembers_eq_map (members : List (String × Json)) :
    sortedMembers members = members.map fun m => (m.1, m.2.sorted) := by
  induction members with
  | nil => rfl
  | cons m members ih => rw [sortedMembers, ih, List.map_cons]

def ofStrings (texts : List String) : Json := .arr (texts.map .str)

end Json

end OrgStacks
