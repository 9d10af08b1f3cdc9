import OrgStacks.Decimal.Text
import OrgStacks.Json.Value

/-!
# YAML values

An untyped document. Pairs of a mapping stay in their order. Two mappings are equal when they hold
equal pairs in any order, and a tag is written without its exclamation mark.
-/

set_option autoImplicit false

namespace OrgStacks

inductive Yaml where
  | null
  | bool (b : Bool)
  | int (n : Int)
  | float (x : Float)
  | str (s : String)
  | seq (items : List Yaml)
  | map (pairs : List (Yaml × Yaml))
  | tagged (tag : String) (value : Yaml)
deriving Inhabited

namespace Yaml

/-- Two zeros are the same number, and so are two results without a value. -/
def sameFloat (x y : Float) : Bool :=
  (Decimal.isNaN x && Decimal.isNaN y) || Decimal.signAndBits x = Decimal.signAndBits y ||
    ((Decimal.signAndBits x).2 = 0 && (Decimal.signAndBits y).2 = 0)

mutual

def same : Yaml → Yaml → Bool
  | .null, .null => true
  | .bool a, .bool b => a == b
  | .int a, .int b => a == b
  | .float a, .float b => sameFloat a b
  | .str a, .str b => a == b
  | .seq a, .seq b => sameItems a b
  | .map a, .map b => a.length = b.length && allHeld a b
  | .tagged t a, .tagged u b => t == u && same a b
  | _, _ => false

def sameItems : List Yaml → List Yaml → Bool
  | [], [] => true
  | a :: as, b :: bs => same a b && sameItems as bs
  | _, _ => false

def allHeld : List (Yaml × Yaml) → List (Yaml × Yaml) → Bool
  | [], _ => true
  | (k, v) :: rest, pairs => (pairs.any fun p => same k p.1 && same v p.2) && allHeld rest pairs

end

def valueAt? (key : Yaml) (pairs : List (Yaml × Yaml)) : Option Yaml :=
  (pairs.find? fun p => same key p.1).map (·.2)

mutual

def ofJson : Json → Yaml
  | .null => .null
  | .bool b => .bool b
  | .int n => .int n
  | .float x => .float x
  | .str s => .str s
  | .arr items => .seq (ofJsonItems items)
  | .obj members => .map (ofJsonMembers members)

def ofJsonItems : List Json → List Yaml
  | [] => []
  | item :: items => ofJson item :: ofJsonItems items

def ofJsonMembers : List (String × Json) → List (Yaml × Yaml)
  | [] => []
  | (name, value) :: members => (.str name, ofJson value) :: ofJsonMembers members

end

end Yaml

end OrgStacks
