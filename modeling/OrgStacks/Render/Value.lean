import OrgStacks.Decimal.Text
import OrgStacks.Json.Value
import OrgStacks.Text
import OrgStacks.Text.Quoted

/-!
# Values of policy texts

What an expression in a policy text stands for. Pairs of a mapping keep their order. Loops, name
spaces and macros are values too; the last two are numbers that a run gives them.
-/

set_option autoImplicit false

namespace OrgStacks.Render

inductive Value where
  /-- A name or a part that is not there. It may be shown when a condition without an alternative
  left it out. -/
  | undefined (omitted : Bool)
  | none
  | bool (b : Bool)
  | int (n : Int)
  | float (x : Float)
  | str (s : String)
  | list (items : List Value)
  | map (pairs : List (Value × Value))
  /-- Where a loop is: all items, and the number of those before the current one. -/
  | loop (items : List Value) (index : Nat)
  | macroAt (index : Nat) (name : String)
  | spaceAt (index : Nat)
deriving Inhabited

abbrev Result := Except String

namespace Value

mutual

def ofJson : Json → Value
  | .null => .none
  | .bool b => .bool b
  | .int n => .int n
  | .float x => .float x
  | .str s => .str s
  | .arr items => .list (ofJsonItems items)
  | .obj members => .map (ofJsonMembers members)

def ofJsonItems : List Json → List Value
  | [] => []
  | item :: items => ofJson item :: ofJsonItems items

def ofJsonMembers : List (String × Json) → List (Value × Value)
  | [] => []
  | (name, value) :: members => (.str name, ofJson value) :: ofJsonMembers members

end

def floatText (x : Float) : String :=
  if Decimal.isNaN x then "NaN"
  else if Decimal.isFinite x then Decimal.Style.positional.writeFloat x
  else if x < 0.0 then "-inf" else "inf"

mutual

/-- The text inside of a list or a mapping, where texts are quoted. -/
def inner : Value → String
  | .undefined _ => "undefined"
  | .none => "None"
  | .bool b => if b then "True" else "False"
  | .int n => toString n
  | .float x => floatText x
  | .str s => Text.quoted s
  | .list items => "[" ++ Text.joinWith ", " (innerItems items) ++ "]"
  | .map pairs => "\x7b" ++ Text.joinWith ", " (innerPairs pairs) ++ "\x7d"
  | .loop items index => "<loop " ++ toString index ++ "/" ++ toString items.length ++ ">"
  | .macroAt _ name => "<macro " ++ name ++ ">"
  | .spaceAt _ => "\x7b\x7d"

def innerItems : List Value → List String
  | [] => []
  | item :: items => inner item :: innerItems items

def innerPairs : List (Value × Value) → List String
  | [] => []
  | (key, value) :: pairs => (inner key ++ ": " ++ inner value) :: innerPairs pairs

end

def text : Value → String
  | .str s => s
  | .undefined _ => ""
  | v => v.inner

/-- A whole number, or a truth value or a fraction that is one. -/
def whole? : Value → Option Int
  | .int n => some n
  | .bool b => some (if b then 1 else 0)
  | .float x =>
    if Decimal.isFinite x && x.floor == x && x.abs < 1.0e18 then
      some (if x < 0.0 then -((-x).toUInt64.toNat : Int) else (x.toUInt64.toNat : Int))
    else Option.none
  | _ => Option.none

def fraction? : Value → Option Float
  | .float x => some x
  | .int n => some (Float.ofInt n)
  | .bool b => some (if b then 1.0 else 0.0)
  | _ => Option.none

inductive Common where
  | wholes (a b : Int)
  | fractions (a b : Float)
  | texts (a b : String)

def common? : Value → Value → Option Common
  | .str a, .str b => some (.texts a b)
  | .float a, v => v.fraction?.map (.fractions a)
  | v, .float b => v.fraction?.map (.fractions · b)
  | v, w => do return .wholes (← v.whole?) (← w.whole?)

def rank : Value → Nat
  | .undefined _ => 0
  | .none => 1
  | .bool _ => 2
  | .int _ | .float _ => 3
  | .str _ => 4
  | .list _ => 5
  | .map _ | .loop .. | .spaceAt _ | .macroAt .. => 6

mutual

/-- Numbers of different types are equal when their values are, and mappings in any order. -/
def same : Value → Value → Bool
  | .undefined _, .undefined _ => true
  | .none, .none => true
  | .list a, .list b => sameItems a b
  | .map a, .map b => a.length == b.length && allHeld a b
  | .macroAt i _, .macroAt j _ => i == j
  | .spaceAt i, .spaceAt j => i == j
  | v, w => match common? v w with
    | some (.wholes a b) => a == b
    | some (.fractions a b) => a == b
    | some (.texts a b) => a == b
    | Option.none => false

def sameItems : List Value → List Value → Bool
  | [], [] => true
  | a :: as, b :: bs => same a b && sameItems as bs
  | _, _ => false

def allHeld : List (Value × Value) → List (Value × Value) → Bool
  | [], _ => true
  | (k, v) :: rest, pairs => (pairs.any fun p => same k p.1 && same v p.2) && allHeld rest pairs

end

def orderFloats (a b : Float) : Ordering := if a < b then .lt else if a == b then .eq else .gt

mutual

/-- The order of all values: by type, and within a type by value. -/
def order : Value → Value → Ordering
  | .list a, .list b => orderItems a b
  | .map a, .map b => orderPairs a b
  | v, w =>
    (compare v.rank w.rank).then <| match common? v w with
      | some (.wholes a b) => compare a b
      | some (.fractions a b) => orderFloats a b
      | some (.texts a b) => compare a b
      | Option.none => .eq

def orderItems : List Value → List Value → Ordering
  | [], [] => .eq
  | [], _ :: _ => .lt
  | _ :: _, [] => .gt
  | a :: as, b :: bs => (order a b).then (orderItems as bs)

def orderPairs : List (Value × Value) → List (Value × Value) → Ordering
  | [], [] => .eq
  | [], _ :: _ => .lt
  | _ :: _, [] => .gt
  | (k, v) :: as, (l, w) :: bs => ((order k l).then (order v w)).then (orderPairs as bs)

end

def isUndefined : Value → Bool
  | .undefined _ => true
  | _ => false

/-- A value that is not there has no parts, no length and no truth. -/
def defined (v : Value) : Result Value :=
  match v with
  | .undefined _ => .error "undefined value"
  | v => .ok v

def isTrue : Value → Result Bool
  | .undefined omitted => if omitted then .ok false else .error "undefined value"
  | .none => .ok false
  | .bool b => .ok b
  | .int n => .ok (n ≠ 0)
  | .float x => .ok !(x == 0.0)
  | .str s => .ok !s.isEmpty
  | .list items => .ok !items.isEmpty
  | .map pairs => .ok !pairs.isEmpty
  | .loop .. | .macroAt .. | .spaceAt _ => .ok true

def chars (s : String) : List Value := s.toList.map fun c => .str (String.singleton c)

def items : Value → Result (List Value)
  | .undefined _ | .none => .ok []
  | .list items => .ok items
  | .map pairs => .ok (pairs.map (·.1))
  | .str s => .ok (chars s)
  | _ => .error "the value cannot be iterated over"

def length : Value → Result Nat
  | .str s => .ok s.length
  | .list items => .ok items.length
  | .map pairs => .ok pairs.length
  | _ => .error "the value has no length"

def lookup? (key : Value) (pairs : List (Value × Value)) : Option Value :=
  (pairs.find? fun p => same key p.1).map (·.2)

/-- An index counts from the end when it is negative. -/
def place? (key : Value) (size : Nat) : Option Nat :=
  match key.whole? with
  | some n => if 0 ≤ n then some n.toNat
    else if n.natAbs ≤ size then some (size - n.natAbs) else Option.none
  | Option.none => Option.none

def loopPart? (items : List Value) (index : Nat) : String → Option Value
  | "index0" => some (.int index)
  | "index" => some (.int (index + 1))
  | "length" => some (.int items.length)
  | "revindex" => some (.int (items.length - index))
  | "revindex0" => some (.int (items.length - index - 1))
  | "first" => some (.bool (index = 0))
  | "last" => some (.bool (index + 1 = items.length))
  | "depth" => some (.int 1)
  | "depth0" => some (.int 0)
  | "previtem" => some (if index = 0 then .undefined false
    else (items[index - 1]?).getD (.undefined false))
  | "nextitem" => some ((items[index + 1]?).getD (.undefined false))
  | _ => Option.none

def item? (v key : Value) : Option Value :=
  match v with
  | .map pairs => lookup? key pairs
  | .list items => do items[← place? key items.length]?
  | .str s => do
    let c ← s.toList[← place? key s.length]?
    return .str (String.singleton c)
  | .loop items index => match key with
    | .str name => loopPart? items index name
    | _ => Option.none
  | _ => Option.none

def holds (container v : Value) : Result Bool :=
  match container with
  | .undefined _ => .error "undefined value"
  | .str s => .ok (Text.contains v.text s)
  | .list items => .ok (items.any (same v))
  | .map pairs => .ok (lookup? v pairs).isSome
  | _ => .error "the value cannot hold others"

end Value

end OrgStacks.Render
