import OrgStacks.Yaml.Node
import OrgStacks.Yaml.Scalar

/-!
# Reading a YAML text

The value of the one document of a text, null when it has none. An alias stands for the node that
bears its anchor. Refused are repeated keys, nesting deeper than 128 collections, and texts whose
aliases repeat more than a hundred times what is written.
-/

set_option autoImplicit false

namespace OrgStacks.Yaml

inductive Fault where
  | notWellFormed
  | unknownAnchor (name : String)
  | tooDeep
  | tooManyAliases
  | repeatedKey
  | wrongScalar (text : String)
  | tooLarge (n : Int) (mark : Mark)
deriving Inhabited

namespace Fault

/-- A place is only told when it is not the start of the text. -/
def position (m : Mark) : String :=
  if m = ⟨0, 0⟩ then ""
  else " at line " ++ toString (m.line + 1) ++ " column " ++ toString (m.column + 1)

def message : Fault → String
  | notWellFormed => "the text is not one well-formed YAML document"
  | unknownAnchor name => "the anchor of the alias " ++ name ++ " is not known"
  | tooDeep => "collections are nested too deep"
  | tooManyAliases => "aliases repeat too much"
  | repeatedKey => "a mapping repeats a key"
  | wrongScalar text => "the scalar " ++ text ++ " is not of the type of its tag"
  | tooLarge n mark =>
    "invalid type: integer \u0060" ++ toString n ++ "\u0060 as " ++
      (if n < 0 then "i128" else "u128") ++ ", expected any YAML value" ++ position mark

end Fault

namespace Node

/-- The current number of every anchor name that has been met. -/
abbrev Anchors := List (String × Nat)

/-- The next number is the count of the names met before, so a name that is met again takes a number
that a later name takes too. -/
def Anchors.insert (names : Anchors) (name : String) : Anchors :=
  (name, names.length) :: names.filter fun n => n.1 != name

def numberProperties (ps : Properties String) (names : Anchors) : Properties Nat × Anchors :=
  match ps.anchor with
  | none => ({ tag := ps.tag }, names)
  | some name => ({ anchor := names.length, tag := ps.tag }, names.insert name)

mutual

def number : Node String → Anchors → Except Fault (Node Nat × Anchors)
  | .scalar mark ps text plain, names =>
    let (ps, names) := numberProperties ps names
    .ok (.scalar mark ps text plain, names)
  | .seq ps items, names => do
    let (ps, names) := numberProperties ps names
    let (items, names) ← numberItems items names
    return (.seq ps items, names)
  | .map ps pairs, names => do
    let (ps, names) := numberProperties ps names
    let (pairs, names) ← numberPairs pairs names
    return (.map ps pairs, names)
  | .aliasOf name, names =>
    match names.find? fun n => n.1 == name with
    | some n => .ok (.aliasOf n.2, names)
    | none => .error (.unknownAnchor name)

def numberItems : List (Node String) → Anchors → Except Fault (List (Node Nat) × Anchors)
  | [], names => .ok ([], names)
  | item :: items, names => do
    let (item, names) ← number item names
    let (items, names) ← numberItems items names
    return (item :: items, names)

def numberPairs : List (Node String × Node String) → Anchors →
    Except Fault (List (Node Nat × Node Nat) × Anchors)
  | [], names => .ok ([], names)
  | (key, value) :: pairs, names => do
    let (key, names) ← number key names
    let (value, names) ← number value names
    let (pairs, names) ← numberPairs pairs names
    return ((key, value) :: pairs, names)

end

/-- Nodes by the number of their anchor; the last of a number counts. -/
abbrev Targets := List (Nat × Node Nat)

def target (ps : Properties Nat) (node : Node Nat) : Targets :=
  (ps.anchor.map fun n => (n, node)).toList

mutual

def targets : Node Nat → Targets
  | .scalar mark ps text plain => target ps (.scalar mark ps text plain)
  | .seq ps items => target ps (.seq ps items) ++ targetsOfItems items
  | .map ps pairs => target ps (.map ps pairs) ++ targetsOfPairs pairs
  | .aliasOf _ => []

def targetsOfItems : List (Node Nat) → Targets
  | [] => []
  | item :: items => targets item ++ targetsOfItems items

def targetsOfPairs : List (Node Nat × Node Nat) → Targets
  | [] => []
  | (key, value) :: pairs => targets key ++ targets value ++ targetsOfPairs pairs

end

mutual

/-- The size of a text: a collection counts twice. -/
def size : Node Nat → Nat
  | .scalar .. => 1
  | .seq _ items => sizeOfItems items + 2
  | .map _ pairs => sizeOfPairs pairs + 2
  | .aliasOf _ => 1

def sizeOfItems : List (Node Nat) → Nat
  | [] => 0
  | item :: items => size item + sizeOfItems items

def sizeOfPairs : List (Node Nat × Node Nat) → Nat
  | [] => 0
  | (key, value) :: pairs => size key + size value + sizeOfPairs pairs

end

/-- The tag of a kind that the text chose itself, without its exclamation mark. -/
def ownTag? (ps : Properties Nat) : Option String :=
  match ps.tag >>= String.fromUTF8? with
  | some tag => match tag.toList with
    | ['!'] => some tag
    | '!' :: rest => some (String.ofList rest)
    | _ => none
  | none => none

def withTag (ps : Properties Nat) (value : Yaml) : Yaml :=
  match ownTag? ps with
  | some tag => .tagged tag value
  | none => value

/-- A scalar with a foreign tag is text. -/
def scalarReading (ps : Properties Nat) (text : String) (plain : Bool) :
    Except Fault Scalar.Reading :=
  let own : Scalar.Reading := if plain then Scalar.read text else .value (.str text)
  match ps.tag with
  | none => .ok own
  | some bytes =>
    if bytes.toList.head? = some 0x21 then .ok own
    else match String.fromUTF8? bytes >>= fun tag => Scalar.readTagged tag text with
      | some (some r) => .ok r
      | some none => .error (.wrongScalar text)
      | none => .ok (.value (.str text))

abbrev Following := StateT Nat (Except Fault)

def follow (limit : Nat) (ts : Targets) : Node Nat → Following (Node Nat)
  | .aliasOf n => do
    set ((← get) + 1)
    if (← get) > limit then throw .tooManyAliases
    match ts.reverse.find? fun t => t.1 == n with
    | some t => return t.2
    | none => throw .notWellFormed
  | node => return node

/-- The value of a node with at most this many collections inside one another. -/
def value (limit : Nat) (ts : Targets) : Nat → Node Nat → Following Yaml
  | 0, node => do
    match ← follow limit ts node with
    | .scalar mark ps text plain => scalarValue mark ps text plain
    | _ => throw .tooDeep
  | depth + 1, node => do
    match ← follow limit ts node with
    | .scalar mark ps text plain => scalarValue mark ps text plain
    | .seq ps items => return withTag ps (.seq (← items.mapM (value limit ts depth)))
    | .map ps pairs =>
      let pairs ← pairs.foldlM (fun read pair => do
        let key ← value limit ts depth pair.1
        if read.any fun p => same key p.1 then throw .repeatedKey
        return (key, ← value limit ts depth pair.2) :: read) []
      return withTag ps (.map pairs.reverse)
    | .aliasOf _ => throw .notWellFormed
where
  scalarValue (mark : Mark) (ps : Properties Nat) (text : String) (plain : Bool) :
      Following Yaml := do
    match ← scalarReading ps text plain with
    | .value v => return withTag ps v
    | .tooLarge n => throw (.tooLarge n mark)

end Node

/-- How many collections may be inside one another. -/
def maxDepth : Nat := 128

/-- How often the aliases may repeat what is written. -/
def maxRepetition : Nat := 100

def parse (text : String) : Except Fault Yaml := do
  match tokens? text >>= Node.ofTokens? with
  | none => throw .notWellFormed
  | some none => return .null
  | some (some node) =>
    let (node, _) ← node.number []
    let (v, _) ← (node.value (node.size * maxRepetition) node.targets maxDepth).run 0
    return v

end OrgStacks.Yaml
