import OrgStacks.Text
import OrgStacks.Yaml.Value

/-!
# What a plain scalar stands for

Null, a truth value, a whole number, a fraction, and otherwise text. Whole numbers may be written in
base 16, 8 and 2; digits after a leading zero are text. Whole numbers have to fit into 64 bits;
beyond 128 bits they are fractions.
-/

set_option autoImplicit false

namespace OrgStacks.Yaml.Scalar

def isNull (text : String) : Bool := ["null", "Null", "NULL", "~"].contains text

def bool? (text : String) : Option Bool :=
  if ["true", "True", "TRUE"].contains text then some true
  else if ["false", "False", "FALSE"].contains text then some false
  else none

def natOfBase? (base : Nat) (cs : List Char) : Option Nat :=
  if cs.isEmpty then none
  else cs.foldlM (fun n c => do
    let d ← if c.isDigit then some (c.toNat - '0'.toNat)
      else if 'a' ≤ c && c ≤ 'f' then some (c.toNat - 'a'.toNat + 10)
      else if 'A' ≤ c && c ≤ 'F' then some (c.toNat - 'A'.toNat + 10)
      else none
    if d < base then some (n * base + d) else none) 0

def splitSign : List Char → Option Bool × List Char
  | '+' :: cs => (some false, cs)
  | '-' :: cs => (some true, cs)
  | cs => (none, cs)

def hasLeadingZero (cs : List Char) : Bool :=
  let digits := (splitSign cs).2
  digits.length > 1 && digits.head? = some '0' && digits.all Char.isDigit

def wholeNumber? (cs : List Char) : Option Int :=
  let (sign, digits) := splitSign cs
  let size := match digits with
    | '0' :: 'x' :: rest => natOfBase? 16 rest
    | '0' :: 'o' :: rest => natOfBase? 8 rest
    | '0' :: 'b' :: rest => natOfBase? 2 rest
    | _ => if hasLeadingZero cs then none else natOfBase? 10 digits
  size.map fun n => if sign = some true then -(n : Int) else n

/-- Digits before and after a point, with at least one of either, and an exponent. -/
def written? (cs : List Char) : Option Decimal.Written := do
  let (whole, rest) := cs.span Char.isDigit
  let (fraction, rest) := match rest with
    | '.' :: rest => rest.span Char.isDigit
    | _ => ([], rest)
  if whole.isEmpty && fraction.isEmpty then none
  match rest with
  | [] => return ⟨whole, fraction, 0⟩
  | e :: rest =>
    if e ≠ 'e' && e ≠ 'E' then none
    let (sign, digits) := splitSign rest
    if digits.isEmpty || !digits.all Char.isDigit then none
    let size : Int := Decimal.natOfDigits digits
    return ⟨whole, fraction, if sign = some true then -size else size⟩

/-- The fraction that is written; one too large to be finite is text. -/
def fraction? (text : String) : Option Float :=
  if [".inf", ".Inf", ".INF", "+.inf", "+.Inf", "+.INF"].contains text then some (1.0 / 0.0)
  else if ["-.inf", "-.Inf", "-.INF"].contains text then some (-1.0 / 0.0)
  else if [".nan", ".NaN", ".NAN"].contains text then some (0.0 / 0.0)
  else do
    let (sign, digits) := splitSign text.toList
    let x := (← written? digits).value
    if !Decimal.isFinite x then none
    return if sign = some true then -x else x

/-- A whole number beyond 64 bits is refused. -/
inductive Reading where
  | value (v : Yaml)
  | tooLarge (n : Int)

def fits64 (n : Int) : Bool := -(Nat.pow 2 63) ≤ n && n < Nat.pow 2 64

def fits128 (n : Int) : Bool := -(Nat.pow 2 127) ≤ n && n < Nat.pow 2 128

/-- A whole number of at most 128 bits. -/
def readInt? (text : String) : Option Reading :=
  match wholeNumber? text.toList with
  | some n =>
    if fits64 n then some (.value (.int n)) else if fits128 n then some (.tooLarge n) else none
  | none => none

def read (text : String) : Reading :=
  if text.isEmpty || isNull text then .value .null
  else match bool? text with
    | some b => .value (.bool b)
    | none => match readInt? text with
      | some r => r
      | none =>
        if hasLeadingZero text.toList then .value (.str text)
        else match fraction? text with
          | some x => .value (.float x)
          | none => .value (.str text)

def coreTag (name : String) : String := "tag:yaml.org,2002:" ++ name

/-- A scalar with one of those tags, if it is one of that type; no answer for other tags. -/
def readTagged (tag text : String) : Option (Option Reading) :=
  if tag = coreTag "bool" then some ((bool? text).map fun b => .value (.bool b))
  else if tag = coreTag "int" then some (readInt? text)
  else if tag = coreTag "float" then some ((fraction? text).map fun x => .value (.float x))
  else if tag = coreTag "null" then some (if isNull text then some (.value .null) else none)
  else none

end OrgStacks.Yaml.Scalar
