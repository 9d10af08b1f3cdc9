import OrgStacks.Json.Number

/-!
# Reading JSON

The strict grammar: no comments, no trailing commas, no bare control characters, no half of a
surrogate pair. A number beyond the largest float is refused, and so are more than `depthLimit` open
brackets.
-/

set_option autoImplicit false

namespace OrgStacks.Json

namespace Parser

/-- The number of brackets that may be open at once. -/
def depthLimit : Nat := 127

def isBlank (c : Char) : Bool := c = ' ' || c = '\t' || c = '\n' || c = '\r'

def skipBlanks (cs : List Char) : List Char := cs.dropWhile isBlank

def hexDigit? (c : Char) : Option Nat :=
  if c.isDigit then some (c.toNat - '0'.toNat)
  else if 'a' ≤ c ∧ c ≤ 'f' then some (c.toNat - 'a'.toNat + 10)
  else if 'A' ≤ c ∧ c ≤ 'F' then some (c.toNat - 'A'.toNat + 10)
  else none

def unit? : List Char → Option (Nat × List Char)
  | a :: b :: c :: d :: rest => do
    let a ← hexDigit? a
    let b ← hexDigit? b
    let c ← hexDigit? c
    let d ← hexDigit? d
    return (((a * 16 + b) * 16 + c) * 16 + d, rest)
  | _ => none

/-- The character of one escaped unit, or of a pair of them. -/
def unicode? (cs : List Char) : Option (Char × List Char) := do
  let (high, rest) ← unit? cs
  if 0xD800 ≤ high ∧ high < 0xDC00 then
    match rest with
    | '\\' :: 'u' :: rest => do
      let (low, rest) ← unit? rest
      if 0xDC00 ≤ low ∧ low < 0xE000 then
        some (Char.ofNat (0x10000 + (high - 0xD800) * 0x400 + (low - 0xDC00)), rest)
      else none
    | _ => none
  else if 0xDC00 ≤ high ∧ high < 0xE000 then none
  else some (Char.ofNat high, rest)

/-- The rest of a string after its opening quote; `acc` holds the characters so far in reverse. -/
def stringRest? : Nat → List Char → List Char → Option (String × List Char)
  | 0, _, _ => none
  | fuel + 1, acc, cs =>
    match cs with
    | [] => none
    | '"' :: rest => some (String.ofList acc.reverse, rest)
    | '\\' :: c :: rest =>
      match c with
      | '"' => stringRest? fuel ('"' :: acc) rest
      | '\\' => stringRest? fuel ('\\' :: acc) rest
      | '/' => stringRest? fuel ('/' :: acc) rest
      | 'b' => stringRest? fuel ('\x08' :: acc) rest
      | 'f' => stringRest? fuel ('\x0c' :: acc) rest
      | 'n' => stringRest? fuel ('\n' :: acc) rest
      | 'r' => stringRest? fuel ('\r' :: acc) rest
      | 't' => stringRest? fuel ('\t' :: acc) rest
      | 'u' => do
        let (c, rest) ← unicode? rest
        stringRest? fuel (c :: acc) rest
      | _ => none
    | ['\\'] => none
    | c :: rest => if c.toNat < 0x20 then none else stringRest? fuel (c :: acc) rest

def string? (cs : List Char) : Option (String × List Char) :=
  stringRest? (cs.length + 1) [] cs

def exponent? (cs : List Char) : Option (Int × List Char) :=
  let (negative, cs) := match cs with
    | '+' :: rest => (false, rest)
    | '-' :: rest => (true, rest)
    | rest => (false, rest)
  match cs.span Char.isDigit with
  | ([], _) => none
  | (digits, rest) =>
    let n : Int := Decimal.natOfDigits digits
    some (if negative then -n else n, rest)

def number? (negative : Bool) (cs : List Char) : Option (Json × List Char) := do
  let (whole, rest) ← match cs with
    | '0' :: rest => match rest with
      | c :: _ => if c.isDigit then none else some (['0'], rest)
      | [] => some (['0'], rest)
    | _ => match cs.span Char.isDigit with
      | ([], _) => none
      | (digits, rest) => some (digits, rest)
  let (fraction, rest) ← match rest with
    | '.' :: more => match more.span Char.isDigit with
      | ([], _) => none
      | (digits, more) => some (some digits, more)
    | _ => some (none, rest)
  let (exponent, rest) ← match rest with
    | 'e' :: more | 'E' :: more => (exponent? more).map fun (e, more) => (some e, more)
    | _ => some (none, rest)
  let value ← match fraction, exponent with
    | none, none => Number.whole? negative whole
    | _, _ => Number.fraction? negative whole (fraction.getD []) (exponent.getD 0)
  return (value, rest)

mutual

def value? : Nat → Nat → List Char → Option (Json × List Char)
  | 0, _, _ => none
  | fuel + 1, depth, cs =>
    match skipBlanks cs with
    | 'n' :: 'u' :: 'l' :: 'l' :: rest => some (.null, rest)
    | 't' :: 'r' :: 'u' :: 'e' :: rest => some (.bool true, rest)
    | 'f' :: 'a' :: 'l' :: 's' :: 'e' :: rest => some (.bool false, rest)
    | '"' :: rest => (string? rest).map fun (s, rest) => (.str s, rest)
    | '[' :: rest =>
      match depth with
      | 0 => none
      | depth + 1 =>
        match skipBlanks rest with
        | ']' :: rest => some (.arr [], rest)
        | _ => items? fuel depth [] rest
    | '\x7b' :: rest =>
      match depth with
      | 0 => none
      | depth + 1 =>
        match skipBlanks rest with
        | '\x7d' :: rest => some (.obj [], rest)
        | _ => members? fuel depth [] rest
    | '-' :: rest => number? true rest
    | rest => number? false rest

/-- The items of an array from the first on; `acc` holds those before in reverse. -/
def items? : Nat → Nat → List Json → List Char → Option (Json × List Char)
  | 0, _, _, _ => none
  | fuel + 1, depth, acc, cs =>
    match value? fuel depth cs with
    | none => none
    | some (item, rest) =>
      match skipBlanks rest with
      | ',' :: rest => items? fuel depth (item :: acc) rest
      | ']' :: rest => some (.arr (item :: acc).reverse, rest)
      | _ => none

def members? : Nat → Nat → List (String × Json) → List Char → Option (Json × List Char)
  | 0, _, _, _ => none
  | fuel + 1, depth, acc, cs =>
    match skipBlanks cs with
    | '"' :: rest =>
      match string? rest with
      | none => none
      | some (name, rest) =>
        match skipBlanks rest with
        | ':' :: rest =>
          match value? fuel depth rest with
          | none => none
          | some (item, rest) =>
            match skipBlanks rest with
            | ',' :: rest => members? fuel depth ((name, item) :: acc) rest
            | '\x7d' :: rest => some (.object ((name, item) :: acc).reverse, rest)
            | _ => none
        | _ => none
    | _ => none

end

end Parser

def parse? (text : String) : Option Json :=
  let cs := text.toList
  match Parser.value? (2 * cs.length + 2) Parser.depthLimit cs with
  | some (value, rest) => if (Parser.skipBlanks rest).isEmpty then some value else none
  | none => none

end OrgStacks.Json
