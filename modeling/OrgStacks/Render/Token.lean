import OrgStacks.Render.Value

/-!
# Tokens of policy texts

A policy text is plain but for expressions between double braces, statements between braces with
percent signs, and comments between braces with number signs. A minus sign inside of the braces
removes the white space outside of them. The contents of a raw block are plain.
-/

set_option autoImplicit false

namespace OrgStacks.Render

inductive Token where
  | data (text : String)
  | expressionStart | expressionEnd
  | statementStart | statementEnd
  | name (text : String)
  | str (text : String)
  | int (n : Nat)
  | float (x : Float)
  | mark (text : String)
deriving Inhabited

namespace Token

def isMark (text : String) : Token → Bool
  | mark t => t == text
  | _ => false

def isName (text : String) : Token → Bool
  | name t => t == text
  | _ => false

def isGap (c : Char) : Bool := c = ' ' || c = '\t' || c = '\n' || c = '\r' || c = '\x0c'

def isNameStart (c : Char) : Bool := c.isAlpha || c = '_'

def isNameChar (c : Char) : Bool := c.isAlphanum || c = '_'

def longMarks : List String := ["//", "**", "==", "!=", ">=", "<="]

def shortMarks : List Char :=
  ['+', '-', '*', '/', '%', '!', '.', ',', ':', '~', '|', '=', '>', '<', '(', ')', '[', ']', '{',
    '}']

def mark? : List Char → Option (String × List Char)
  | a :: b :: rest =>
    if longMarks.contains (String.ofList [a, b]) then some (String.ofList [a, b], rest)
    else if shortMarks.contains a then some (String.singleton a, b :: rest) else none
  | [a] => if shortMarks.contains a then some (String.singleton a, []) else none
  | [] => none

def hexDigit? (c : Char) : Option Nat :=
  if c.isDigit then some (c.toNat - '0'.toNat)
  else if 'a' ≤ c && c ≤ 'f' then some (c.toNat - 'a'.toNat + 10)
  else if 'A' ≤ c && c ≤ 'F' then some (c.toNat - 'A'.toNat + 10)
  else none

def unit? : List Char → Option (Nat × List Char)
  | a :: b :: c :: d :: rest => do
    return ((((← hexDigit? a) * 16 + (← hexDigit? b)) * 16 + (← hexDigit? c)) * 16 +
      (← hexDigit? d), rest)
  | _ => none

/-- The character of a code, of which a high half is followed by an escaped low half. -/
def codeEscape? (cs : List Char) : Option (Char × List Char) := do
  let (code, rest) ← unit? cs
  let (code, rest) ← if 0xD800 ≤ code && code < 0xDC00 then
      match rest with
      | '\\' :: 'u' :: rest => do
        let (low, rest) ← unit? rest
        if 0xDC00 ≤ low && low < 0xE000 then
          some (0x10000 + (code - 0xD800) * 0x400 + (low - 0xDC00), rest)
        else none
      | _ => none
    else some (code, rest)
  if h : code.isValidChar then some (Char.ofNatAux code h, rest) else none

def simpleEscape? : Char → Option Char
  | '"' => some '"' | '\\' => some '\\' | '/' => some '/' | '\'' => some '\''
  | 'b' => some '\x08' | 'f' => some '\x0c' | 'n' => some '\n' | 'r' => some '\r'
  | 't' => some '\t' | _ => none

def quoted (quote : Char) : Nat → List Char → List Char → Option (String × List Char)
  | 0, _, _ => none
  | _ + 1, _, [] => none
  | fuel + 1, read, c :: cs =>
    if c = quote then some (String.ofList read.reverse, cs)
    else if c ≠ '\\' then quoted quote fuel (c :: read) cs
    else match cs with
      | 'u' :: rest => do
        let (ch, rest) ← codeEscape? rest
        quoted quote fuel (ch :: read) rest
      | e :: rest => do quoted quote fuel ((← simpleEscape? e) :: read) rest
      | [] => none

def isNumberChar (c : Char) : Bool := c.isDigit || c = '_'

def digitsOf (cs : List Char) : List Char := cs.filter (· ≠ '_')

def natOf (base : Nat) (cs : List Char) : Nat :=
  (digitsOf cs).foldl (fun n c => n * base + (hexDigit? c).getD 0) 0

def based? (base : Nat) (cs : List Char) : Option (Token × List Char) :=
  let isDigit (c : Char) : Bool := c = '_' || (hexDigit? c).any (· < base)
  let (digits, rest) := cs.span isDigit
  if (digitsOf digits).isEmpty then none else some (.int (natOf base digits), rest)

def exponent? : List Char → Option (Int × List Char)
  | c :: cs =>
    if c ≠ 'e' && c ≠ 'E' then none
    else
      let (negative, rest) := match cs with
        | '-' :: rest => (true, rest)
        | '+' :: rest => (false, rest)
        | rest => (false, rest)
      let (digits, rest) := rest.span isNumberChar
      if (digitsOf digits).isEmpty then none
      else some (if negative then -(natOf 10 digits : Int) else natOf 10 digits, rest)
  | [] => none

/-- A number: whole, or with a fraction or an exponent. Whole numbers have at most 128 bits. -/
def number? (cs : List Char) : Option (Token × List Char) :=
  match cs with
  | '0' :: 'x' :: rest | '0' :: 'X' :: rest => based? 16 rest
  | '0' :: 'o' :: rest | '0' :: 'O' :: rest => based? 8 rest
  | '0' :: 'b' :: rest | '0' :: 'B' :: rest => based? 2 rest
  | _ =>
    let (whole, rest) := cs.span isNumberChar
    let (point, fraction, rest) := match rest with
      | '.' :: rest => let (fraction, rest) := rest.span isNumberChar; (true, fraction, rest)
      | _ => (false, [], rest)
    match exponent? rest with
    | some (e, rest) => some (.float
      (Decimal.Written.mk (digitsOf whole) (digitsOf fraction) e).value, rest)
    | none =>
      if point then
        some (.float (Decimal.Written.mk (digitsOf whole) (digitsOf fraction) 0).value, rest)
      else if natOf 10 whole < Nat.pow 2 128 then some (.int (natOf 10 whole), rest) else none

def next? (cs : List Char) : Option (Token × List Char) :=
  match cs with
  | [] => none
  | c :: rest =>
    if isNameStart c then
      let (word, rest) := cs.span isNameChar
      some (.name (String.ofList word), rest)
    else if c.isDigit then number? cs
    else if c = '"' || c = '\'' then
      (quoted c (rest.length + 1) [] rest).map fun (text, rest) => (.str text, rest)
    else (mark? cs).map fun (text, rest) => (.mark text, rest)

/-- Past the closing braces, and whether white space after them is removed. -/
def closing? (close : List Char) (cs : List Char) : Option (Bool × List Char) :=
  match cs with
  | '-' :: rest => (Text.dropPrefix? close rest).map fun rest => (true, rest)
  | '+' :: rest => (Text.dropPrefix? close rest).map fun rest => (false, rest)
  | _ => (Text.dropPrefix? close cs).map fun rest => (false, rest)

def depthChange : Token → Int
  | .mark t => if ["(", "[", "\x7b"].contains t then 1
    else if [")", "]", "\x7d"].contains t then -1 else 0
  | _ => 0

/-- The tokens up to the closing braces, which are looked for outside of brackets only. -/
def inside (close : List Char) :
    Nat → Int → List Token → List Char → Option (List Token × Bool × List Char)
  | 0, _, _, _ => none
  | fuel + 1, depth, read, cs =>
    let cs := cs.dropWhile isGap
    match if depth = 0 then closing? close cs else none with
    | some (trim, rest) => some (read.reverse, trim, rest)
    | none => do
      let (token, rest) ← next? cs
      inside close fuel (depth + token.depthChange) (token :: read) rest

inductive Opening where
  | expression | statement | comment

def opening? : List Char → Option (Opening × List Char)
  | '{' :: '{' :: rest => some (.expression, rest)
  | '{' :: '%' :: rest => some (.statement, rest)
  | '{' :: '#' :: rest => some (.comment, rest)
  | _ => none

def plain : List Char → List Char × Option (Opening × List Char)
  | [] => ([], none)
  | c :: cs =>
    match opening? (c :: cs) with
    | some o => ([], some o)
    | none => let (text, o) := plain cs; (c :: text, o)

/-- A statement that is one word; gives whether white space after it is removed. -/
def wordStatement? (word : String) (cs : List Char) : Option (Bool × List Char) := do
  let rest ← Text.dropPrefix? word.toList (cs.dropWhile isGap)
  closing? ['%', '}'] (rest.dropWhile isGap)

def dropSign : List Char → List Char
  | '-' :: rest | '+' :: rest => rest
  | cs => cs

/-- The contents of a raw block, whether white space at its end and after it is removed, and what
follows it. -/
def rawBlock : List Char → Option (List Char × Bool × Bool × List Char)
  | [] => none
  | c :: cs =>
    let here := do
      let rest ← Text.dropPrefix? ['{', '%'] (c :: cs)
      let (trim, after) ← wordStatement? "endraw" (dropSign rest)
      return (([] : List Char), decide (rest.head? = some '-'), trim, after)
    match here with
    | some found => some found
    | none => (rawBlock cs).map fun (text, found) => (c :: text, found)

def dataToken (text : List Char) : List Token :=
  if text.isEmpty then [] else [.data (String.ofList text)]

/-- The tokens of a text; `trim` says whether white space at its start is removed. -/
def cut : Nat → Bool → List Char → Option (List Token)
  | 0, _, _ => none
  | fuel + 1, trim, cs =>
    let cs := if trim then Text.trimStart cs else cs
    let (text, found) := plain cs
    match found with
    | none => some (dataToken text)
    | some (opening, rest) => do
      let text := if rest.head? = some '-' then Text.trimEnd text else text
      let rest := dropSign rest
      let lead := dataToken text
      match opening with
      | .comment =>
        let (comment, rest) ← Text.splitFirst? ['#', '}'] rest
        return lead ++ (← cut fuel (comment.getLast? = some '-') rest)
      | .expression =>
        let (tokens, trim, rest) ← inside ['}', '}'] (rest.length + 1) 0 [] rest
        return lead ++ [.expressionStart] ++ tokens ++ [.expressionEnd] ++ (← cut fuel trim rest)
      | .statement =>
        match wordStatement? "raw" rest with
        | some (trimStart, rest) =>
          let (raw, trimEnd, trim, rest) ← rawBlock rest
          let raw := if trimStart then Text.trimStart raw else raw
          let raw := if trimEnd then Text.trimEnd raw else raw
          return lead ++ dataToken raw ++ (← cut fuel trim rest)
        | none =>
          let (tokens, trim, rest) ← inside ['%', '}'] (rest.length + 1) 0 [] rest
          return lead ++ [.statementStart] ++ tokens ++ [.statementEnd] ++ (← cut fuel trim rest)

def dropLastBreak (cs : List Char) : List Char :=
  match cs.reverse with
  | '\n' :: '\r' :: rest => rest.reverse
  | '\n' :: rest => rest.reverse
  | _ => cs

def ofText? (text : String) : Option (List Token) :=
  let cs := dropLastBreak text.toList
  cut (cs.length + 1) false cs

end Token

end OrgStacks.Render
