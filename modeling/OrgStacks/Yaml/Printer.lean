import OrgStacks.Json.Value
import OrgStacks.Yaml.Scalar
import OrgStacks.Yaml.Token.Scalar

/-!
# Writing YAML

Blocks with two blanks a level; a sequence stands at the column of the key it belongs to. Lines are
not folded. A text is written plain where it would be read as the same text, with single quotes
where it would be read as something else, with double quotes where it needs escapes, and as a block
of lines where it holds a line feed. A key that is long or has several lines stands after a question
mark.
-/

set_option autoImplicit false

namespace OrgStacks.Yaml.Printer

def isPrintable (c : Char) : Bool :=
  let n := c.toNat
  n = 0x0A || (0x20 ≤ n && n ≤ 0x7E) || (0xA0 ≤ n && n ≤ 0xD7FF) ||
    (0xE000 ≤ n && n ≤ 0xFFFD && n ≠ 0xFEFF) || 0x10000 ≤ n

structure Traits where
  /-- A character or a sequence that means something else in a block. -/
  indicator : Bool := false
  special : Bool := false
  multiline : Bool := false
  edgeGap : Bool := false
  trailingSpace : Bool := false
  breakSpace : Bool := false
  spaceBreak : Bool := false

def isLeadIndicator (c : Char) : Bool :=
  ['#', ',', '[', ']', '{', '}', '&', '*', '!', '|', '>', '\'', '"', '%', '@', '`'].contains c

def isIndicator (before : Option Char) (c : Char) (after : List Char) : Bool :=
  match before with
  | none => isLeadIndicator c || ((c = '?' || c = ':' || c = '-') && atGap after)
  | some b => (c = ':' && atGap after) || (c = '#' && atGap [b])

def scan (t : Traits) (before : Option Char) : List Char → Traits
  | [] => t
  | c :: cs =>
    scan { t with
      indicator := t.indicator || isIndicator before c cs
      special := t.special || !isPrintable c
      multiline := t.multiline || isBreak c
      edgeGap := t.edgeGap || ((c = ' ' || isBreak c) && (before.isNone || cs.isEmpty))
      trailingSpace := t.trailingSpace || (c = ' ' && cs.isEmpty)
      breakSpace := t.breakSpace || (c = ' ' && before.any isBreak)
      spaceBreak := t.spaceBreak || (isBreak c && before = some ' ') } (some c) cs

def startsDocument (cs : List Char) : Bool :=
  (Text.dropPrefix? ['-', '-', '-'] cs).isSome || (Text.dropPrefix? ['.', '.', '.'] cs).isSome

def traits (text : String) : Traits :=
  let cs := text.toList
  { scan {} none cs with
    indicator := startsDocument cs || (scan {} none cs).indicator }

namespace Traits

def plainAllowed (t : Traits) : Bool :=
  !(t.edgeGap || t.breakSpace || t.spaceBreak || t.special || t.multiline || t.indicator)

def singleAllowed (t : Traits) : Bool := !(t.breakSpace || t.spaceBreak || t.special)

def blockAllowed (t : Traits) : Bool := !(t.trailingSpace || t.spaceBreak || t.special)

end Traits

inductive Style where
  | plain | single | double | literal
deriving DecidableEq

/-- Whether a plain text would be read as something else, or could be taken for a number. -/
def isAmbiguous (text : String) : Bool :=
  match Scalar.read text with
  | .value (.str s) => Scalar.hasLeadingZero s.toList
  | _ => true

/-- The style of a text; a key on a line of its own has no block style. -/
def styleOf (text : String) (simpleKey : Bool) : Style :=
  let t := traits text
  let wish : Style :=
    if text.toList.contains '\n' then .literal
    else if isAmbiguous text then .single else .plain
  let wish := if simpleKey && t.multiline then .double else wish
  let wish := if wish = .plain && !t.plainAllowed && !text.isEmpty then .single else wish
  match wish with
  | .single => if t.singleAllowed then .single else .double
  | .literal => if t.blockAllowed && !simpleKey then .literal else .double
  | style => style

structure Pen where
  text : String := ""
  column : Nat := 0
  /-- Whether a blank or a line break was written last. -/
  afterGap : Bool := true
  /-- Whether only blanks and indicators are on the line. -/
  inMargin : Bool := true

namespace Pen

def put (p : Pen) (s : String) : Pen :=
  { p with text := p.text ++ s, column := p.column + s.length }

def putChar (p : Pen) (c : Char) : Pen := { p with text := p.text.push c, column := p.column + 1 }

def newLine (p : Pen) : Pen := { p with text := p.text.push '\n', column := 0 }

def putBreak (p : Pen) (c : Char) : Pen := { p with text := p.text.push c, column := 0 }

/-- To a column, on a new line unless the pen still stands in the margin before it. -/
def goTo (p : Pen) (column : Nat) : Pen :=
  let p := if !p.inMargin || p.column > column || (p.column = column && !p.afterGap) then p.newLine
    else p
  let p := p.put (String.ofList (List.replicate (column - p.column) ' '))
  { p with afterGap := true, inMargin := true }

/-- A mark, with a blank before it where one is needed. -/
def mark (p : Pen) (s : String) (needsGap isMargin : Bool) : Pen :=
  let p := if needsGap && !p.afterGap then p.put " " else p
  { p.put s with afterGap := false, inMargin := p.inMargin && isMargin }

def finishScalar (p : Pen) : Pen := { p with afterGap := false, inMargin := false }

def plain (p : Pen) (text : String) : Pen :=
  let p := if p.afterGap || text.isEmpty then p else p.put " "
  (p.put text).finishScalar

/-- The inside of single quotes; `broken` says whether a line break came before. -/
def singleInside (indent : Nat) : List Char → Bool → Pen → Pen
  | [], broken, p => if broken then p.goTo indent else p
  | c :: cs, broken, p =>
    if c = ' ' then singleInside indent cs broken (p.putChar c)
    else if isBreak c then
      let p := if !broken && c = '\n' then p.newLine else p
      singleInside indent cs true { p.putBreak c with inMargin := true }
    else
      let p := if broken then p.goTo indent else p
      let p := if c = '\'' then p.put "''" else p.putChar c
      singleInside indent cs false { p with inMargin := false }

def single (p : Pen) (text : String) (indent : Nat) : Pen :=
  let inside := singleInside indent text.toList false (p.mark "'" true false)
  (inside.mark "'" false false).finishScalar

def hexDigits (n width : Nat) : String :=
  let digits := (Nat.toDigits 16 n).map Char.toUpper
  String.ofList (List.replicate (width - digits.length) '0' ++ digits)

def escaped (c : Char) : String :=
  if isPrintable c && !isBreak c && c ≠ '"' && c ≠ '\\' then String.singleton c
  else match c with
    | '\x00' => "\\0" | '\x07' => "\\a" | '\x08' => "\\b" | '\t' => "\\t" | '\n' => "\\n"
    | '\x0b' => "\\v" | '\x0c' => "\\f" | '\r' => "\\r" | '\x1b' => "\\e" | '"' => "\\\""
    | '\\' => "\\\\" | '\u0085' => "\\N" | '\u2028' => "\\L" | '\u2029' => "\\P"
    | c =>
      if c.toNat ≤ 0xFF then "\\x" ++ hexDigits c.toNat 2
      else if c.toNat ≤ 0xFFFF then "\\u" ++ hexDigits c.toNat 4
      else "\\U" ++ hexDigits c.toNat 8

def double (p : Pen) (text : String) : Pen :=
  let p := p.mark "\"" true false
  let p := p.put (String.join (text.toList.map escaped))
  (p.mark "\"" false false).finishScalar

/-- How the lines at the end of a block count: none, one line break, or all. -/
def chomping (reversed : List Char) : String :=
  match reversed with
  | c :: cs =>
    if !isBreak c then "-" else if cs.head?.all isBreak then "+" else ""
  | [] => "-"

def literalLines (indent : Nat) : List Char → Bool → Pen → Pen
  | [], _, p => p
  | c :: cs, broken, p =>
    if isBreak c then literalLines indent cs true { p.putBreak c with inMargin := true }
    else
      let p := if broken then p.goTo indent else p
      literalLines indent cs false { p.putChar c with inMargin := false }

/-- A block of lines. The depth is given when the text starts with a blank or a line break. -/
def literal (p : Pen) (text : String) (indent : Nat) : Pen :=
  let cs := text.toList
  let p := p.mark "|" true false
  let p := if cs.head?.any (fun c => c = ' ' || isBreak c) then p.mark "2" false false else p
  let hint := chomping cs.reverse
  let p := if hint.isEmpty then p else p.mark hint false false
  let p := { p.newLine with afterGap := true, inMargin := true }
  literalLines indent cs true p

def string (p : Pen) (text : String) (indent : Nat) (simpleKey : Bool) : Pen :=
  match styleOf text simpleKey with
  | .plain => p.plain text
  | .single => p.single text indent
  | .double => p.double text
  | .literal => p.literal text indent

end Pen

def isSimpleKey (key : String) : Bool := !(traits key).multiline && key.utf8ByteSize ≤ 128

def floatText (x : Float) : String :=
  if Decimal.isNaN x then ".nan"
  else if Decimal.isFinite x then Decimal.Style.yaml.writeFloat x
  else if x < 0.0 then "-.inf" else ".inf"

/-- Where a node stands: `indent` is the column of the block around it, if any. -/
structure Place where
  indent : Option Nat
  inMapping : Bool := false

namespace Place

def deeper (p : Place) : Nat := p.indent.elim 0 (· + 2)

def scalarColumn (p : Place) : Nat := p.indent.elim 2 (· + 2)

end Place

mutual

def value (place : Place) (v : Json) (p : Pen) : Pen :=
  match v with
  | .null => p.plain "null"
  | .bool b => p.plain (if b then "true" else "false")
  | .int n => p.plain (toString n)
  | .float x => p.plain (floatText x)
  | .str s => p.string s place.scalarColumn false
  | .arr [] => p.mark "[]" true false
  | .obj [] => p.mark "\x7b\x7d" true false
  | .arr items =>
    let column := if place.inMapping && !p.inMargin then place.indent.getD 0 else place.deeper
    sequence column items p
  | .obj members => mapping place.deeper members p

def sequence (column : Nat) (items : List Json) (p : Pen) : Pen :=
  match items with
  | [] => p
  | item :: items =>
    sequence column items (value ⟨some column, false⟩ item ((p.goTo column).mark "-" true true))

def mapping (column : Nat) (members : List (String × Json)) (p : Pen) : Pen :=
  match members with
  | [] => p
  | (key, v) :: members =>
    let p := p.goTo column
    let p :=
      if isSimpleKey key then (p.string key (column + 2) true).mark ":" false false
      else
        let p := (p.mark "?" true true).string key (column + 2) false
        (p.goTo column).mark ":" true true
    mapping column members (value ⟨some column, true⟩ v p)

end

def document (v : Json) : String := ((value ⟨none, false⟩ v {}).goTo 0).text

end OrgStacks.Yaml.Printer
