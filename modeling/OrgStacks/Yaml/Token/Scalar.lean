import OrgStacks.Yaml.Cursor

/-!
# Scalars of YAML

Plain, quoted and block scalars. Each reader starts at the first character of the scalar, takes the
indentation of the surrounding block where it matters, and gives the text and what follows.
-/

set_option autoImplicit false

namespace OrgStacks.Yaml.Scalar

def isFlowIndicator (c : Char) : Bool :=
  c = ',' || c = '[' || c = ']' || c = '{' || c = '}'

/-- The longest piece without blanks and breaks. A colon ends it before a gap, and in a flow
collection must not stand before an indicator. -/
def plainPiece (flow : Bool) : List Char → Option (List Char)
  | [] => some []
  | c :: cs =>
    if isBlank c || isBreak c then some []
    else if c = ':' then
      if flow && (cs.head?.any fun d => isFlowIndicator d || d = '?') then none
      else if atGap cs then some []
      else (plainPiece flow cs).map (c :: ·)
    else if flow && isFlowIndicator c then some []
    else (plainPiece flow cs).map (c :: ·)

/-- A plain scalar; the last part says whether a line break was read after it. In a block it ends
before a line that starts left of the column `margin`. -/
def plain (flow : Bool) (margin : Nat) :
    Nat → String → Gap → Cursor → Option (String × Bool × Cursor)
  | 0, _, _, _ => none
  | fuel + 1, text, gap, c =>
    if c.atDocumentMark || c.rest.head? = some '#' then some (text, gap.folded, c)
    else do
      let piece ← plainPiece flow c.rest
      let read := if piece.isEmpty then text else text ++ String.ofList (gap.text ++ piece)
      let gap := if piece.isEmpty then gap else {}
      let c := c.skip piece.length
      if c.rest.isEmpty || !atGap c.rest then return (read, gap.folded, c)
      let (gap, c) ← Gap.read margin (c.rest.length + 1) gap c
      if !flow && c.column < margin then return (read, gap.folded, c)
      plain flow margin fuel read gap c

def escape? : Char → Option Char
  | '0' => some '\x00' | 'a' => some '\x07' | 'b' => some '\x08' | 't' => some '\t'
  | '\t' => some '\t' | 'n' => some '\n' | 'v' => some '\x0b' | 'f' => some '\x0c'
  | 'r' => some '\r' | 'e' => some '\x1b' | ' ' => some ' ' | '"' => some '"' | '/' => some '/'
  | '\\' => some '\\' | 'N' => some '\u0085' | '_' => some '\u00a0' | 'L' => some '\u2028'
  | 'P' => some '\u2029' | _ => none

def escapeDigits? : Char → Option Nat
  | 'x' => some 2 | 'u' => some 4 | 'U' => some 8 | _ => none

def hexValue? (c : Char) : Option Nat :=
  if c.isDigit then some (c.toNat - '0'.toNat)
  else if 'a' ≤ c && c ≤ 'f' then some (c.toNat - 'a'.toNat + 10)
  else if 'A' ≤ c && c ≤ 'F' then some (c.toNat - 'A'.toNat + 10)
  else none

def hexNumber? (cs : List Char) : Option Nat :=
  cs.foldlM (fun n c => (hexValue? c).map (n * 16 + ·)) 0

/-- The character of an escape, after the backslash, and how many characters it takes. -/
def escaped? : List Char → Option (Char × Nat)
  | [] => none
  | c :: cs =>
    match escapeDigits? c with
    | none => (escape? c).map (·, 1)
    | some n => do
      let digits := cs.take n
      if digits.length < n then none
      let code ← hexNumber? digits
      if h : code.isValidChar then some (Char.ofNatAux code h, n + 1) else none

/-- The longest piece without blanks and breaks, with its escapes replaced. The last part says
whether an escaped line break ends it. -/
def quotedPiece (single : Bool) : Nat → List Char → Cursor → Option (List Char × Bool × Cursor)
  | 0, _, _ => none
  | fuel + 1, read, c =>
    let stop := some (read.reverse, false, c)
    if atGap c.rest then stop
    else match c.rest with
      | '\'' :: more =>
        if !single then quotedPiece single fuel ('\'' :: read) (c.skip 1)
        else if more.head? = some '\'' then quotedPiece single fuel ('\'' :: read) (c.skip 2)
        else stop
      | '"' :: _ => if single then quotedPiece single fuel ('"' :: read) (c.skip 1) else stop
      | '\\' :: more =>
        if single then quotedPiece single fuel ('\\' :: read) (c.skip 1)
        else if (c.skip 1).lineBreak?.isSome then
          (c.skip 1).lineBreak?.map fun (_, c) => (read.reverse, true, c)
        else match escaped? more with
          | none => none
          | some (ch, n) => quotedPiece single fuel (ch :: read) (c.skip (n + 1))
      | ch :: _ => quotedPiece single fuel (ch :: read) (c.skip 1)
      | [] => stop

def quotedRest (single : Bool) : Nat → String → Cursor → Option (String × Cursor)
  | 0, _, _ => none
  | fuel + 1, text, c => do
    if c.atDocumentMark || c.rest.isEmpty then none
    let (piece, broken, c) ← quotedPiece single (c.rest.length + 1) [] c
    let text := text ++ String.ofList piece
    if !broken && c.rest.head? = some (if single then '\'' else '"') then return (text, c.skip 1)
    let (gap, c) ← Gap.read 0 (c.rest.length + 1) { folded := broken } c
    quotedRest single fuel (text ++ String.ofList gap.text) c

def quoted (single : Bool) (c : Cursor) : Option (String × Cursor) :=
  quotedRest single (c.rest.length + 1) "" (c.skip 1)

inductive Chomping where
  | strip | clip | keep
deriving DecidableEq

def chomping? : Char → Option Chomping
  | '+' => some .keep
  | '-' => some .strip
  | _ => none

/-- Blanks up to the column `indent`, or as many as there are when it is not known yet, and the
line breaks between them. Gives the breaks and the widest indentation that was seen. -/
def blockBreaks (indent : Option Nat) :
    Nat → Nat → List Char → Cursor → Option (List Char × Nat × Cursor)
  | 0, _, _, _ => none
  | fuel + 1, widest, breaks, c =>
    let inside (c : Cursor) : Bool := match indent with
      | none => true
      | some n => c.column < n
    let spaces := (c.rest.takeWhile (· = ' ')).length
    let c := c.skip (match indent with
      | none => spaces
      | some n => min spaces (n - c.column))
    let widest := max widest c.column
    if inside c && c.rest.head? = some '\t' then none
    else match c.lineBreak? with
      | none => some (breaks, widest, c)
      | some (brk, c) => blockBreaks indent fuel widest (breaks ++ brk) c

structure Lines where
  text : String := ""
  /-- The break that ended the last line. -/
  last : List Char := []
  empty : List Char := []
  blank : Bool := false

/-- The text with the breaks before a next line. In a folded scalar a line feed between two lines
that do not begin with a blank is read as a blank, or as nothing before empty lines. -/
def Lines.joined (l : Lines) (literal nextBlank : Bool) : String :=
  if !literal && l.last = ['\n'] && !l.blank && !nextBlank then
    l.text ++ (if l.empty.isEmpty then " " else "") ++ String.ofList l.empty
  else l.text ++ String.ofList l.last ++ String.ofList l.empty

def blockLines (literal : Bool) (indent : Nat) : Nat → Lines → Cursor → Option (Lines × Cursor)
  | 0, _, _ => none
  | fuel + 1, l, c =>
    if c.column ≠ indent || c.rest.isEmpty then some (l, c)
    else do
      let blank := c.rest.head?.any isBlank
      let (line, c) := c.span (! isBreak ·)
      let text := l.joined literal blank ++ String.ofList line
      let (brk, c) := (c.lineBreak?).getD ([], c)
      let (empty, _, c) ← blockBreaks (some indent) (c.rest.length + 1) 0 [] c
      blockLines literal indent fuel ⟨text, brk, empty, blank⟩ c

/-- The indicators after the first one: chomping and the depth of the indentation, in any order. -/
def blockHeader (c : Cursor) : Option (Chomping × Option Nat × Cursor) :=
  let depth? (c : Cursor) : Option (Option Nat × Cursor) :=
    match c.rest with
    | '0' :: _ => none
    | ch :: _ => if ch.isDigit then some (some (ch.toNat - '0'.toNat), c.skip 1) else some (none, c)
    | [] => some (none, c)
  match c.rest.head? >>= chomping? with
  | some chomping => (depth? (c.skip 1)).map fun (depth, c) => (chomping, depth, c)
  | none => (depth? c).map fun (depth, c) =>
    match depth, c.rest.head? >>= chomping? with
    | some _, some chomping => (chomping, depth, c.skip 1)
    | _, _ => (.clip, depth, c)

/-- A block scalar in a block at the column `parent`, if in any. Without a given depth the first
line sets the indentation. -/
def block (literal : Bool) (parent : Option Nat) (c : Cursor) : Option (String × Cursor) := do
  let (chomping, depth, c) ← blockHeader (c.skip 1)
  let c := c.skipWhile isBlank
  let c := if c.rest.head? = some '#' then c.skipLine else c
  if !atLineEnd c.rest then none
  let (_, c) := (c.lineBreak?).getD ([], c)
  let given := depth.map (· + parent.getD 0)
  let (empty, widest, c) ← blockBreaks given (c.rest.length + 1) 0 [] c
  let indent := given.getD (max widest (max 1 (parent.elim 0 (· + 1))))
  let (l, c) ← blockLines literal indent (c.rest.length + 1) { empty } c
  let text := match chomping with
    | .strip => l.text
    | .clip => l.text ++ String.ofList l.last
    | .keep => l.text ++ String.ofList l.last ++ String.ofList l.empty
  return (text, c)

end OrgStacks.Yaml.Scalar
