import OrgStacks.Pattern.Classes
import OrgStacks.Pattern.Size
import OrgStacks.Text

/-!
# Reading a pattern

`Pattern.read?` reads the text of a pattern into an expression. Flags act from where they stand to
the end of their group; classes may be nested and combined. There is no look-around and no reference
to a group. A pattern is refused when it is not well formed, nests deeper than `nestLimit`, may
match part of a character, or needs too large a machine.
-/

set_option autoImplicit false

namespace OrgStacks.Pattern

def nestLimit : Nat := 250

/-- The flags in force; preference between matches does not matter here and has no field. -/
structure Flags where
  ignoreCase : Bool := false
  multiLine : Bool := false
  dotAll : Bool := false
  unicode : Bool := true
  anyLine : Bool := false
  spaced : Bool := false
deriving DecidableEq, Inhabited

namespace Flags

def set (f : Flags) (letter : Char) (on : Bool) : Option Flags :=
  match letter with
  | 'i' => some { f with ignoreCase := on }
  | 'm' => some { f with multiLine := on }
  | 's' => some { f with dotAll := on }
  | 'u' => some { f with unicode := on }
  | 'R' => some { f with anyLine := on }
  | 'x' => some { f with spaced := on }
  | 'U' => some f
  | _ => none

def fold (f : Flags) (s : CharSet) : CharSet :=
  if f.ignoreCase then
    if f.unicode then Unicode.CaseFold.close s else Unicode.CaseFold.closeAscii s
  else s

/-- The characters outside a set; bytes when the pattern is not about characters. -/
def compl (f : Flags) (s : CharSet) : CharSet :=
  if f.unicode then s.compl else s.compl.inter (.range 0 0xFF)

/-- A set of bytes may hold no byte that is only part of a character. -/
def whole? (f : Flags) (s : CharSet) : Option CharSet :=
  if f.unicode || s.isAscii then some s else none

def foldNegate (f : Flags) (negated : Bool) (s : CharSet) : Option CharSet :=
  let folded := f.fold s
  f.whole? (if negated then f.compl folded else folded)

end Flags

def skipBlanks : Bool → List Char → List Char
  | _, [] => []
  | true, c :: cs => skipBlanks (c ≠ '\n') cs
  | false, c :: cs =>
    if c = '#' then skipBlanks true cs
    else if Text.isSpace c then skipBlanks false cs
    else c :: cs

def Flags.skip (f : Flags) (cs : List Char) : List Char :=
  if f.spaced then skipBlanks false cs else cs

/-- Characters of a kind, and the rest. Blanks and comments between them are left out when the flag
for it is on; the Boolean says that a comment is open. -/
def Flags.takeSpaced (f : Flags) (p : Char → Bool) : Bool → List Char → List Char × List Char
  | _, [] => ([], [])
  | true, c :: cs => f.takeSpaced p (c ≠ '\n') cs
  | false, c :: cs =>
    if f.spaced && c = '#' then f.takeSpaced p true cs
    else if f.spaced && Text.isSpace c then f.takeSpaced p false cs
    else if p c then
      let (taken, rest) := f.takeSpaced p false cs
      (c :: taken, rest)
    else ([], c :: cs)

def isHexDigit (c : Char) : Bool :=
  c.isDigit || ('a' ≤ c && c ≤ 'f') || ('A' ≤ c && c ≤ 'F')

def charOf? (n : Nat) : Option Char := if n.isValidChar then some (Char.ofNat n) else none

def hexDigits (f : Flags) : Nat → List Char → Option (List Char × List Char)
  | 0, cs => some ([], cs)
  | n + 1, cs =>
    match cs with
    | c :: rest =>
      if isHexDigit c then
        (hexDigits f n (if n = 0 then rest else f.skip rest)).map fun (ds, rest) => (c :: ds, rest)
      else none
    | [] => none

def hexBraced (f : Flags) (cs : List Char) : Option (List Char × List Char) :=
  let (digits, rest) := f.takeSpaced (· ≠ '\x7d') false cs
  match rest with
  | '\x7d' :: rest =>
    if digits.all isHexDigit && !digits.isEmpty then some (digits, rest) else none
  | _ => none

/-- The character after `\x`, `\u` or `\U`; `count` digits unless in braces. The Boolean says that
it is written as one byte. -/
def readHex (f : Flags) (count : Nat) (cs : List Char) : Option (Char × Bool × List Char) :=
  match f.skip cs with
  | '\x7b' :: rest => do
    let (digits, rest) ← hexBraced f rest
    let c ← charOf? (CharSet.hexValue digits)
    return (c, false, f.skip rest)
  | rest => do
    let (digits, rest) ← hexDigits f count rest
    let c ← charOf? (CharSet.hexValue digits)
    return (c, count = 2, f.skip rest)

def propertySpelled? (name : List Char) : Option CharSet :=
  let split := (Text.splitFirst? ['!', '='] name).orElse fun _ =>
    (Text.splitFirst? [':'] name).orElse fun _ => Text.splitFirst? ['='] name
  match split with
  | some (property, value) => propertyValued? property value
  | none => propertyNamed? name

/-- The class after `\p` or `\P`, before negation. -/
def readProperty (f : Flags) (cs : List Char) : Option (CharSet × List Char) :=
  match f.skip cs with
  | [] => none
  | '\x7b' :: rest =>
    let (name, rest) := f.takeSpaced (· ≠ '\x7d') false rest
    match rest with
    | '\x7d' :: rest => (propertySpelled? name).map fun s => (s, rest)
    | _ => none
  | '\\' :: _ => none
  | c :: rest => (propertyNamed? [c]).map fun s => (s, f.skip rest)

inductive Escape where
  | char (c : Char) (asByte : Bool)
  | chars (set : CharSet)
  | assertion (a : Assertion)

def metaChars : List Char := "\\.+*?()|[]\x7b\x7d^$#&-~".toList

def isEscapable (c : Char) : Bool :=
  metaChars.contains c || (c.toNat < 0x80 && !c.isAlphanum && c != '<' && c != '>')

def Flags.wordAssertion (f : Flags) (edge : WordEdge) : Escape :=
  .assertion (.word (if f.unicode then wordChars else asciiWordChars) edge)

/-- The word assertion after `\b`, which may name a side in braces. -/
def readWordEdge (f : Flags) (cs : List Char) : Option (Escape × List Char) :=
  let plain := some (f.wordAssertion .boundary, cs)
  let isNameChar := fun c : Char => c.isAlpha || c == '-'
  match cs with
  | '\x7b' :: rest =>
    match f.skip rest with
    | [] => none
    | first :: more =>
      if isNameChar first then
        let (name, rest) := f.takeSpaced isNameChar false (first :: more)
        match rest with
        | '\x7d' :: rest =>
          match String.ofList name with
          | "start" => some (f.wordAssertion .start, rest)
          | "end" => some (f.wordAssertion .stop, rest)
          | "start-half" => some (f.wordAssertion .startHalf, rest)
          | "end-half" => some (f.wordAssertion .stopHalf, rest)
          | _ => none
        | _ => none
      else plain
  | _ => plain

def letterClass? (c : Char) : Option LetterClass :=
  match c.toLower with
  | 'd' => some .digit
  | 's' => some .space
  | 'w' => some .word
  | _ => none

def readEscape (f : Flags) : List Char → Option (Escape × List Char)
  | [] => none
  | 'x' :: rest => (readHex f 2 rest).map fun (c, asByte, rest) => (.char c asByte, rest)
  | 'u' :: rest => (readHex f 4 rest).map fun (c, _, rest) => (.char c false, rest)
  | 'U' :: rest => (readHex f 8 rest).map fun (c, _, rest) => (.char c false, rest)
  | 'p' :: rest => property false rest
  | 'P' :: rest => property true rest
  | 'a' :: rest => some (.char '\x07' false, rest)
  | 'f' :: rest => some (.char '\x0c' false, rest)
  | 't' :: rest => some (.char '\t' false, rest)
  | 'n' :: rest => some (.char '\n' false, rest)
  | 'r' :: rest => some (.char '\r' false, rest)
  | 'v' :: rest => some (.char '\x0b' false, rest)
  | 'A' :: rest => some (.assertion .textStart, rest)
  | 'z' :: rest => some (.assertion .textEnd, rest)
  | 'b' :: rest => readWordEdge f rest
  | 'B' :: rest => some (f.wordAssertion .inside, rest)
  | '<' :: rest => some (f.wordAssertion .start, rest)
  | '>' :: rest => some (f.wordAssertion .stop, rest)
  | c :: rest =>
    match letterClass? c with
    | some k =>
      let chars := k.chars f.unicode
      (f.whole? (if c.isUpper then f.compl chars else chars)).map fun s => (.chars s, rest)
    | none => if isEscapable c then some (.char c false, rest) else none
where
  property (negated : Bool) (rest : List Char) : Option (Escape × List Char) := do
    if !f.unicode then none
    let (chars, rest) ← readProperty f rest
    let set ← f.foldNegate negated chars
    return (.chars set, rest)

structure ClassPart where
  chars : CharSet := .empty
  depth : Nat := 0

structure ClassItems where
  chars : CharSet := .empty
  depth : Nat := 0
  count : Nat := 0

def ClassItems.add (items : ClassItems) (p : ClassPart) : ClassItems :=
  ⟨items.chars.union p.chars, max items.depth p.depth, items.count + 1⟩

/-- Two or more items make one more level. -/
def ClassItems.part (items : ClassItems) : ClassPart :=
  ⟨items.chars, if items.count ≤ 1 then items.depth else items.depth + 1⟩

inductive ClassOp where
  | inter | diff | symmDiff

/-- What waits for the end of the current items. -/
inductive ClassFrame where
  /-- An open bracket: the items before it, and whether it is negated. -/
  | opened (before : ClassItems) (negated : Bool)
  | operator (op : ClassOp) (left : ClassPart)

def Flags.combine (f : Flags) (op : ClassOp) (l r : ClassPart) : ClassPart :=
  let a := f.fold l.chars
  let b := f.fold r.chars
  let chars := match op with
    | .inter => a.inter b
    | .diff => a.diff b
    | .symmDiff => a.symmDiff b
  ⟨chars, max l.depth r.depth + 1⟩

def Flags.applyOperator (f : Flags) (part : ClassPart) :
    List ClassFrame → ClassPart × List ClassFrame
  | .operator op left :: stack => (f.combine op left part, stack)
  | stack => (part, stack)

/-- A character stands for itself, unless bytes are meant and it is more than one. -/
def Flags.classChar? (f : Flags) (c : Char) : Option CharSet :=
  if f.unicode || c.toNat < 0x80 then some (.singleton c) else none

/-- Reads past an opening bracket: the negation sign, hyphens, and a closing bracket that comes
first and so stands for itself. -/
def openBracket (f : Flags) (cs : List Char) : Option (Bool × ClassItems × List Char) := do
  let (negated, cs) ← match f.skip cs with
    | [] => none
    | '^' :: rest => some (true, f.skip rest)
    | rest => some (false, rest)
  let (items, cs) := hyphens cs.length {} cs
  match cs with
  | [] => none
  | ']' :: rest =>
    if items.count = 0 then some (negated, items.add { chars := .singleton ']' }, f.skip rest)
    else some (negated, items, cs)
  | _ => some (negated, items, cs)
where
  hyphens : Nat → ClassItems → List Char → ClassItems × List Char
    | n + 1, items, '-' :: rest => hyphens n (items.add { chars := .singleton '-' }) (f.skip rest)
    | _, items, cs => (items, cs)

def readPosix (f : Flags) : List Char → Option (Option CharSet × List Char)
  | ':' :: rest =>
    let (negated, rest) := match rest with
      | '^' :: more => (true, more)
      | _ => (false, rest)
    match rest.span (· ≠ ':') with
    | (name, ':' :: ']' :: rest) =>
      (posixClass? (String.ofList name)).map fun s => (f.foldNegate negated s, rest)
    | _ => none
  | _ => none

def readClassItem (f : Flags) : List Char → Option (Escape × List Char)
  | [] => none
  | '\\' :: rest => readEscape f rest
  | c :: rest => some (.char c false, rest)

def readClassRange (f : Flags) (cs : List Char) : Option (CharSet × List Char) := do
  let (first, rest) ← readClassItem f cs
  let rest := f.skip rest
  let isRange := match rest with
    | '-' :: more => match f.skip more with
      | ']' :: _ | '-' :: _ => false
      | _ => true
    | _ => false
  if isRange then
    let (last, rest) ← readClassItem f (f.skip (rest.drop 1))
    match first, last with
    | .char a _, .char b _ => do
      let _ ← f.classChar? a
      let _ ← f.classChar? b
      if a ≤ b then some (.range a.toNat b.toNat, rest) else none
    | _, _ => none
  else match first with
    | .char c _ => (f.classChar? c).map fun s => (s, rest)
    | .chars s => some (s, rest)
    | .assertion _ => none

/-- Reads items until the bracket that was opened first is closed. -/
def readClass (f : Flags) :
    Nat → List ClassFrame → ClassItems → List Char → Option (ClassPart × List Char)
  | 0, _, _, _ => none
  | fuel + 1, stack, items, cs =>
    let operator (op : ClassOp) (rest : List Char) :=
      let (left, stack) := f.applyOperator items.part stack
      readClass f fuel (.operator op left :: stack) {} rest
    match f.skip cs with
    | [] => none
    | '[' :: rest =>
      match readPosix f rest with
      | some (chars?, rest) => do
        let chars ← chars?
        readClass f fuel stack (items.add { chars }) rest
      | none => do
        let (negated, inner, rest) ← openBracket f rest
        readClass f fuel (.opened items negated :: stack) inner rest
    | ']' :: rest =>
      let (part, stack) := f.applyOperator items.part stack
      match stack with
      | .opened before negated :: stack => do
        let chars ← f.foldNegate negated part.chars
        let closed : ClassPart := ⟨chars, part.depth + 1⟩
        if stack.isEmpty then some (closed, rest)
        else readClass f fuel stack (before.add closed) rest
      | _ => none
    | '&' :: '&' :: rest => operator .inter rest
    | '-' :: '-' :: rest => operator .diff rest
    | '~' :: '~' :: rest => operator .symmDiff rest
    | c :: rest => do
      let (chars, rest) ← readClassRange f (c :: rest)
      readClass f fuel stack (items.add { chars }) rest

/-- An expression with its nesting; flags and the empty expression cannot be repeated. -/
structure Piece where
  regex : Regex := .empty
  depth : Nat := 0
  repeatable : Bool := true

def sequence : List Piece → Piece
  | [] => { repeatable := false }
  | [p] => p
  | p :: ps =>
    { regex := ps.foldl (fun r q => .seq q.regex r) p.regex
      depth := (p :: ps).foldl (fun d q => max d q.depth) 0 + 1 }

def alternatives : List Piece → Piece
  | [] => { repeatable := false }
  | [p] => p
  | p :: ps =>
    { regex := ps.foldl (fun r q => .alt q.regex r) p.regex
      depth := (p :: ps).foldl (fun d q => max d q.depth) 0 + 1 }

/-- An open group: what stands before it, and the flags to return to. -/
structure GroupFrame where
  pieces : List Piece
  branches : List Piece
  flags : Flags
  captures : Bool

/-- A decimal number below 2^32 between optional blanks. -/
def readDecimal (f : Flags) (cs : List Char) : Option (Nat × List Char) :=
  let (digits, rest) := f.takeSpaced Char.isDigit false (cs.dropWhile Text.isSpace)
  if digits.isEmpty then none
  else
    let n := digits.foldl (fun n c => n * 10 + (c.toNat - '0'.toNat)) 0
    if n < Nat.pow 2 32 then some (n, rest.dropWhile Text.isSpace) else none

def readCounts (f : Flags) (cs : List Char) : Option (Nat × Option Nat × List Char) := do
  let (least, rest) ← readDecimal f (f.skip cs)
  match rest with
  | '\x7d' :: rest => some (least, some least, rest)
  | ',' :: rest =>
    match f.skip rest with
    | '\x7d' :: rest => some (least, none, rest)
    | rest =>
      let (most, rest) ← readDecimal f rest
      match rest with
      | '\x7d' :: rest => if least ≤ most then some (least, some most, rest) else none
      | _ => none
  | _ => none

/-- Flag letters up to a colon or a closing parenthesis, which is returned. No letter and no sign
may stand twice, and the sign may not be last. -/
def readFlags : Flags → Bool → List Char → List Char → Option (Flags × List Char × Char × List Char)
  | _, _, _, [] => none
  | f, on, seen, c :: cs =>
    if c = ':' ∨ c = ')' then
      if seen.head? = some '-' then none else some (f, seen, c, cs)
    else if seen.contains c then none
    else if c = '-' then readFlags f false (c :: seen) cs
    else do
      let f ← f.set c on
      readFlags f on (c :: seen) cs

def readGroupName (cs : List Char) : Option (List Char × List Char) :=
  match cs.span (· ≠ '>') with
  | (name, _ :: rest) =>
    let alphabetic := fun c : Char => Unicode.Property.alphabetic.contains c.toNat
    let numeric := fun c : Char => ((Unicode.Category.find? "n").getD .empty).contains c.toNat
    match name with
    | [] => none
    | first :: more =>
      if (first = '_' || alphabetic first) && more.all fun c =>
          c = '_' || c = '.' || c = '[' || c = ']' || alphabetic c || numeric c then
        some (name, rest)
      else none
  | (_, []) => none

def Flags.charRegex (f : Flags) (c : Char) : Regex := .chars (f.fold (.singleton c))

/-- Any character but the end of a line; bytes would match part of a character. -/
def Flags.dot? (f : Flags) : Option Regex :=
  if !f.unicode then none
  else if f.dotAll then some (.chars .all)
  else if f.anyLine then some (.chars (CharSet.all.diff (.ofList ['\r', '\n'])))
  else some (.chars (CharSet.all.diff (.singleton '\n')))

def Flags.lineStart (f : Flags) : Assertion :=
  if f.multiLine then (if f.anyLine then .anyLineStart else .lineStart) else .textStart

def Flags.lineEnd (f : Flags) : Assertion :=
  if f.multiLine then (if f.anyLine then .anyLineEnd else .lineEnd) else .textEnd

def readPrimitive (f : Flags) : List Char → Option (Piece × List Char)
  | [] => none
  | '\\' :: rest => do
    let (escape, rest) ← readEscape f rest
    match escape with
    | .char c asByte =>
      if asByte && !f.unicode && 0x7F < c.toNat then none
      else some ({ regex := f.charRegex c }, rest)
    | .chars set => some ({ regex := .chars set }, rest)
    | .assertion a => some ({ regex := .assert a }, rest)
  | '[' :: rest => do
    let (negated, items, rest) ← openBracket f rest
    let (part, rest) ← readClass f (rest.length + 1) [.opened {} negated] items rest
    some ({ regex := .chars part.chars, depth := part.depth }, rest)
  | '.' :: rest => f.dot?.map fun r => ({ regex := r }, rest)
  | '^' :: rest => some ({ regex := .assert f.lineStart }, rest)
  | '$' :: rest => some ({ regex := .assert f.lineEnd }, rest)
  | c :: rest => some ({ regex := f.charRegex c }, rest)

/-- A question mark after a repetition only changes which match is preferred. -/
def dropLazy : List Char → List Char
  | '?' :: rest => rest
  | rest => rest

def repeatLast (least : Nat) (most : Option Nat) : List Piece → Option (List Piece)
  | p :: ps =>
    if p.repeatable then
      some ({ regex := .repeated p.regex least most, depth := p.depth + 1 } :: ps)
    else none
  | [] => none

/-- Reads pieces until the text ends; `names` are the group names in use. -/
def readPieces : Nat → List GroupFrame → List (List Char) → Flags → List Piece → List Piece →
    List Char → Option Piece
  | 0, _, _, _, _, _, _ => none
  | fuel + 1, stack, names, f, pieces, branches, cs =>
    match f.skip cs with
    | [] =>
      match stack with
      | [] => some (alternatives (sequence pieces :: branches))
      | _ :: _ => none
    | '(' :: rest =>
      let opened (inner : Flags) (captures : Bool) (names : List (List Char)) (rest : List Char) :=
        readPieces fuel (⟨pieces, branches, f, captures⟩ :: stack) names inner [] [] rest
      let named (rest : List Char) := do
        let (name, rest) ← readGroupName rest
        if names.contains name then none else opened f true (name :: names) rest
      match f.skip rest with
      | '?' :: '=' :: _ | '?' :: '!' :: _ | '?' :: '<' :: '=' :: _ | '?' :: '<' :: '!' :: _ => none
      | '?' :: 'P' :: '<' :: rest => named rest
      | '?' :: '<' :: rest => named rest
      | '?' :: rest => do
        let (inner, seen, closing, rest) ← readFlags f true [] rest
        if closing = ':' then opened inner false names rest
        else if seen.isEmpty then none
        else readPieces fuel stack names inner ({ repeatable := false } :: pieces) branches rest
      | rest => opened f true names rest
    | ')' :: rest =>
      match stack with
      | [] => none
      | frame :: stack =>
        let body := alternatives (sequence pieces :: branches)
        let regex := if frame.captures then .capture body.regex else body.regex
        let group : Piece := { regex, depth := body.depth + 1 }
        readPieces fuel stack names frame.flags (group :: frame.pieces) frame.branches rest
    | '|' :: rest => readPieces fuel stack names f [] (sequence pieces :: branches) rest
    | '?' :: rest => do
      readPieces fuel stack names f (← repeatLast 0 (some 1) pieces) branches (dropLazy rest)
    | '*' :: rest => do
      readPieces fuel stack names f (← repeatLast 0 none pieces) branches (dropLazy rest)
    | '+' :: rest => do
      readPieces fuel stack names f (← repeatLast 1 none pieces) branches (dropLazy rest)
    | '\x7b' :: rest => do
      let (least, most, rest) ← readCounts f rest
      let pieces ← repeatLast least most pieces
      readPieces fuel stack names f pieces branches (dropLazy (f.skip rest))
    | c :: rest => do
      let (piece, rest) ← readPrimitive f (c :: rest)
      readPieces fuel stack names f (piece :: pieces) branches rest

/-- The expression of a well-formed pattern of acceptable nesting and size. -/
def read? (pattern : String) : Option Regex := do
  let cs := pattern.toList
  let piece ← readPieces (cs.length + 1) [] [] {} [] [] cs
  if piece.depth ≤ nestLimit ∧ piece.regex.programSize ≤ sizeLimit then some piece.regex else none

end OrgStacks.Pattern
