/-!
# A place in a YAML text

A cursor holds the characters that are left and counts lines and columns. A line ends with a line
feed, a carriage return, both, or one of the Unicode line breaks; the first four are read as a line
feed and the separators U+2028 and U+2029 as themselves.
-/

set_option autoImplicit false

namespace OrgStacks.Yaml

def isBreak (c : Char) : Bool :=
  c = '\n' || c = '\r' || c = '\u0085' || c = '\u2028' || c = '\u2029'

def isBlank (c : Char) : Bool := c = ' ' || c = '\t'

/-- A word character of anchors, tag handles and directive names. -/
def isWord (c : Char) : Bool := c.isAlphanum || c = '_' || c = '-'

def isAllowed (c : Char) : Bool :=
  let n := c.toNat
  n = 0x09 || n = 0x0A || n = 0x0D || (0x20 ≤ n && n ≤ 0x7E) || n = 0x85 ||
    (0xA0 ≤ n && n ≤ 0xD7FF) || (0xE000 ≤ n && n ≤ 0xFFFD) || 0x10000 ≤ n

/-- A line and a column, both counted from zero. -/
structure Mark where
  line : Nat
  column : Nat
deriving DecidableEq, Inhabited

structure Cursor where
  rest : List Char
  /-- The number of characters before the cursor. -/
  index : Nat := 0
  line : Nat := 0
  column : Nat := 0
deriving Inhabited

/-- Whether nothing, a blank or a line break comes next. -/
def atGap : List Char → Bool
  | [] => true
  | c :: _ => isBlank c || isBreak c

def atLineEnd : List Char → Bool
  | [] => true
  | c :: _ => isBreak c

namespace Cursor

def mark (c : Cursor) : Mark := ⟨c.line, c.column⟩

def skip (c : Cursor) (n : Nat) : Cursor :=
  ⟨c.rest.drop n, c.index + n, c.line, c.column + n⟩

def span (c : Cursor) (p : Char → Bool) : List Char × Cursor :=
  let (run, _) := c.rest.span p
  (run, c.skip run.length)

def skipWhile (c : Cursor) (p : Char → Bool) : Cursor := (c.span p).2

def skipLine (c : Cursor) : Cursor := c.skipWhile (! isBreak ·)

/-- The line break at the cursor, as it is read, and the start of the next line. -/
def lineBreak? (c : Cursor) : Option (List Char × Cursor) :=
  let next (read : Char) (n : Nat) :=
    some ([read], { rest := c.rest.drop n, index := c.index + n, line := c.line + 1, column := 0 })
  match c.rest with
  | '\r' :: '\n' :: _ => next '\n' 2
  | '\u2028' :: _ => next '\u2028' 1
  | '\u2029' :: _ => next '\u2029' 1
  | ch :: _ => if isBreak ch then next '\n' 1 else none
  | [] => none

def atDocumentMark (c : Cursor) : Bool :=
  c.column = 0 && match c.rest with
    | '-' :: '-' :: '-' :: rest => atGap rest
    | '.' :: '.' :: '.' :: rest => atGap rest
    | _ => false

end Cursor

structure Gap where
  blanks : List Char := []
  folded : Bool := false
  first : List Char := []
  more : List Char := []
deriving Inhabited

namespace Gap

/-- A single line feed is read as a blank; of several the first is dropped. Blanks around a line
break do not count. -/
def text (g : Gap) : List Char :=
  if g.folded then
    if g.first = ['\n'] then (if g.more.isEmpty then [' '] else g.more) else g.first ++ g.more
  else g.blanks

/-- Reads blanks and line breaks. After a line break no tab may stand left of the column `tabs`. -/
def read (tabs : Nat) : Nat → Gap → Cursor → Option (Gap × Cursor)
  | 0, _, _ => none
  | fuel + 1, g, c =>
    match c.rest with
    | ch :: _ =>
      if isBlank ch then
        if g.folded then
          if ch = '\t' && c.column < tabs then none else read tabs fuel g (c.skip 1)
        else read tabs fuel { g with blanks := g.blanks ++ [ch] } (c.skip 1)
      else match c.lineBreak? with
        | none => some (g, c)
        | some (brk, c) =>
          if g.folded then read tabs fuel { g with more := g.more ++ brk } c
          else read tabs fuel { folded := true, first := brk } c
    | [] => some (g, c)

end Gap

end OrgStacks.Yaml
