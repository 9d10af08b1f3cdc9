import OrgStacks.Yaml.Token.Property

/-!
# The tokens of a text

Blocks are kept as a stack of columns: a token further right opens a block and a token further left
closes blocks. A scalar may turn out to be a key when a colon follows it on the same line, so the
place of the last one is remembered for every level of brackets.
-/

set_option autoImplicit false

namespace OrgStacks.Yaml

/-- The place of a token that a colon would turn into a key. -/
structure KeyPlace where
  position : Nat
  mark : Mark
  index : Nat
  /-- In a block, a token at the column of the block has to be a key. -/
  required : Bool

structure Scanner where
  cursor : Cursor
  tokens : Array Placed := #[]
  /-- The columns of the open blocks, innermost first. -/
  blocks : List Nat := []
  /-- The key place of every level of brackets, innermost first; never empty. -/
  keys : List (Option KeyPlace) := [none]
  keyAllowed : Bool := true

namespace Scanner

def inFlow (s : Scanner) : Bool := s.keys.length > 1

def push (s : Scanner) (mark : Mark) (token : Token) : Scanner :=
  { s with tokens := s.tokens.push ⟨mark, token⟩ }

def take (s : Scanner) (token : Token) (n : Nat) : Scanner :=
  { s.push s.cursor.mark token with cursor := s.cursor.skip n }

def allowKey (s : Scanner) (allowed : Bool) : Scanner := { s with keyAllowed := allowed }

def setKey (s : Scanner) (place : Option KeyPlace) : Scanner :=
  { s with keys := place :: s.keys.tail }

def key? (s : Scanner) : Option KeyPlace := s.keys.head?.join

/-- Forgets the key place of this level, which fails when a key is required there. -/
def dropKey (s : Scanner) : Option Scanner :=
  if s.key?.any KeyPlace.required then none else some (s.setKey none)

def saveKey (s : Scanner) : Option Scanner :=
  if !s.keyAllowed then some s
  else s.dropKey.map fun s => s.setKey <| some
    { position := s.tokens.size, mark := s.cursor.mark, index := s.cursor.index
      required := !s.inFlow && s.blocks.head? = some s.cursor.column }

/-- Forgets the key places on other lines or more than 1024 characters back. -/
def dropStaleKeys (s : Scanner) : Option Scanner := do
  let keys ← s.keys.mapM fun place => match place with
    | none => some none
    | some k =>
      if k.mark.line < s.cursor.line || k.index + 1024 < s.cursor.index then
        if k.required then none else some none
      else some (some k)
  return { s with keys }

/-- Opens a block at a column right of the open ones; its start goes to `position`. -/
def openBlock (s : Scanner) (mark : Mark) (token : Token) (position : Nat) : Scanner :=
  if s.inFlow || s.blocks.head?.any (mark.column ≤ ·) then s
  else { s with
    blocks := mark.column :: s.blocks
    tokens := s.tokens.insertIdxIfInBounds position ⟨mark, token⟩ }

def closeBlocks (s : Scanner) (mark : Mark) : Nat → Scanner
  | 0 => s
  | n + 1 => { s.push mark .blockEnd with blocks := s.blocks.drop 1 }.closeBlocks mark n

def closeDeeper (s : Scanner) : Scanner :=
  if s.inFlow then s
  else s.closeBlocks s.cursor.mark (s.blocks.takeWhile (s.cursor.column < ·)).length

def closeAll (s : Scanner) : Scanner :=
  if s.inFlow then s else s.closeBlocks s.cursor.mark s.blocks.length

/-- Past blanks, comments and line breaks. A tab does not count as a blank where a block key could
start. A byte order mark may start a line. -/
def skipGaps : Nat → Scanner → Scanner
  | 0, s => s
  | fuel + 1, s =>
    let c := s.cursor
    let c := if c.column = 0 && c.rest.head? = some '\ufeff' then c.skip 1 else c
    let c := c.skipWhile fun ch => ch = ' ' || ((s.inFlow || !s.keyAllowed) && ch = '\t')
    let c := if c.rest.head? = some '#' then c.skipLine else c
    match c.lineBreak? with
    | none => { s with cursor := c }
    | some (_, c) => skipGaps fuel { s with cursor := c, keyAllowed := s.keyAllowed || !s.inFlow }

/-- The start or end of a document, or a directive: no block and no key stays open. -/
def documentToken (s : Scanner) (read : Cursor → Option (Token × Cursor)) : Option Scanner := do
  let s ← s.closeAll.dropKey
  let (token, c) ← read s.cursor
  return { (s.push s.cursor.mark token).allowKey false with cursor := c }

def openFlow (s : Scanner) (token : Token) : Option Scanner :=
  s.saveKey.map fun s =>
    { (s.take token 1).allowKey true with keys := none :: s.keys }

def closeFlow (s : Scanner) (token : Token) : Option Scanner :=
  s.dropKey.map fun s =>
    { (s.take token 1).allowKey false with keys := if s.inFlow then s.keys.tail else s.keys }

def flowEntry (s : Scanner) : Option Scanner :=
  s.dropKey.map fun s => (s.take .flowEntry 1).allowKey true

def opener (s : Scanner) (start : Token) : Option Scanner :=
  if s.inFlow then some s
  else if s.keyAllowed then some (s.openBlock s.cursor.mark start s.tokens.size)
  else none

def blockEntry (s : Scanner) : Option Scanner := do
  let s ← (← s.opener .blockSeqStart).dropKey
  return (s.take .blockEntry 1).allowKey true

def explicitKey (s : Scanner) : Option Scanner := do
  let s ← (← s.opener .blockMapStart).dropKey
  return (s.take .key 1).allowKey !s.inFlow

/-- A colon: a key goes before the remembered place. -/
def value (s : Scanner) : Option Scanner :=
  match s.key? with
  | some k =>
    let s := { s with tokens := s.tokens.insertIdxIfInBounds k.position ⟨k.mark, .key⟩ }
    let s := (s.openBlock k.mark .blockMapStart k.position).setKey none
    some ((s.take .value 1).allowKey false)
  | none => (s.opener .blockMapStart).map fun s => (s.take .value 1).allowKey !s.inFlow

def keyToken (s : Scanner) (read : Cursor → Option (Token × Cursor)) : Option Scanner := do
  let s ← s.saveKey
  let (token, c) ← read s.cursor
  return { (s.push s.cursor.mark token).allowKey false with cursor := c }

def blockScalar (s : Scanner) (literal : Bool) : Option Scanner := do
  let s ← s.dropKey
  let (text, c) ← Scalar.block literal s.blocks.head? s.cursor
  return { (s.push s.cursor.mark (.scalar text false)).allowKey true with cursor := c }

/-- A plain scalar that ends with a line break may be followed by a key. -/
def plainScalar (s : Scanner) : Option Scanner := do
  let s ← s.saveKey
  let (text, folded, c) ← Scalar.plain s.inFlow (s.blocks.head?.elim 0 (· + 1))
    (s.cursor.rest.length + 1) "" {} s.cursor
  return { (s.push s.cursor.mark (.scalar text true)).allowKey folded with cursor := c }

def quotedScalar (single : Bool) (c : Cursor) : Option (Token × Cursor) :=
  (Scalar.quoted single c).map fun (text, c) => (.scalar text false, c)

def isIndicator (c : Char) : Bool :=
  ['-', '?', ':', ',', '[', ']', '{', '}', '#', '&', '*', '!', '|', '>', '\'', '"', '%', '@',
    '`'].contains c

def tokenAt (s : Scanner) (ch : Char) (next : List Char) : Option Scanner :=
  let gap := atGap next
  if s.cursor.column = 0 && ch = '%' then s.documentToken Property.directive
  else if s.cursor.atDocumentMark then
    s.documentToken fun c => some (if ch = '-' then .documentStart else .documentEnd, c.skip 3)
  else if ch = '[' then s.openFlow .flowSeqStart
  else if ch = '{' then s.openFlow .flowMapStart
  else if ch = ']' then s.closeFlow .flowSeqEnd
  else if ch = '}' then s.closeFlow .flowMapEnd
  else if ch = ',' then s.flowEntry
  else if ch = '-' && gap then s.blockEntry
  else if ch = '?' && (s.inFlow || gap) then s.explicitKey
  else if ch = ':' && (s.inFlow || gap) then s.value
  else if ch = '*' then s.keyToken fun c => (Property.name c).map fun (n, c) => (.aliasOf n, c)
  else if ch = '&' then s.keyToken fun c => (Property.name c).map fun (n, c) => (.anchor n, c)
  else if ch = '!' then s.keyToken (Property.tag s.inFlow)
  else if (ch = '|' || ch = '>') && !s.inFlow then s.blockScalar (ch = '|')
  else if ch = '\'' || ch = '"' then s.keyToken (quotedScalar (ch = '\''))
  else if !(isBlank ch || isBreak ch || isIndicator ch) || (ch = '-' && !next.head?.any isBlank) ||
      (!s.inFlow && (ch = '?' || ch = ':') && !gap) then s.plainScalar
  else none

def finish (s : Scanner) : Option (Array Placed) :=
  let c := s.cursor
  let c := if c.column = 0 then c else { c with line := c.line + 1, column := 0 }
  ({ s with cursor := c }.closeAll.dropKey).map Scanner.tokens

def run : Nat → Scanner → Option (Array Placed)
  | 0, _ => none
  | fuel + 1, s => do
    let s ← (skipGaps (s.cursor.rest.length + 1) s).dropStaleKeys
    let s := s.closeDeeper
    match s.cursor.rest with
    | [] => s.finish
    | ch :: next => run fuel (← s.tokenAt ch next)

end Scanner

def tokens? (text : String) : Option (List Placed) :=
  let cs := text.toList
  if cs.all isAllowed then
    (Scanner.run (cs.length + 1) { cursor := { rest := cs } }).map Array.toList
  else none

end OrgStacks.Yaml
