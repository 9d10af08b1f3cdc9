import OrgStacks.Yaml.Token
import OrgStacks.Text
import OrgStacks.Yaml.Token.Scalar

/-!
# Anchors, tags and directives

What may stand before a node and before a document. A tag is a handle and a suffix; the characters
of a suffix may be given as the bytes of their UTF-8 form.
-/

set_option autoImplicit false

namespace OrgStacks.Yaml.Property

/-- The name after `&` or `*`, which a gap or an indicator has to follow. -/
def name (c : Cursor) : Option (String × Cursor) :=
  let (word, c) := (c.skip 1).span isWord
  let ended := atGap c.rest ||
    c.rest.head?.any fun d => ['?', ':', ',', ']', '}', '%', '@', '`'].contains d
  if word.isEmpty || !ended then none else some (String.ofList word, c)

/-- A character of a tag's suffix; the flow indicators only between angle brackets. -/
def isUriChar (verbatim : Bool) (c : Char) : Bool :=
  isWord c
    || [';', '/', '?', ':', '@', '&', '=', '+', '$', '.', '!', '~', '*', '\'', '(', ')'].contains c
    || (verbatim && [',', '[', ']'].contains c)

def escapedByte? : List Char → Option Nat
  | '%' :: a :: b :: _ => Scalar.hexNumber? [a, b]
  | _ => none

/-- How many bytes the UTF-8 form of a character has that starts with this byte. -/
def byteCount? (b : Nat) : Option Nat :=
  if b < 0x80 then some 1
  else if b / 0x20 = 0x6 then some 2
  else if b / 0x10 = 0xE then some 3
  else if b / 0x08 = 0x1E then some 4
  else none

def continuation : Nat → Cursor → Option (List UInt8 × Cursor)
  | 0, c => some ([], c)
  | n + 1, c => do
    let b ← escapedByte? c.rest
    if b / 0x40 ≠ 2 then none
    let (bytes, c) ← continuation n (c.skip 3)
    return (UInt8.ofNat b :: bytes, c)

def uri (verbatim : Bool) : Nat → ByteArray → Cursor → Option (ByteArray × Cursor)
  | 0, _, _ => none
  | fuel + 1, read, c =>
    match c.rest with
    | '%' :: _ => do
      let b ← escapedByte? c.rest
      let n ← byteCount? b
      let (bytes, c) ← continuation (n - 1) (c.skip 3)
      uri verbatim fuel (read ++ (UInt8.ofNat b :: bytes).toByteArray) c
    | ch :: _ =>
      if isUriChar verbatim ch then
        uri verbatim fuel (read ++ (String.singleton ch).toUTF8) (c.skip 1)
      else some (read, c)
    | [] => some (read, c)

def readUri (verbatim : Bool) (lead : ByteArray) (c : Cursor) : Option (ByteArray × Cursor) :=
  uri verbatim (c.rest.length + 1) lead c

/-- A handle: an exclamation mark, and perhaps a word and a second mark. -/
def handle (c : Cursor) : Option (String × Cursor) :=
  match c.rest with
  | '!' :: _ =>
    let (word, c) := (c.skip 1).span isWord
    match c.rest with
    | '!' :: _ => some ("!" ++ String.ofList word ++ "!", c.skip 1)
    | _ => some ("!" ++ String.ofList word, c)
  | _ => none

/-- A handle that is complete: a lone mark, or one that ends with a second mark. -/
def isComplete (handle : String) : Bool := handle.length > 1 && Text.endsWith "!" handle

/-- A tag: in angle brackets, with a handle, or a lone mark and a suffix. The mark alone is a suffix
without a handle. -/
def tag (flow : Bool) (c : Cursor) : Option (Token × Cursor) := do
  let (token, c) ← match c.rest with
    | '!' :: '<' :: _ => do
      let (suffix, c) ← readUri true .empty (c.skip 2)
      if suffix.isEmpty || c.rest.head? ≠ some '>' then none
      pure (Token.tag "" suffix, c.skip 1)
    | _ => do
      let (lead, c) ← handle c
      if isComplete lead then
        let (suffix, c) ← readUri false .empty c
        if suffix.isEmpty then none
        pure (Token.tag lead suffix, c)
      else
        let (suffix, c) ← readUri false (String.ofList (lead.toList.drop 1)).toUTF8 c
        pure (if suffix.isEmpty then .tag "" "!".toUTF8 else .tag "!" suffix, c)
  if atGap c.rest || (flow && c.rest.head? = some ',') then return (token, c) else none

def versionNumber (c : Cursor) : Option (Nat × Cursor) :=
  let (digits, c) := c.span Char.isDigit
  if digits.isEmpty || digits.length > 9 then none
  else some (digits.foldl (fun n d => n * 10 + (d.toNat - '0'.toNat)) 0, c)

def versionDirective (c : Cursor) : Option (Token × Cursor) := do
  let (major, c) ← versionNumber (c.skipWhile isBlank)
  if c.rest.head? ≠ some '.' then none
  let (minor, c) ← versionNumber (c.skip 1)
  return (.version major minor, c)

def tagDirective (c : Cursor) : Option (Token × Cursor) := do
  let (lead, c) ← handle (c.skipWhile isBlank)
  if lead ≠ "!" && !isComplete lead then none
  if !c.rest.head?.any isBlank then none
  let (value, c) ← readUri true .empty (c.skipWhile isBlank)
  if value.isEmpty || !atGap c.rest then none
  return (.tagHandle lead (← String.fromUTF8? value), c)

def directive (c : Cursor) : Option (Token × Cursor) := do
  let (word, c) := (c.skip 1).span isWord
  if !atGap c.rest then none
  let (token, c) ← match String.ofList word with
    | "YAML" => versionDirective c
    | "TAG" => tagDirective c
    | _ => none
  let c := c.skipWhile isBlank
  let c := if c.rest.head? = some '#' then c.skipLine else c
  if !atLineEnd c.rest then none
  return (token, (c.lineBreak?.map (·.2)).getD c)

end OrgStacks.Yaml.Property
