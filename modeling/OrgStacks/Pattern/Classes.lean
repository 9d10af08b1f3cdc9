import OrgStacks.Pattern.Regex
import OrgStacks.Unicode.CaseFold
import OrgStacks.Unicode.Category
import OrgStacks.Unicode.Property
import OrgStacks.Unicode.Script

/-!
# Named classes of characters

The classes that a pattern names: the letter escapes, the POSIX names between brackets, and the
properties of the Unicode Standard. Property names are compared without case, blanks, hyphens and
underscores, and without a leading `is`.
-/

set_option autoImplicit false

namespace OrgStacks.Pattern

inductive LetterClass where
  | digit | space | word
deriving DecidableEq, Inhabited

def digitChars : CharSet := (Unicode.Category.find? "nd").getD .empty

/-- Letters, marks, decimal digits, connectors and the two joiners. -/
def wordChars : CharSet :=
  .ofRanges <| Unicode.Property.alphabetic.ranges ++ digitChars.ranges ++
    ((Unicode.Category.find? "m").getD .empty).ranges ++
    ((Unicode.Category.find? "pc").getD .empty).ranges ++
    ((Unicode.Property.find? "joincontrol").getD .empty).ranges

def asciiWordChars : CharSet := ⟨[(0x30, 0x39), (0x41, 0x5A), (0x5F, 0x5F), (0x61, 0x7A)]⟩

def LetterClass.chars (k : LetterClass) (unicode : Bool) : CharSet :=
  match k, unicode with
  | .digit, true => digitChars
  | .space, true => Unicode.Property.whiteSpace
  | .word, true => wordChars
  | .digit, false => .range 0x30 0x39
  | .space, false => ⟨[(0x09, 0x0D), (0x20, 0x20)]⟩
  | .word, false => asciiWordChars

def posixTable : List (String × List (Nat × Nat)) := [
  ("alnum", [(0x30, 0x39), (0x41, 0x5A), (0x61, 0x7A)]),
  ("alpha", [(0x41, 0x5A), (0x61, 0x7A)]),
  ("ascii", [(0x00, 0x7F)]),
  ("blank", [(0x09, 0x09), (0x20, 0x20)]),
  ("cntrl", [(0x00, 0x1F), (0x7F, 0x7F)]),
  ("digit", [(0x30, 0x39)]),
  ("graph", [(0x21, 0x7E)]),
  ("lower", [(0x61, 0x7A)]),
  ("print", [(0x20, 0x7E)]),
  ("punct", [(0x21, 0x2F), (0x3A, 0x40), (0x5B, 0x60), (0x7B, 0x7E)]),
  ("space", [(0x09, 0x0D), (0x20, 0x20)]),
  ("upper", [(0x41, 0x5A)]),
  ("word", [(0x30, 0x39), (0x41, 0x5A), (0x5F, 0x5F), (0x61, 0x7A)]),
  ("xdigit", [(0x30, 0x39), (0x41, 0x46), (0x61, 0x66)])]

def posixClass? (name : String) : Option CharSet := (posixTable.lookup name).map CharSet.mk

/-- Small letters, digits and signs, without the characters that loose matching ignores. -/
def looseName (name : List Char) : String :=
  let body : List Char := match name with
    | a :: b :: rest => if a.toLower = 'i' ∧ b.toLower = 's' then rest else name
    | _ => name
  let kept := body.filter fun c => c.toNat < 0x80 && !(c == ' ' || c == '_' || c == '-')
  let loose : List Char := kept.map Char.toLower
  if body.length < name.length ∧ loose = ['c'] then "isc" else String.ofList loose

/-- A property given by one name: a binary property, a category or a script. Three short names of
properties that are not binary name categories instead. -/
def propertyNamed? (name : List Char) : Option CharSet :=
  let n := looseName name
  let binary := if n = "cf" ∨ n = "sc" ∨ n = "lc" then none else Unicode.Property.find? n
  binary.orElse fun _ => (Unicode.Category.find? n).orElse fun _ => Unicode.Script.find? n

def propertyValued? (name value : List Char) : Option CharSet :=
  let n := looseName name
  let v := looseName value
  if n = "gc" ∨ n = "generalcategory" then Unicode.Category.find? v
  else if n = "sc" ∨ n = "script" then Unicode.Script.find? v
  else if n = "scx" ∨ n = "scriptextensions" then Unicode.Script.findExtended? v
  else none

end OrgStacks.Pattern
