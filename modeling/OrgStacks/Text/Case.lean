import OrgStacks.Unicode.CaseMap
import OrgStacks.Unicode.Property

/-!
# Capital and small letters

Whole texts are mapped with the full mappings of the Unicode Standard. A capital sigma at the end of
a word has a small form of its own.
-/

set_option autoImplicit false

namespace OrgStacks.Text

def cased : CharSet := (Unicode.Property.find? "cased").getD .empty

def caseIgnorable : CharSet := (Unicode.Property.find? "caseignorable").getD .empty

def upper (text : String) : String :=
  String.ofList (text.toList.flatMap Unicode.CaseMap.upperChar)

/-- Whether the first character that counts for the end of a word is a letter with case. -/
def meetsCased (cs : List Char) : Bool :=
  match cs.dropWhile fun c => caseIgnorable.contains c.toNat with
  | c :: _ => cased.contains c.toNat
  | [] => false

/-- The small letters of a text; `before` holds the characters before it, the nearest first. -/
def lowerFrom : List Char → List Char → List Char
  | _, [] => []
  | before, c :: cs =>
    (if c = 'Σ' then (if meetsCased before && !meetsCased cs then ['ς'] else ['σ'])
      else Unicode.CaseMap.lowerChar c) ++ lowerFrom (c :: before) cs

def lower (text : String) : String := String.ofList (lowerFrom [] text.toList)

def capitalize (text : String) : String :=
  match text.toList with
  | [] => ""
  | c :: cs => upper (String.singleton c) ++ lower (String.ofList cs)

end OrgStacks.Text
