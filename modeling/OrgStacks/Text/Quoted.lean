import OrgStacks.Unicode.Category
import OrgStacks.Unicode.Property

/-!
# Text in quotes

Texts are shown between double quotes. A character that cannot be seen by itself is shown by an
escape: controls, separators but the blank, unassigned characters and marks on other characters.
-/

set_option autoImplicit false

namespace OrgStacks.Text

def unprintable : CharSet :=
  .ofRanges <| ((Unicode.Property.find? "graphemeextend").getD .empty).ranges ++
    ((Unicode.Category.find? "z").getD .empty).ranges ++
    ((Unicode.Category.find? "c").getD .empty).ranges

def isPrintable (c : Char) : Bool :=
  if c.toNat < 0x7F then 0x20 ≤ c.toNat else !unprintable.contains c.toNat

def quotedChar (c : Char) : String :=
  if c = '\x00' then "\\0"
  else if c = '\t' then "\\t"
  else if c = '\n' then "\\n"
  else if c = '\r' then "\\r"
  else if c = '"' then "\\\""
  else if c = '\\' then "\\\\"
  else if isPrintable c then String.singleton c
  else "\\u\x7b" ++ String.ofList (Nat.toDigits 16 c.toNat) ++ "\x7d"

def quoted (text : String) : String := "\"" ++ String.join (text.toList.map quotedChar) ++ "\""

end OrgStacks.Text
