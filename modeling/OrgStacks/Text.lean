/-!
# Small operations on text

White space is what the Unicode Standard calls so, and a logical id keeps the letters and digits of
ASCII alone.
-/

set_option autoImplicit false

namespace OrgStacks.Text

/-- The characters with the White_Space property. -/
def isSpace (c : Char) : Bool :=
  let n := c.toNat
  (0x09 ≤ n && n ≤ 0x0D) || n == 0x20 || n == 0x85 || n == 0xA0 || n == 0x1680 ||
    (0x2000 ≤ n && n ≤ 0x200A) || n == 0x2028 || n == 0x2029 || n == 0x202F || n == 0x205F ||
    n == 0x3000

def dropPrefix? : List Char → List Char → Option (List Char)
  | [], text => some text
  | _ :: _, [] => none
  | p :: ps, c :: cs => if p = c then dropPrefix? ps cs else none

def stripPrefix? (lead text : String) : Option String :=
  (dropPrefix? lead.toList text.toList).map String.ofList

def startsWith (lead text : String) : Bool := (stripPrefix? lead text).isSome

def endsWith (tail text : String) : Bool :=
  (dropPrefix? tail.toList.reverse text.toList.reverse).isSome

def splitFirst? (sep : List Char) : List Char → Option (List Char × List Char)
  | [] => (dropPrefix? sep []).map fun rest => ([], rest)
  | c :: cs =>
    match dropPrefix? sep (c :: cs) with
    | some rest => some ([], rest)
    | none => (splitFirst? sep cs).map fun (before, rest) => (c :: before, rest)

def contains (part text : String) : Bool := (splitFirst? part.toList text.toList).isSome

def trimStart (cs : List Char) : List Char := cs.dropWhile isSpace

def trimEnd (cs : List Char) : List Char := (trimStart cs.reverse).reverse

def trim (cs : List Char) : List Char := trimEnd (trimStart cs)

def words (cs : List Char) : List (List Char) :=
  (cs.splitBy fun a b => isSpace a == isSpace b).filter fun w => !(w.all isSpace)

/-- The parts between the occurrences of one character; always at least one part. -/
def splitOnChar (sep : Char) : List Char → List (List Char)
  | [] => [[]]
  | c :: cs =>
    if c = sep then [] :: splitOnChar sep cs
    else match splitOnChar sep cs with
      | part :: parts => (c :: part) :: parts
      | [] => [[c]]

def joinWith (sep : String) (parts : List String) : String := String.intercalate sep parts

def isDigits (text : String) : Bool := !text.isEmpty && text.toList.all Char.isDigit

/-- The ASCII letters and digits of a name, in order: a legal logical id unless nothing is left. -/
def scrub (name : String) : String := String.ofList (name.toList.filter Char.isAlphanum)

theorem isAlphanum_of_mem_scrub {name : String} {c : Char} (h : c ∈ (scrub name).toList) :
    c.isAlphanum := by
  simp only [scrub, String.toList_ofList, List.mem_filter] at h
  exact h.2

theorem scrub_append (a b : String) : scrub (a ++ b) = scrub a ++ scrub b := by
  rw [← String.toList_inj]
  simp [scrub]

theorem dropPrefix?_eq_some_iff {lead text rest : List Char} :
    dropPrefix? lead text = some rest ↔ text = lead ++ rest := by
  induction lead generalizing text with
  | nil => simp [dropPrefix?]
  | cons p ps ih =>
    cases text with
    | nil => simp [dropPrefix?]
    | cons c cs =>
      by_cases h : p = c
      · simp [dropPrefix?, h, ih]
      · simp [dropPrefix?, h, Ne.symm h]

end OrgStacks.Text
