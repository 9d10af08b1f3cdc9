import OrgStacks.CharSet

/-!
# Regular expressions and their matches

`Regex.Matches` says which stretches of a text an expression matches; it does not say which match is
found first, because patterns are only asked whether they match. `Regex.reach` carries a set of
positions through an expression, so its time is polynomial whatever the expression.
-/

set_option autoImplicit false

namespace OrgStacks

def CharSet.holdsAt (set : CharSet) (text : Array Char) (i : Nat) : Bool :=
  match text[i]? with
  | some c => set.contains c.toNat
  | none => false

def CharSet.holdsBefore (set : CharSet) (text : Array Char) (i : Nat) : Bool :=
  match i with
  | 0 => false
  | j + 1 => set.holdsAt text j

namespace Pattern

/-- Where a word assertion looks: across the boundary, or at one side of it. -/
inductive WordEdge where
  | boundary | inside | start | stop | startHalf | stopHalf
deriving DecidableEq, Inhabited

inductive Assertion where
  | textStart | textEnd
  | lineStart | lineEnd
  /-- Lines that end in a line feed, a carriage return, or both. -/
  | anyLineStart | anyLineEnd
  /-- Word characters as the given set says. -/
  | word (chars : CharSet) (edge : WordEdge)
deriving DecidableEq, Inhabited

inductive Regex where
  | empty
  | chars (set : CharSet)
  | assert (a : Assertion)
  | seq (first second : Regex)
  | alt (left right : Regex)
  | repeated (body : Regex) (least : Nat) (most : Option Nat)
  /-- A group that records what it matched; its matches are those of the body. -/
  | capture (body : Regex)
deriving Inhabited

def WordEdge.holds (edge : WordEdge) (before after : Bool) : Bool :=
  match edge with
  | .boundary => before != after
  | .inside => before == after
  | .start => !before && after
  | .stop => before && !after
  | .startHalf => !before
  | .stopHalf => !after

def Assertion.holds (a : Assertion) (text : Array Char) (i : Nat) : Bool :=
  let lf := CharSet.singleton '\n'
  let cr := CharSet.singleton '\r'
  match a with
  | .textStart => i == 0
  | .textEnd => i == text.size
  | .lineStart => i == 0 || lf.holdsBefore text i
  | .lineEnd => i == text.size || lf.holdsAt text i
  | .anyLineStart =>
    i == 0 || lf.holdsBefore text i ||
      (cr.holdsBefore text i && !lf.holdsAt text i)
  | .anyLineEnd =>
    i == text.size || cr.holdsAt text i ||
      (lf.holdsAt text i && !cr.holdsBefore text i)
  | .word chars edge => edge.holds (chars.holdsBefore text i) (chars.holdsAt text i)

/-- `Matches text r i j`: the expression matches from position `i` to position `j`. -/
inductive Regex.Matches (text : Array Char) : Regex → Nat → Nat → Prop where
  | empty (i : Nat) : Matches text .empty i i
  | chars {set : CharSet} {i : Nat} (h : set.holdsAt text i = true) :
      Matches text (.chars set) i (i + 1)
  | assert {a : Assertion} {i : Nat} (h : a.holds text i = true) : Matches text (.assert a) i i
  | seq {r s : Regex} {i j k : Nat} (h : Matches text r i j) (h' : Matches text s j k) :
      Matches text (.seq r s) i k
  | left {r s : Regex} {i j : Nat} (h : Matches text r i j) : Matches text (.alt r s) i j
  | right {r s : Regex} {i j : Nat} (h : Matches text s i j) : Matches text (.alt r s) i j
  | stop {r : Regex} {most : Option Nat} {i : Nat} : Matches text (.repeated r 0 most) i i
  | again {r : Regex} {least : Nat} {most : Option Nat} {i j k : Nat} (room : most ≠ some 0)
      (h : Matches text r i j)
      (h' : Matches text (.repeated r (least - 1) (most.map (· - 1))) j k) :
      Matches text (.repeated r least most) i k
  | capture {r : Regex} {i j : Nat} (h : Matches text r i j) : Matches text (.capture r) i j

def merge (ps qs : List Nat) : List Nat := ps ++ qs.filter (! ps.contains ·)

/-- `n` applications, or fewer once no position is left. -/
def applyTimes (f : List Nat → List Nat) : Nat → List Nat → List Nat
  | 0, ps => ps
  | _ + 1, [] => []
  | n + 1, p :: ps => applyTimes f n (f (p :: ps))

/-- The positions after at most `n` applications; it stops once nothing new comes. -/
def applyUpTo (f : List Nat → List Nat) : Nat → List Nat → List Nat
  | 0, ps => ps
  | n + 1, ps =>
    match (f ps).filter (! ps.contains ·) with
    | [] => ps
    | q :: qs => applyUpTo f n (ps ++ (q :: qs).eraseDups)

/-- The ends of the matches that start at one of the given positions. -/
def Regex.reach (text : Array Char) : Regex → List Nat → List Nat
  | .empty, ps => ps
  | .chars set, ps => (ps.filter (set.holdsAt text ·)).map (· + 1)
  | .assert a, ps => ps.filter (a.holds text ·)
  | .seq r s, ps => s.reach text (r.reach text ps)
  | .alt r s, ps => merge (r.reach text ps) (s.reach text ps)
  | .repeated r least none, ps =>
    applyUpTo (r.reach text) (text.size + 1) (applyTimes (r.reach text) least ps)
  | .repeated r least (some most), ps =>
    applyUpTo (r.reach text) (most - least) (applyTimes (r.reach text) least ps)
  | .capture r, ps => r.reach text ps

def Regex.foundIn (r : Regex) (text : String) : Bool :=
  let cs := text.toList.toArray
  !(r.reach cs (List.range (cs.size + 1))).isEmpty

end Pattern

end OrgStacks
