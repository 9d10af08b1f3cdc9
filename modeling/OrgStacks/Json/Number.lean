import OrgStacks.Decimal.Text
import OrgStacks.Json.Value

/-!
# Numbers in JSON

A whole number that fits 64 bits is kept as it is. Any other number is a product of two factors: its
leading digits as far as they fit 64 bits, and a power of ten. Each factor is rounded and so is the
product, so the last bit of a number with many digits may be off. `gather_lt` says that
the digits fit, and `gather_append` that none is lost on the way.
-/

set_option autoImplicit false

namespace OrgStacks.Json.Number

def digit (c : Char) : Nat := c.toNat - '0'.toNat

/-- Appends digits to a number while it fits 64 bits; the digits that do not fit are left. -/
def gather : Nat → List Char → Nat × List Char
  | n, [] => (n, [])
  | n, c :: cs =>
    if n * 10 + digit c < Nat.pow 2 64 then gather (n * 10 + digit c) cs else (n, c :: cs)

theorem gather_append (n : Nat) (cs : List Char) : ∃ taken, cs = taken ++ (gather n cs).2 := by
  induction cs generalizing n with
  | nil => exact ⟨[], rfl⟩
  | cons c cs ih =>
    unfold gather
    split
    · obtain ⟨taken, h⟩ := ih (n * 10 + digit c)
      exact ⟨c :: taken, by simpa using h⟩
    · exact ⟨[], rfl⟩

theorem gather_lt {n : Nat} (h : n < Nat.pow 2 64) (cs : List Char) :
    (gather n cs).1 < Nat.pow 2 64 := by
  induction cs generalizing n with
  | nil => exact h
  | cons c cs ih =>
    unfold gather
    split
    · rename_i hc
      exact ih hc
    · exact h

/-- A power of ten, up to the largest that a float can hold. -/
def power (e : Nat) : Float := Decimal.nearest 1 e

def divided (x : Float) (e : Nat) : Float :=
  if e ≤ 308 then x / power e
  else if x == 0.0 then x
  else divided (x / power 308) (e - 308)
termination_by e

/-- `n · 10^e`, unless it is beyond the largest float. -/
def product? (n : Nat) (e : Int) : Option Float :=
  if e < 0 then some (divided (Decimal.nearest n 0) e.natAbs)
  else if n = 0 then some 0.0
  else if e ≤ 308 then
    let x := Decimal.nearest n 0 * power e.toNat
    if Decimal.isFinite x then some x else none
  else none

def signed (negative : Bool) (x : Float) : Json := .float (if negative then -x else x)

def whole? (negative : Bool) (digits : List Char) : Option Json :=
  match gather 0 digits with
  | (n, []) =>
    if negative then
      if n = 0 ∨ Nat.pow 2 63 < n then some (signed true (Decimal.nearest n 0))
      else some (.int (-n))
    else some (.int n)
  | (n, rest) => (product? n rest.length).map (signed negative)

def fraction? (negative : Bool) (digits fraction : List Char) (exponent : Int) : Option Json :=
  let (n, rest) := gather 0 digits
  let (n, ignored) := gather n fraction
  let places : Int := fraction.length - ignored.length
  (product? n (rest.length - places + exponent)).map (signed negative)

end OrgStacks.Json.Number
