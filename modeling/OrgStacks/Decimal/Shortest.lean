/-!
# Shortest decimal forms of binary fractions

A finite double is `m · 2^q` with a 53-bit `m`. Its shortest form is the decimal number with the
fewest digits among those that round to it; of several with that many digits it is the nearest, and
of two equally near the one with the even last digit. All arithmetic is on natural numbers.
-/

set_option autoImplicit false

namespace OrgStacks.Decimal

/-- The value `digits · 10^exponent`. -/
structure Digits where
  digits : Nat
  exponent : Int
deriving DecidableEq, Inhabited

/-- A positive number `m · 2^q`, and whether the next smaller one is only half a step away. -/
structure Binary where
  m : Nat
  q : Int
  narrowBelow : Bool
deriving DecidableEq, Inhabited

def Binary.ofBits (bits : Nat) : Binary :=
  let fraction := bits % Nat.pow 2 52
  let biased : Nat := bits / Nat.pow 2 52
  if biased = 0 then ⟨fraction, -1074, false⟩
  else ⟨Nat.pow 2 52 + fraction, (biased : Int) - 1075, fraction == 0 && 1 < biased⟩

structure Ratio where
  num : Nat
  den : Nat

/-- `n · 2^q` as a fraction. -/
def Ratio.scaled (n : Nat) (q : Int) : Ratio :=
  if 0 ≤ q then ⟨n * Nat.pow 2 q.toNat, 1⟩ else ⟨n, Nat.pow 2 (-q).toNat⟩

def Ratio.compareGrid (r : Ratio) (digits : Nat) (e : Int) : Ordering :=
  if 0 ≤ e then compare (digits * Nat.pow 10 e.toNat * r.den) r.num
  else compare (digits * r.den) (r.num * Nat.pow 10 (-e).toNat)

def Ratio.floorGrid (r : Ratio) (e : Int) : Nat :=
  if 0 ≤ e then r.num / (r.den * Nat.pow 10 e.toNat) else r.num * Nat.pow 10 (-e).toNat / r.den

def Binary.bounds (b : Binary) : Ratio × Ratio × Ratio :=
  let below := if b.narrowBelow then 4 * b.m - 1 else 4 * b.m - 2
  (.scaled below (b.q - 2), .scaled (4 * b.m) (b.q - 2), .scaled (4 * b.m + 2) (b.q - 2))

/-- Whether `digits · 10^e` rounds to the fraction; the ends do when `m` is even. -/
def Binary.holds (b : Binary) (digits : Nat) (e : Int) : Bool :=
  let (low, _, high) := b.bounds
  let above := low.compareGrid digits e
  let below := high.compareGrid digits e
  if b.m % 2 = 0 then above != .lt && below != .gt else above == .gt && below == .lt

/-- The number on the grid of step `10^e` that rounds to the fraction and is nearest to it. -/
def Binary.onGrid? (b : Binary) (e : Int) : Option Nat :=
  let value := b.bounds.2.1
  let floor := value.floorGrid e
  let lowHit := 0 < floor && b.holds floor e
  let highHit := b.holds (floor + 1) e
  if lowHit && highHit then
    -- twice the value against the sum of the two neighbours
    match (Ratio.mk (2 * value.num) value.den).compareGrid (2 * floor + 1) e with
    | .gt => some floor
    | .lt => some (floor + 1)
    | .eq => some (if floor % 2 = 0 then floor else floor + 1)
  else if lowHit then some floor
  else if highHit then some (floor + 1)
  else none

/-- The first grid with a hit, from coarse to fine. -/
def Binary.firstHit (b : Binary) : Nat → Int → Digits
  | 0, e => ⟨b.bounds.2.1.floorGrid e, e⟩
  | n + 1, e =>
    match b.onGrid? e with
    | some digits => ⟨digits, e⟩
    | none => b.firstHit n (e - 1)

def Digits.stripZeros : Nat → Digits → Digits
  | 0, d => d
  | n + 1, d =>
    if d.digits % 10 = 0 ∧ d.digits ≠ 0 then stripZeros n ⟨d.digits / 10, d.exponent + 1⟩ else d

/-- The shortest form; the grids run from one above the leading digit down. -/
def Binary.shortest (b : Binary) : Digits :=
  let value := b.bounds.2.1
  let bits := (value.num.log2 : Int) - value.den.log2
  -- 10^start is above the value: log₁₀ 2 < 0.30103
  let start := (bits + 1) * 30103 / 100000 + 2
  (b.firstHit 24 start).stripZeros 24

end OrgStacks.Decimal
