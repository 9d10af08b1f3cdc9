import OrgStacks.Decimal.Shortest

/-!
# Text of floating-point numbers

A `Notation` says where positional notation ends and how an exponent is written; the digits are
always the shortest ones. Reading takes the value nearest to the written number.
-/

set_option autoImplicit false

namespace OrgStacks.Decimal

/-- How a finite number is written. The point stands `p` places right of where the digits begin. -/
structure Style where
  /-- Positional when the place of the point is above this, if given. -/
  above : Option Int
  /-- Positional when the place of the point is at most this, if given. -/
  atMost : Option Int
  plus : String

/-- Positional for points from four places before the digits to sixteen after the first. -/
def Style.json : Style := ⟨some (-5), some 16, "+"⟩

def Style.yaml : Style := ⟨some (-5), some 16, ""⟩

def Style.positional : Style := ⟨none, none, ""⟩

def zeros (n : Nat) : String := String.ofList (List.replicate n '0')

def pointed (digits : List Char) (point : Int) : String :=
  let count : Int := digits.length
  if point ≤ 0 then "0." ++ zeros (-point).toNat ++ String.ofList digits
  else if count ≤ point then String.ofList digits ++ zeros (point - count).toNat ++ ".0"
  else String.ofList (digits.take point.toNat) ++ "." ++ String.ofList (digits.drop point.toNat)

/-- Digits with an exponent; a single digit has no point. -/
def scientific (style : Style) (digits : List Char) (point : Int) : String :=
  let exponent := point - 1
  let mantissa := match digits with
    | [] => ""
    | [d] => String.ofList [d]
    | d :: rest => String.ofList (d :: '.' :: rest)
  mantissa ++ "e" ++ (if 0 ≤ exponent then style.plus else "-") ++ toString exponent.natAbs

def Style.write (style : Style) (d : Digits) : String :=
  let digits := (Nat.toDigits 10 d.digits)
  let point := d.exponent + digits.length
  let low := match style.above with
    | some bound => decide (bound < point)
    | none => true
  let high := match style.atMost with
    | some bound => decide (point ≤ bound)
    | none => true
  if low && high then pointed digits point else scientific style digits point

def signAndBits (x : Float) : Bool × Nat :=
  let bits := x.toBits.toNat
  (bits / Nat.pow 2 63 = 1, bits % Nat.pow 2 63)

def Style.writeFloat (style : Style) (x : Float) : String :=
  let (negative, bits) := signAndBits x
  let body := if bits = 0 then "0.0" else style.write (Binary.ofBits bits).shortest
  if negative then "-" ++ body else body

def isFinite (x : Float) : Bool := (signAndBits x).2 / Nat.pow 2 52 < 2047

def isNaN (x : Float) : Bool :=
  let bits := (signAndBits x).2
  bits / Nat.pow 2 52 = 2047 && bits % Nat.pow 2 52 ≠ 0

def natOfDigits (cs : List Char) : Nat :=
  cs.foldl (fun n c => n * 10 + (c.toNat - '0'.toNat)) 0

/-- The float nearest to `mantissa · 10^exponent`; infinite when beyond the largest. Exponents that
no float can have are decided without computing the power. -/
def nearest (mantissa : Nat) (exponent : Int) : Float :=
  let size : Int := (Nat.toDigits 10 mantissa).length
  if mantissa = 0 then 0.0
  else if exponent + size > 400 then 1.0 / 0.0
  else if exponent + size < -400 then 0.0
  else Float.ofScientific mantissa (exponent < 0) exponent.natAbs

structure Written where
  whole : List Char
  fraction : List Char
  exponent : Int

def Written.value (w : Written) : Float :=
  nearest (natOfDigits (w.whole ++ w.fraction)) (w.exponent - w.fraction.length)

end OrgStacks.Decimal
