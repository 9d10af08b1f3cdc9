import OrgStacks.Render.Value

/-!
# Operators of policy texts

Whole numbers stay whole but for `/`, which always gives a fraction. Division without a remainder
and the remainder are the ones with a remainder that is not negative. Results beyond 128 bits fail.
-/

set_option autoImplicit false

namespace OrgStacks.Render

inductive Operator where
  | add | sub | mul | div | floorDiv | rem | pow | concat
  | eq | ne | lt | le | gt | ge | isIn
deriving DecidableEq, Inhabited

namespace Operator

def unsupported {α : Type} : Result α := .error "the operator cannot be applied to these values"

def inRange (n : Int) : Result Value :=
  if -(Nat.pow 2 127) ≤ n && n < Nat.pow 2 127 then .ok (.int n)
  else .error "the result is too large"

def numeric (a b : Value) (wholes : Int → Int → Result Value)
    (fractions : Float → Float → Result Value) : Result Value :=
  match Value.common? a b with
  | some (.wholes x y) => wholes x y
  | some (.fractions x y) => fractions x y
  | _ => unsupported

def truncate (x : Float) : Float := if x < 0.0 then x.ceil else x.floor

/-- The exact remainder, with the sign of the dividend. -/
def remainder (x y : Float) : Float :=
  if !Decimal.isFinite x || Decimal.isNaN y || y == 0.0 then 0.0 / 0.0
  else if !Decimal.isFinite y || x == 0.0 then x
  else
    let (negative, bits) := Decimal.signAndBits x
    let a := Decimal.Binary.ofBits bits
    let b := Decimal.Binary.ofBits (Decimal.signAndBits y).2
    let unit := min a.q b.q
    let left := (a.m * Nat.pow 2 (a.q - unit).toNat) % (b.m * Nat.pow 2 (b.q - unit).toNat)
    let size := (Float.ofNat left).scaleB unit
    if negative then -size else size

/-- Rounded so that the remainder is not negative. -/
def quotient (x y : Float) : Float :=
  let q := truncate (x / y)
  if remainder x y < 0.0 then (if y > 0.0 then q - 1.0 else q + 1.0) else q

def power (base : Int) (exponent : Int) : Result Value :=
  if exponent < 0 || exponent ≥ Nat.pow 2 32 then .error "the exponent is out of range"
  else if base.natAbs ≤ 1 then
    .ok (.int (if base = 0 && exponent ≠ 0 then 0
      else if base < 0 && exponent % 2 = 1 then -1 else 1))
  else if exponent > 127 then .error "the result is too large"
  else inRange (Int.pow base exponent.toNat)

def repeated? (a b : Value) : Option (Result Value) :=
  let times (n : Value) (make : Nat → Value) : Result Value :=
    match n with
    | .int k => if 0 ≤ k && k ≤ 100000 then .ok (make k.toNat) else unsupported
    | _ => unsupported
  let ofText (s : String) (n : Value) : Result Value :=
    times n fun k => .str (String.join (List.replicate k s))
  let ofList (items : List Value) (n : Value) : Result Value :=
    times n fun k => .list (List.replicate k items).flatten
  match a, b with
  | .str s, n | n, .str s => some (ofText s n)
  | .list items, n | n, .list items => some (ofList items n)
  | _, _ => none

def arithmetic (op : Operator) (a b : Value) : Result Value :=
  match op with
  | add => match a, b with
    | .list x, .list y => .ok (.list (x ++ y))
    | .str x, .str y => .ok (.str (x ++ y))
    | _, _ => numeric a b (fun x y => inRange (x + y)) fun x y => .ok (.float (x + y))
  | sub => numeric a b (fun x y => inRange (x - y)) fun x y => .ok (.float (x - y))
  | mul => match repeated? a b with
    | some r => r
    | none => numeric a b (fun x y => inRange (x * y)) fun x y => .ok (.float (x * y))
  | div => match a.fraction?, b.fraction? with
    | some x, some y => .ok (.float (x / y))
    | _, _ => unsupported
  | floorDiv => numeric a b
    (fun x y => if y = 0 then .error "division by zero" else inRange (x / y))
    fun x y => .ok (.float (quotient x y))
  | rem => numeric a b
    (fun x y => if y = 0 then .error "division by zero" else inRange (x % y))
    fun x y => .ok (.float (remainder x y))
  | pow => numeric a b power fun x y => .ok (.float (x.pow y))
  | _ => unsupported

def apply (op : Operator) (a b : Value) : Result Value :=
  match op with
  | concat => .ok (.str (a.text ++ b.text))
  | eq => .ok (.bool (Value.same a b))
  | ne => .ok (.bool !(Value.same a b))
  | lt => .ok (.bool (Value.order a b == .lt))
  | le => .ok (.bool (Value.order a b != .gt))
  | gt => .ok (.bool (Value.order a b == .gt))
  | ge => .ok (.bool (Value.order a b != .lt))
  | isIn => (Value.holds b a).map .bool
  | op => arithmetic op a b

def negate : Value → Result Value
  | .int n => inRange (-n)
  | .float x => .ok (.float (-x))
  | _ => unsupported

end Operator

end OrgStacks.Render
