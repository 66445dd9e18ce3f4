import Registration.Number.Rounding
import Registration.Text.Digit

/-!
# Decimal numbers

A decimal keeps the way it was written: a sign, a whole coefficient and a power of ten, so `7` and
`7.0` are different decimals of the same value. Beside the finite ones there are the infinities and
the not-a-numbers, quiet or signaling, with the digits they carry.

`sameValue` and `less` compare by value; a not-a-number is neither equal to nor comparable with
anything, itself included. `quantize places precision d` writes a decimal with exactly `places`
digits after the point, rounded half to even.
-/

namespace Registration.Number

/-- A decimal number as written. -/
inductive Decimal where
  /-- The value `± coefficient * 10 ^ exponent`. -/
  | finite (negative : Bool) (coefficient : Nat) (exponent : Int)
  | infinite (negative : Bool)
  | nan (negative signaling : Bool) (payload : Nat)
  deriving DecidableEq, Repr, Inhabited

namespace Decimal

/-- A whole number. -/
def ofInt (n : Int) : Decimal := finite (n < 0) n.natAbs 0

/-- A finite number, not an infinity or not-a-number. -/
def isFinite : Decimal → Bool
  | finite .. => true
  | _ => false

/-- A not-a-number. -/
def isNaN : Decimal → Bool
  | nan .. => true
  | _ => false

/-- The coefficient with its sign, in units of `10 ^ e` for an `e` no larger than the exponent. -/
def signedUnits (negative : Bool) (coefficient : Nat) (exponent e : Int) : Int :=
  let units : Int := (coefficient * tenTo (exponent - e).toNat : Nat)
  if negative then -units else units

/-- Equality by value. -/
def sameValue : Decimal → Decimal → Bool
  | finite s c e, finite t d f => signedUnits s c e (min e f) == signedUnits t d f (min e f)
  | infinite s, infinite t => s == t
  | _, _ => false

/-- Order by value. -/
def less : Decimal → Decimal → Bool
  | finite s c e, finite t d f => decide (signedUnits s c e (min e f) < signedUnits t d f (min e f))
  | infinite s, infinite t => s && !t
  | infinite s, finite .. => s
  | finite .., infinite t => !t
  | _, _ => false

@[simp] theorem sameValue_nan_left (s t : Bool) (p : Nat) (d : Decimal) :
    sameValue (nan s t p) d = false := by cases d <;> rfl

@[simp] theorem sameValue_finite_self (s : Bool) (c : Nat) (e : Int) :
    sameValue (finite s c e) (finite s c e) = true := by simp [sameValue]

/-! ## A fixed number of places

`quantize` has no answer for an infinity, for a signaling not-a-number, and when more than
`precision` digits would be needed; a quiet not-a-number stays, with as many of its digits as fit.
-/

/-- Number of decimal digits, one for zero. -/
def digitCount (n : Nat) : Nat := (Text.natDigits n).length

/-- The coefficient at exponent `-places`, rounded half to even. A coefficient that is too far below
the last place counts as zero, and one too far above it has no answer. -/
def unitsAt (places precision : Nat) (coefficient : Nat) (exponent : Int) : Option Nat :=
  let shift := exponent + places
  if coefficient = 0 then some 0
  else if 0 ≤ shift then
    if precision < digitCount coefficient + shift.toNat then none
    else some (coefficient * tenTo shift.toNat)
  else
    let drop := (-shift).toNat
    if digitCount coefficient < drop then some 0
    else
      let units := roundDiv coefficient (tenTo drop)
      if precision < digitCount units then none else some units

/-- The decimal with a fixed number of places. -/
def quantize (places precision : Nat) : Decimal → Option Decimal
  | finite negative coefficient exponent =>
    (unitsAt places precision coefficient exponent).map fun units => finite negative units (-places)
  | infinite _ => none
  | nan _ true _ => none
  | nan negative false payload => some (nan negative false (payload % tenTo precision))

end Decimal

end Registration.Number
