import Registration.Number.Decimal
import Registration.Number.Rounding

/-!
# Binary floating point

A non-negative number in the 64-bit binary format is a significand of at most 53 bits times a power
of two. `Binary.nearest` rounds a quotient of whole numbers to the nearest such number, ties to the
even significand; it has no answer above the largest one. As a decimal, a binary number is given by
the shortest digits that read back as it (`Binary.shortest`), in one of two layouts
(`Decimal.ofReal`, `Decimal.ofRealPlain`).
-/

namespace Registration.Number

/-- The number `significand * 2 ^ exponent`. -/
structure Binary where
  significand : Nat
  exponent : Int
  deriving DecidableEq, Repr

namespace Binary

/-- The exponent of the smallest numbers. -/
def minExponent : Int := -1074

/-- The exponent of the largest numbers. -/
def maxExponent : Int := 971

def zero : Binary := ⟨0, minExponent⟩

/-- The numerator of the number as a quotient of whole numbers. -/
def num (x : Binary) : Nat := x.significand * twoTo x.exponent.toNat

/-- The denominator of the number as a quotient of whole numbers. -/
def den (x : Binary) : Nat := twoTo (-x.exponent).toNat

/-- The quotient in units of `2 ^ e`, rounded. -/
def inUnits (n d : Nat) (e : Int) : Nat := roundDiv (n * twoTo (-e).toNat) (d * twoTo e.toNat)

/-- Number of binary digits. -/
def bitCount (n : Nat) : Nat := if n = 0 then 0 else n.log2 + 1

/-- The exponent at which the quotient has 53 binary digits before the point, or the least one. -/
def exponentFor (n d : Nat) : Int :=
  let e := (bitCount n : Int) - bitCount d - 53
  let e := if n * twoTo (-e).toNat < twoTo 53 * (d * twoTo e.toNat) then e else e + 1
  max e minExponent

/-- The nearest number to `n / d`, ties to the even significand. -/
def nearest (n d : Nat) : Option Binary :=
  if n = 0 then some zero
  else
    let e := exponentFor n d
    let s := inUnits n d e
    let x : Binary := if s = twoTo 53 then ⟨twoTo 52, e + 1⟩ else ⟨s, e⟩
    if x.exponent ≤ maxExponent then some x else none

/-- The quotient of a number and a whole number. -/
def divNat (x : Binary) (k : Nat) : Option Binary := nearest x.num (x.den * k)

/-- The number in units of `1 / k`, rounded with ties to even. -/
def roundTo (x : Binary) (k : Nat) : Nat := roundDiv (x.num * k) x.den

end Binary

/-! ## Shortest decimal digits

The shortest decimal that reads back as a given binary number, and of those the nearest one. For
one digit, two digits and so on up to seventeen, the two neighbours of the number on that decimal
grid are tried; the first grid with a neighbour that reads back wins. Where both neighbours read
back and are equally near, a `Tie` decides.
-/

/-- The number `coefficient * 10 ^ exponent`. -/
structure Digits where
  coefficient : Nat
  exponent : Int
  deriving DecidableEq, Repr

namespace Digits

/-- The numerator of the number as a quotient of whole numbers. -/
def num (x : Digits) : Nat := x.coefficient * tenTo x.exponent.toNat

/-- The denominator of the number as a quotient of whole numbers. -/
def den (x : Digits) : Nat := tenTo (-x.exponent).toNat

/-- Number of decimal digits, one for zero. -/
def count (n : Nat) : Nat := (Nat.toDigits 10 n).length

/-- The same number without zeros at the end of the coefficient, given at most `fuel` of them. -/
def stripZeros : Nat → Digits → Digits
  | 0, x => x
  | fuel + 1, x =>
    if x.coefficient ≠ 0 ∧ x.coefficient % 10 = 0 then
      stripZeros fuel ⟨x.coefficient / 10, x.exponent + 1⟩
    else x

/-- The binary number that the decimal reads as; none above the largest one. A decimal far outside
the format's range is settled by its magnitude alone. -/
def toBinary (x : Digits) : Option Binary :=
  let magnitude := x.exponent + count x.coefficient
  if x.coefficient = 0 ∨ magnitude < -400 then some Binary.zero
  else if 400 < magnitude then none
  else Binary.nearest x.num x.den

end Digits

/-- Which of two equally near neighbours is taken. -/
inductive Tie where
  /-- The one with the even last digit. -/
  | toEven
  /-- The larger one. -/
  | up
  deriving DecidableEq, Repr

/-- Of two equally near neighbours the smaller one is taken. -/
def Tie.takesLower (t : Tie) (below : Nat) : Bool :=
  match t with
  | toEven => below % 2 = 0
  | up => false

namespace Binary

/-- The number of decimal digits before the point of `n / d`; zero or less below one tenth. -/
def decimalMagnitude (n d : Nat) : Int :=
  let p := (Digits.count n : Int) - Digits.count d
  if n * tenTo (-p).toNat < d * tenTo p.toNat then p else p + 1

/-- The neighbour on the grid of step `10 ^ e` that reads back as the number, the nearer one
first. -/
def onGrid? (x : Binary) (tie : Tie) (e : Int) : Option Digits :=
  let n := x.num * tenTo (-e).toNat
  let d := x.den * tenTo e.toNat
  let below := n / d
  let low : Digits := ⟨below, e⟩
  let high : Digits := ⟨below + 1, e⟩
  let lowFirst := 2 * (n % d) < d ∨ (2 * (n % d) = d ∧ tie.takesLower below)
  let order := if lowFirst then [low, high] else [high, low]
  order.find? (·.toBinary == some x)

/-- The shortest decimal that reads back as a positive number. -/
def shortest (x : Binary) (tie : Tie) : Digits :=
  let p := decimalMagnitude x.num x.den
  let found := (List.range 17).findSome? fun k => x.onGrid? tie (p - (k + 1 : Nat))
  (found.getD ⟨0, 0⟩).stripZeros 20

end Binary

end Registration.Number

/-! ## Decimals of binary numbers

A number written with a point or a power of ten is held in the binary format. `Decimal.ofReal` keeps
one place after the point of a whole number below `10 ^ 16` and a power of ten above, and takes even
last digits at a tie; the plain layout `Decimal.ofRealPlain` has neither place nor power, and rounds
ties up.
-/

namespace Registration.Number.Decimal

/-- The layout with a place after the point: small and large numbers keep their power of ten. -/
def laidOut (negative : Bool) (x : Digits) : Decimal :=
  let magnitude := x.exponent + Digits.count x.coefficient
  if 0 ≤ x.exponent ∧ magnitude ≤ 16 then
    finite negative (x.coefficient * tenTo (x.exponent.toNat + 1)) (-1)
  else finite negative x.coefficient x.exponent

/-- The layout without powers of ten. -/
def laidOutPlain (negative : Bool) (x : Digits) : Decimal :=
  if 0 ≤ x.exponent then finite negative (x.coefficient * tenTo x.exponent.toNat) 0
  else finite negative x.coefficient x.exponent

/-- The decimal of a binary number, none being the one above the largest. -/
def ofBinary (layout : Bool → Digits → Decimal) (tie : Tie) (zero : Decimal) (negative : Bool) :
    Option Binary → Decimal
  | none => infinite negative
  | some x => if x.significand = 0 then zero else layout negative (x.shortest tie)

/-- The decimal of a number written with a point or a power of ten. -/
def ofReal (negative : Bool) (coefficient : Nat) (exponent : Int) : Decimal :=
  ofBinary laidOut .toEven (finite negative 0 (-1)) negative
    (Digits.mk coefficient exponent).toBinary

/-- The same in the plain layout. -/
def ofRealPlain (negative : Bool) (coefficient : Nat) (exponent : Int) : Decimal :=
  ofBinary laidOutPlain .up (finite negative 0 0) negative
    (Digits.mk coefficient exponent).toBinary

end Registration.Number.Decimal
