import Registration.Number.Decimal
import Registration.Text.Character
import Registration.Text.Digit

/-!
# Decimals as texts

A decimal is shown plainly if its exponent is not positive and its first digit stands no further
than six places after the point, and with a power of ten otherwise. Sign, coefficient and exponent
can be read back from the text.

Reading is more liberal: blanks around the text, underscores anywhere, digits of every script, a
power of ten, and the names of the infinities and not-a-numbers in either case.
-/

namespace Registration.Number.Decimal

open Registration.Text

/-! ## Showing -/

/-- A minus sign or nothing. -/
def signChars (negative : Bool) : List Char := if negative then ['-'] else []

/-- Digits with a point so that `places` of them follow it, with zeros in front where needed. -/
def pointed (digits : List Char) (places : Nat) : List Char :=
  if places = 0 then digits
  else if digits.length ≤ places then
    ['0', '.'] ++ List.replicate (places - digits.length) '0' ++ digits
  else digits.take (digits.length - places) ++ '.' :: digits.drop (digits.length - places)

/-- The power of ten of a text in scientific form. -/
def exponentChars (e : Int) : List Char :=
  'E' :: (if e < 0 then '-' else '+') :: natDigits e.natAbs

/-- The characters of a finite decimal without its sign. -/
def magnitudeChars (coefficient : Nat) (exponent : Int) : List Char :=
  let digits := natDigits coefficient
  let adjusted := exponent + digits.length - 1
  if exponent ≤ 0 ∧ -6 ≤ adjusted then pointed digits (-exponent).toNat
  else pointed digits (digits.length - 1) ++ exponentChars adjusted

def chars : Decimal → List Char
  | finite negative coefficient exponent =>
    signChars negative ++ magnitudeChars coefficient exponent
  | infinite negative => signChars negative ++ "Infinity".toList
  | nan negative signaling payload =>
    signChars negative ++ (if signaling then "sNaN" else "NaN").toList ++
      (if payload = 0 then [] else natDigits payload)

def text (d : Decimal) : String := String.ofList d.chars

/-! ## Reading -/

/-- The largest adjusted exponent. -/
def maxAdjusted : Int := 999999999999999999

def minExponent : Int := -1999999999999999997

/-- The finite decimal with these parts, if it is within the limits. -/
def withinLimits? (negative : Bool) (coefficient : Nat) (exponent : Int) : Option Decimal :=
  let adjusted := exponent + (natDigits coefficient).length - 1
  if exponent < minExponent ∨ maxAdjusted < adjusted then none
  else some (finite negative coefficient exponent)

/-- The digit values of a text that holds digits only. -/
def allDigits? (cs : List Char) : Option (List Nat) := cs.mapM asciiDigit?

/-- The exponent written after the mark. -/
def readExponent? (cs : List Char) : Option Int :=
  let signed : Bool × List Char := match cs with
    | '-' :: rest => (true, rest)
    | '+' :: rest => (false, rest)
    | _ => (false, cs)
  if signed.2.isEmpty then none
  else (allDigits? signed.2).map fun ds => if signed.1 then -(ofDigits ds : Int) else ofDigits ds

/-- The number whose digits stand before and after the point and whose power of ten is given. -/
def readMantissa? (negative : Bool) (mantissa : List Char) (exponent : Int) : Option Decimal := do
  let whole := mantissa.takeWhile (· ≠ '.')
  let fraction := (mantissa.dropWhile (· ≠ '.')).drop 1
  if whole.isEmpty && fraction.isEmpty then none
  else
    let ds ← allDigits? (whole ++ fraction)
    withinLimits? negative (ofDigits ds) (exponent - fraction.length)

/-- A finite number without its sign. -/
def readFinite? (negative : Bool) (cs : List Char) : Option Decimal :=
  let isMark (c : Char) : Bool := c = 'e' || c = 'E'
  let mantissa := cs.takeWhile fun c => !isMark c
  match cs.dropWhile fun c => !isMark c with
  | [] => readMantissa? negative mantissa 0
  | _ :: rest => (readExponent? rest).bind (readMantissa? negative mantissa)

/-- The rest of a text after a name written in either case. -/
def afterName? (name : String) (cs : List Char) : Option (List Char) :=
  let n := name.length
  if (cs.take n).map Char.toLower = name.toList then some (cs.drop n) else none

/-- A number without its sign. -/
def readUnsigned? (negative : Bool) (cs : List Char) : Option Decimal :=
  if afterName? "inf" cs = some [] ∨ afterName? "infinity" cs = some [] then
    some (infinite negative)
  else match afterName? "snan" cs with
    | some digits => (allDigits? digits).map fun ds => nan negative true (ofDigits ds)
    | none => match afterName? "nan" cs with
      | some digits => (allDigits? digits).map fun ds => nan negative false (ofDigits ds)
      | none => readFinite? negative cs

/-- Digits of every script become ASCII digits. -/
def asciiForm (c : Char) : Char :=
  match digitValue? c with
  | some d => digitChar d
  | none => c

def readChars? (cs : List Char) : Option Decimal :=
  match cs with
  | '-' :: rest => readUnsigned? true rest
  | '+' :: rest => readUnsigned? false rest
  | _ => readUnsigned? false cs

def read? (s : String) : Option Decimal :=
  readChars? (((trim isBlank s.toList).filter (· ≠ '_')).map asciiForm)

end Registration.Number.Decimal
