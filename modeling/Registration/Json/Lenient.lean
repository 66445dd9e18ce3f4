import Registration.Calendar
import Registration.Json.Reader
import Registration.Number.DecimalText
import Registration.Number.Real
import Registration.Text.Character
import Registration.Text.Digit

/-!
# Lenient reading of fields

Other programs write numbers and dates in more than one way. A whole number may come as a real
number without fraction, as a truth value or as a text; a decimal as a number, a text or its parts;
a date with a time of midnight behind it or as a time stamp of midnight. Texts come as texts only.
-/

namespace Registration.Json

open Registration.Number Registration.Text

/-! ## Whole numbers -/

/-- The character is a zero or an underscore, which count for nothing in front of a number. -/
def isFiller (c : Char) : Bool := c = '0' || c = '_'

/-- What a number begins with once fillers are dropped: a digit other than zero or a minus sign. -/
def isOpening (c : Char) : Bool := '1' ≤ c && c ≤ '9' || c = '-'

/-- Drops the zeros in front, and the underscores among them; the last one stays where nothing but a
point follows. A minus sign may stand in front of the number or behind the zeros, but the zeros
behind it stay. -/
def dropFillers : List Char → Option (List Char)
  | [] => none
  | '0' :: rest =>
    let last := ((rest.takeWhile isFiller).getLast?).getD '0'
    match rest.dropWhile isFiller with
    | [] => some [last]
    | c :: more =>
      if isOpening c then some (c :: more)
      else if c = '.' then some (last :: c :: more)
      else none
  | c :: rest => if isOpening c then some (c :: rest) else none

/-- Drops a point that zeros, and nothing else, follow. -/
def dropZeroFraction (cs : List Char) : List Char :=
  match cs.dropWhile (· ≠ '.') with
  | '.' :: '0' :: rest => if rest.all (· = '0') then cs.takeWhile (· ≠ '.') else cs
  | _ => cs

/-- Two underscores stand side by side. -/
def hasDoubleUnderscore : List Char → Bool
  | '_' :: '_' :: _ => true
  | _ :: rest => hasDoubleUnderscore rest
  | [] => false

/-- Drops underscores that stand alone between other characters; if one does not, all stay. -/
def dropUnderscores (cs : List Char) : List Char :=
  if cs.head? = some '_' ∨ cs.getLast? = some '_' ∨ hasDoubleUnderscore cs then cs
  else cs.filter (· ≠ '_')

/-- The most digits of a whole number that is written as a text. -/
def maxTextDigits : Nat := 4300

/-- The number that plain digits write, without a zero in front of others. -/
def plainDigits? (cs : List Char) : Option Nat :=
  if cs.head? = some '0' ∧ 1 < cs.length ∨ cs.isEmpty ∨ maxTextDigits < cs.length then none
  else (cs.mapM asciiDigit?).map ofDigits

/-- The number that plain digits write, a minus sign in front allowed. -/
def plainInteger? : List Char → Option Int
  | '-' :: rest => (plainDigits? rest).map fun n => -(n : Int)
  | cs => (plainDigits? cs).map fun n => (n : Int)

/-- The whole number that a text without white space and plus sign writes. -/
def withoutPlus? (cs : List Char) : Option Int :=
  (dropFillers cs).bind fun cs => plainInteger? (dropUnderscores (dropZeroFraction cs))

/-- The whole number that a text writes: white space around it, one sign, zeros in front of a number
without a minus sign, single underscores and a point with zeros are fine. -/
def integerText? (s : String) : Option Int :=
  match trim isSpace s.toList with
  | '+' :: '-' :: _ => none
  | '+' :: cs => withoutPlus? cs
  | cs => withoutPlus? cs

/-- The whole number that a binary number is, below `2 ^ 63`. -/
def wholeNumber? (negative : Bool) (x : Binary) : Option Int :=
  if x.num % x.den ≠ 0 then none
  else
    let n := x.num / x.den
    if n < twoTo 63 then some (if negative then -(n : Int) else n) else none

/-- A field that holds a whole number. -/
def integer? : Json → Option Int
  | integer n => some n
  | bool b => some (if b then 1 else 0)
  | real negative coefficient exponent =>
    (Digits.mk coefficient exponent).toBinary.bind (wholeNumber? negative)
  | text s => integerText? s
  | _ => none

/-! ## Decimals -/

def decimalText? (s : String) : Option Decimal := (Decimal.read? s).filter (·.isFinite)

/-- A whole number, a truth value counting as one or zero. -/
def counted? : Json → Option Int
  | integer n => some n
  | bool b => some (if b then 1 else 0)
  | _ => none

def digit? (v : Json) : Option Nat :=
  (counted? v).bind fun n => if 0 ≤ n ∧ n ≤ 9 then some n.toNat else none

/-- The decimal with the given parts: a sign, zero for plus and one for minus, the digits of the
coefficient and a power of ten. -/
def decimalOfParts? : Json → Option Decimal
  | array [sign, array digits, exponent] => do
    let s ← counted? sign
    let e ← counted? exponent
    let ds ← digits.mapM digit?
    if s = 0 ∨ s = 1 then Decimal.withinLimits? (s = 1) (ofDigits ds) e else none
  | _ => none

/-- A field that holds a finite decimal; `ofReal` gives the layout of real numbers. -/
def decimal? (ofReal : Bool → Nat → Int → Decimal) : Json → Option Decimal
  | integer n => some (.ofInt n)
  | real negative coefficient exponent =>
    some (ofReal negative coefficient exponent) |>.filter (·.isFinite)
  | text s => decimalText? s
  | _ => none

/-! ## Dates -/

/-- An offset from universal time. -/
def isOffset : List Char → Bool
  | [] => true
  | ['Z'] | ['z'] => true
  | sign :: a :: b :: rest =>
    let minutes := match rest with
      | ':' :: more => more
      | _ => rest
    (sign = '+' || sign = '-' || sign = '−') &&
      match Calendar.Date.digits? [a, b], minutes with
      | some hours, [c, d] =>
        hours < 24 && match Calendar.Date.digits? [c, d] with
          | some ms => decide (ms < 60)
          | none => false
      | _, _ => false
  | _ => false

/-- A fraction of a second that counts as none, and an offset. -/
def isNoFraction (cs : List Char) : Bool :=
  match cs with
  | c :: rest =>
    if c = '.' ∨ c = ',' then
      let digits := rest.takeWhile fun d => (asciiDigit? d).isSome
      !digits.isEmpty && (digits.take 6).all (· = '0') && isOffset (rest.drop digits.length)
    else isOffset cs
  | [] => true

/-- Midnight with its separator, and an offset. -/
def isMidnight : List Char → Bool
  | [] => true
  | mark :: '0' :: '0' :: ':' :: '0' :: '0' :: rest =>
    (mark = 'T' || mark = 't' || mark = ' ' || mark = '_') &&
      match rest with
      | ':' :: '0' :: '0' :: more => isNoFraction more
      | _ => isOffset rest
  | _ => false

/-- The largest count that is a count of seconds; larger ones are milliseconds. -/
def maxSeconds : Nat := 20000000000

/-- The seconds of a time stamp, counted from the start of 1970, and the milliseconds beyond. -/
def stampSeconds (n : Int) : Int × Int :=
  if n.natAbs ≤ maxSeconds then (n, 0) else (n / 1000, n % 1000)

/-- The day whose midnight is so many seconds after the start of 1970, from 1600 on. -/
def midnight? (seconds : Int) : Option Calendar.Date :=
  if seconds % 86400 = 0 ∧ -11676096000 ≤ seconds then
    Calendar.Date.addDays ⟨1970, 1, 1, by decide⟩ (seconds / 86400)
  else none

/-- The day whose midnight is so many microseconds after a time stamp. -/
def stampMidnight? (n : Int) (micros : Nat) : Option Calendar.Date :=
  let (seconds, millis) := stampSeconds n
  let rest := millis * 1000 + micros
  if rest % 1000000 = 0 then midnight? (seconds + rest / 1000000) else none

/-- The sign and the digits of a number that is written with digits only. -/
def signedDigits? (cs : List Char) : Option (Bool × Nat) :=
  let signed : Bool × List Char := match cs with
    | '-' :: rest => (true, rest)
    | '+' :: rest => (false, rest)
    | _ => (false, cs)
  if signed.2.isEmpty then none
  else (signed.2.mapM asciiDigit?).map fun ds => (signed.1, ofDigits ds)

/-- The day of a time stamp in digits, milliseconds passed over. -/
def wholeStampDate? (cs : List Char) : Option Calendar.Date :=
  (signedDigits? cs).bind fun (negative, n) =>
    midnight? (stampSeconds (if negative then -(n : Int) else n)).1

/-- The day of a time stamp that is a binary number, to the nearest microsecond. -/
def binaryStampDate? (negative : Bool) (x : Binary) : Option Calendar.Date :=
  let micros := (2 * (x.num % x.den) * 1000000 + x.den) / (2 * x.den)
  let whole := x.num / x.den
  let n : Int := if negative then (if x.num % x.den = 0 then -(whole : Int) else -(whole : Int) - 1)
    else whole
  if whole < twoTo 63 then stampMidnight? n micros else none

/-- The day whose midnight a number stamps. -/
def stampDate? : Json → Option Calendar.Date
  | integer n => if n.natAbs < twoTo 63 then stampMidnight? n 0 else none
  | real negative coefficient exponent =>
    (Digits.mk coefficient exponent).toBinary.bind (binaryStampDate? negative)
  | _ => none

/-- A number that is written with a point in the way of JSON, digits alone in front of the point. -/
def pointedNumber? (cs : List Char) : Option Json :=
  let (negative, unsigned) := match cs with
    | '-' :: rest => (true, rest)
    | _ => (false, cs)
  match readNumber true negative unsigned, (spanDigits unsigned).2 with
  | some (n, []), '.' :: _ => some n
  | _, _ => none

/-- The date that a text writes, a time of midnight behind it allowed, or a time stamp of one. -/
def dateText? (s : String) : Option Calendar.Date :=
  let cs := s.toList
  let written := if isMidnight (cs.drop 10) then Calendar.Date.readIso? (cs.take 10) else none
  written <|> wholeStampDate? cs <|> (pointedNumber? cs).bind stampDate?

/-- A field that holds a date. -/
def date? : Json → Option Calendar.Date
  | text s => dateText? s
  | v => stampDate? v

/-- A field that holds a text. -/
def text? : Json → Option String
  | text s => some s
  | _ => none

end Registration.Json
