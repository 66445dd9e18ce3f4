import Registration.Json.Writer
import Registration.Text.Digit

/-!
# Reading JSON

The reader follows the grammar to the letter: no comments, no comma before a closing bracket, no
zero before another digit, no control character inside a text. It takes the words `NaN` and
`Infinity`. Programs differ in what they take beyond the grammar and in their limits; a `Dialect`
says which of these ways is meant.

Each reading function returns the value and the rest of the text.
-/

namespace Registration.Json

open Registration.Text

/-- What is taken beyond the grammar, and the limits. -/
structure Dialect where
  /-- How deep containers with something inside may be nested. -/
  nesting : Nat
  /-- The whole part of a real number may have any number of digits, not just those of a whole
  number. -/
  longReals : Bool
  /-- An escaped half of a surrogate pair may stand alone. -/
  loneHalves : Bool

/-- Why a text could not be read. -/
inductive ReadFault where
  | malformed
  | tooDeep
  deriving DecidableEq

/-- Drops the white space in front. -/
def skipSpace (cs : List Char) : List Char :=
  cs.dropWhile fun c => c = ' ' || c = '\t' || c = '\n' || c = '\r'

/-! ## Texts -/

/-- The value of a hexadecimal digit. -/
def hexValue? (c : Char) : Option Nat :=
  if '0' ≤ c ∧ c ≤ '9' then some (c.toNat - 48)
  else if 'a' ≤ c ∧ c ≤ 'f' then some (c.toNat - 87)
  else if 'A' ≤ c ∧ c ≤ 'F' then some (c.toNat - 55)
  else none

/-- The number that four hexadecimal digits write. -/
def hexQuad? (a b c d : Char) : Option Nat := do
  some (4096 * (← hexValue? a) + 256 * (← hexValue? b) + 16 * (← hexValue? c) + (← hexValue? d))

/-- The character that an escaping letter stands for. -/
def unescape? : Char → Option Char
  | '"' => some '"'
  | '\\' => some '\\'
  | '/' => some '/'
  | 'b' => some '\x08'
  | 'f' => some '\x0c'
  | 'n' => some '\n'
  | 'r' => some '\r'
  | 't' => some '\t'
  | _ => none

/-- The first half of a pair that writes one character. -/
def isHighHalf (n : Nat) : Bool := 0xd800 ≤ n && n < 0xdc00

/-- The second half of a pair that writes one character. -/
def isLowHalf (n : Nat) : Bool := 0xdc00 ≤ n && n < 0xe000

/-- The code points of a text after its opening quote, halves of pairs as written, and what follows
the closing quote; the code points so far are in reverse. -/
def readUnits (done : List Nat) : List Char → Option (List Nat × List Char)
  | [] => none
  | '"' :: rest => some (done.reverse, rest)
  | '\\' :: 'u' :: a :: b :: c :: d :: rest =>
    match hexQuad? a b c d with
    | none => none
    | some n => readUnits (n :: done) rest
  | '\\' :: c :: rest =>
    match unescape? c with
    | none => none
    | some d => readUnits (d.toNat :: done) rest
  | c :: rest => if c.toNat < 0x20 then none else readUnits (c.toNat :: done) rest

/-- What a half that stands alone is read as: the mark of replacement, once for each byte. -/
def replacementMarks : List Char := ['\ufffd', '\ufffd', '\ufffd']

/-- The characters of code points, two halves of a pair making one. -/
def joinHalves (loneHalves : Bool) : List Nat → Option (List Char)
  | [] => some []
  | [n] =>
    if isHighHalf n || isLowHalf n then (if loneHalves then some replacementMarks else none)
    else some [Char.ofNat n]
  | n :: m :: rest =>
    if isHighHalf n && isLowHalf m then
      let joined := Char.ofNat (0x10000 + (n - 0xd800) * 0x400 + (m - 0xdc00))
      (joinHalves loneHalves rest).map (joined :: ·)
    else if isHighHalf n || isLowHalf n then
      if loneHalves then (joinHalves loneHalves (m :: rest)).map (replacementMarks ++ ·) else none
    else (joinHalves loneHalves (m :: rest)).map (Char.ofNat n :: ·)

/-- A text after its opening quote, and what follows its closing quote. -/
def readText (loneHalves : Bool) (cs : List Char) : Option (String × List Char) := do
  let (units, rest) ← readUnits [] cs
  let done ← joinHalves loneHalves units
  pure (String.ofList done, rest)

/-! ## Numbers -/

/-- The digits in front and the rest. -/
def spanDigits (cs : List Char) : List Nat × List Char :=
  ((cs.takeWhile fun c => (asciiDigit? c).isSome).filterMap asciiDigit?,
    cs.dropWhile fun c => (asciiDigit? c).isSome)

/-- The most digits of a whole number. -/
def maxDigits : Nat := 4300

/-- The digits after a point, if one stands in front. -/
def readFraction (cs : List Char) : Option (Option (List Nat) × List Char) :=
  match cs with
  | '.' :: rest =>
    let (ds, rest) := spanDigits rest
    if ds.isEmpty then none else some (some ds, rest)
  | _ => some (none, cs)

/-- The power of ten, if one stands in front. -/
def readPower (cs : List Char) : Option (Option Int × List Char) :=
  match cs with
  | c :: rest =>
    if c = 'e' ∨ c = 'E' then
      let signed : Bool × List Char := match rest with
        | '-' :: r => (true, r)
        | '+' :: r => (false, r)
        | _ => (false, rest)
      let (ds, rest) := spanDigits signed.2
      if ds.isEmpty then none
      else some (some (if signed.1 then -(ofDigits ds : Int) else ofDigits ds), rest)
    else some (none, cs)
  | [] => some (none, cs)

/-- A number without its sign. -/
def readNumber (longReals negative : Bool) (cs : List Char) : Option (Json × List Char) := do
  let (whole, rest) := spanDigits cs
  let (whole, rest) := match whole, cs with
    | 0 :: _, _ :: r => ([0], r)
    | _, _ => (whole, rest)
  if whole.isEmpty then none
  else
    let (fraction, rest) ← readFraction rest
    let (power, rest) ← readPower rest
    let isWhole := fraction.isNone && power.isNone
    if maxDigits < whole.length && (isWhole || !longReals) then none
    else if isWhole then
      let n : Int := ofDigits whole
      some (integer (if negative then -n else n), rest)
    else
      let fraction := fraction.getD []
      some (real negative (ofDigits (whole ++ fraction)) (power.getD 0 - fraction.length), rest)

/-! ## Values -/

/-- A value that is written as a word. -/
def readWord (cs : List Char) : Option (Json × List Char) :=
  match cs with
  | 'n' :: 'u' :: 'l' :: 'l' :: rest => some (null, rest)
  | 't' :: 'r' :: 'u' :: 'e' :: rest => some (bool true, rest)
  | 'f' :: 'a' :: 'l' :: 's' :: 'e' :: rest => some (bool false, rest)
  | 'N' :: 'a' :: 'N' :: rest => some (notANumber, rest)
  | 'I' :: 'n' :: 'f' :: 'i' :: 'n' :: 'i' :: 't' :: 'y' :: rest => some (infinity false, rest)
  | '-' :: 'I' :: 'n' :: 'f' :: 'i' :: 'n' :: 'i' :: 't' :: 'y' :: rest =>
    some (infinity true, rest)
  | _ => none

/-- A reading that fails for no other reason than the grammar. -/
def orMalformed {α : Type} : Option α → Except ReadFault α
  | some a => .ok a
  | none => .error .malformed

mutual

/-- Reads one value. `fuel` bounds the steps and `depth` the nesting. -/
def readValue (d : Dialect) (fuel depth : Nat) (cs : List Char) :
    Except ReadFault (Json × List Char) :=
  match fuel with
  | 0 => .error .malformed
  | fuel + 1 =>
    match cs with
    | '"' :: rest => orMalformed ((readText d.loneHalves rest).map fun (s, r) => (text s, r))
    | '[' :: rest =>
      match skipSpace rest, depth with
      | ']' :: r, _ => .ok (array [], r)
      | _, 0 => .error .tooDeep
      | r, depth + 1 => (readItems d fuel depth r).map fun (vs, r) => (array vs, r)
    | '\x7b' :: rest =>
      match skipSpace rest, depth with
      | '\x7d' :: r, _ => .ok (object [], r)
      | _, 0 => .error .tooDeep
      | r, depth + 1 => (readMembers d fuel depth r).map fun (ms, r) => (object ms, r)
    | _ =>
      match readWord cs with
      | some found => .ok found
      | none =>
        match cs with
        | '-' :: rest => orMalformed (readNumber d.longReals true rest)
        | _ => orMalformed (readNumber d.longReals false cs)

/-- Reads the items of an array up to its closing bracket. -/
def readItems (d : Dialect) (fuel depth : Nat) (cs : List Char) :
    Except ReadFault (List Json × List Char) :=
  match fuel with
  | 0 => .error .malformed
  | fuel + 1 =>
    match readValue d fuel depth cs with
    | .error fault => .error fault
    | .ok (v, rest) =>
      match skipSpace rest with
      | ']' :: r => .ok ([v], r)
      | ',' :: r => (readItems d fuel depth (skipSpace r)).map fun (vs, r) => (v :: vs, r)
      | _ => .error .malformed

/-- Reads the members of an object up to its closing brace. -/
def readMembers (d : Dialect) (fuel depth : Nat) (cs : List Char) :
    Except ReadFault (List (String × Json) × List Char) :=
  match fuel with
  | 0 => .error .malformed
  | fuel + 1 =>
    match cs with
    | '"' :: rest =>
      match readText d.loneHalves rest with
      | none => .error .malformed
      | some (key, rest) =>
        match skipSpace rest with
        | ':' :: rest =>
          match readValue d fuel depth (skipSpace rest) with
          | .error fault => .error fault
          | .ok (v, rest) =>
            match skipSpace rest with
            | '\x7d' :: r => .ok ([(key, v)], r)
            | ',' :: r =>
              (readMembers d fuel depth (skipSpace r)).map fun (ms, r) => ((key, v) :: ms, r)
            | _ => .error .malformed
        | _ => .error .malformed
    | _ => .error .malformed

end

/-- Reads a text that holds one value. -/
def read (d : Dialect) (s : String) : Except ReadFault Json :=
  let cs := skipSpace s.toList
  match readValue d (2 * cs.length + 2) d.nesting cs with
  | .ok (v, rest) => if (skipSpace rest).isEmpty then .ok v else .error .malformed
  | .error fault => .error fault

end Registration.Json
