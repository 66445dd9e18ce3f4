import Registration.Text.Character
import Registration.Text.Digit

/-!
# Durations

A duration is a number of seconds, written in ASCII digits with an optional sign, point and power of
ten, or one of the words for infinity and not-a-number. White space may surround it, or else single
underscores may stand inside it.
-/

namespace Registration

open Registration.Text

namespace Duration

/-- The characters are ASCII digits. -/
def areDigits (cs : List Char) : Bool := cs.all fun c => (asciiDigit? c).isSome

/-- The characters after the mark of a power of ten. -/
def isPower (cs : List Char) : Bool :=
  let digits := match cs with
    | '-' :: rest => rest
    | '+' :: rest => rest
    | _ => cs
  !digits.isEmpty && areDigits digits

/-- Digits before and after a point, or without one. -/
def isMantissa (cs : List Char) : Bool :=
  let whole := cs.takeWhile (· ≠ '.')
  let fraction := (cs.dropWhile (· ≠ '.')).drop 1
  !(whole.isEmpty && fraction.isEmpty) && areDigits whole && areDigits fraction

/-- A number without its sign. -/
def isMagnitude (cs : List Char) : Bool :=
  let isMark (c : Char) : Bool := c = 'e' || c = 'E'
  match cs.dropWhile fun c => !isMark c with
  | [] => isMantissa cs
  | _ :: power => isMantissa (cs.takeWhile fun c => !isMark c) && isPower power

/-- A word that stands for a number. -/
def isWord (cs : List Char) : Bool :=
  ["inf", "infinity", "nan"].any fun w => cs.map Char.toLower == w.toList

/-- The characters write a number of seconds. -/
def isSeconds (cs : List Char) : Bool :=
  let unsigned := match cs with
    | '-' :: rest => rest
    | '+' :: rest => rest
    | _ => cs
  isWord unsigned || isMagnitude unsigned

/-- Underscores stand alone between other characters. -/
def isGrouped : List Char → Bool
  | [] => true
  | '_' :: _ => false
  | [_] => true
  | _ :: '_' :: rest => !rest.isEmpty && isGrouped rest
  | _ :: rest => isGrouped rest

end Duration

/-- A number of seconds as written. -/
structure Duration where
  chars : List Char
  isSeconds_chars : Duration.isSeconds chars = true

namespace Duration

def ten : Duration := ⟨['1', '0', '.', '0'], by decide⟩

/-- The number of seconds that a text writes. -/
def read? (s : String) : Option Duration :=
  let bare := trim isSpace s.toList
  let ungrouped := s.toList.filter (· ≠ '_')
  if h : isSeconds bare then some ⟨bare, h⟩
  else if h : isGrouped s.toList ∧ isSeconds ungrouped then some ⟨ungrouped, h.2⟩
  else none

end Duration

end Registration
