import Registration.Number.Decimal
import Registration.Text.Digit
import Registration.Text.Quoted

/-!
# JSON values

A number keeps its kind: whole numbers are written without point or power of ten, real numbers with
one, and three words stand for the values that no digits write. An object is the list of its
members as written; a repeated key counts with its last value.
-/

namespace Registration

/-- A JSON value. -/
inductive Json where
  | null
  | bool (b : Bool)
  | integer (n : Int)
  /-- A number written with a point or a power of ten. -/
  | real (negative : Bool) (coefficient : Nat) (exponent : Int)
  | notANumber
  | infinity (negative : Bool)
  | text (s : String)
  | array (items : List Json)
  | object (members : List (String × Json))
  deriving Inhabited

namespace Json

/-- The last value of a key. -/
def lookup (key : String) (members : List (String × Json)) : Option Json :=
  (members.reverse.find? (·.1 == key)).map (·.2)

def member? (key : String) : Json → Option Json
  | object members => lookup key members
  | _ => none

end Json

end Registration

/-! ## Writing

A value is written without spaces. In texts the quote, the backslash and the control characters are
escaped, and every other character stands for itself.
-/

namespace Registration.Json

open Registration.Text

/-- One character of a text. -/
def escaped (c : Char) : List Char :=
  if c = '"' then ['\\', '"']
  else if c = '\\' then ['\\', '\\']
  else if c.toNat < 0x20 then ['\\', 'u'] ++ hexDigits 4 c.toNat
  else [c]

/-- A text between quotes. -/
def textChars (s : String) : List Char := '"' :: s.toList.flatMap escaped ++ ['"']

/-- The sign of a number that has no other. -/
def minus (negative : Bool) : List Char := if negative then ['-'] else []

mutual

def chars : Json → List Char
  | null => ['n', 'u', 'l', 'l']
  | bool true => ['t', 'r', 'u', 'e']
  | bool false => ['f', 'a', 'l', 's', 'e']
  | integer n => intDigits n
  | real negative coefficient exponent =>
    minus negative ++ natDigits coefficient ++ 'e' :: intDigits exponent
  | notANumber => ['N', 'a', 'N']
  | infinity negative => minus negative ++ ['I', 'n', 'f', 'i', 'n', 'i', 't', 'y']
  | text s => textChars s
  | array items => '[' :: itemsChars items ++ [']']
  | object members => '\x7b' :: membersChars members ++ ['\x7d']

def itemsChars : List Json → List Char
  | [] => []
  | [v] => chars v
  | v :: rest => chars v ++ ',' :: itemsChars rest

def membersChars : List (String × Json) → List Char
  | [] => []
  | [(key, v)] => textChars key ++ ':' :: chars v
  | (key, v) :: rest => textChars key ++ ':' :: chars v ++ ',' :: membersChars rest

end

/-- A value as a text. -/
def write (v : Json) : String := String.ofList v.chars

end Registration.Json
