import Registration.Text.Digit
import Registration.Text.Lowercase
import Registration.Text.Parts
import Registration.Web.Label

/-!
# Hosts

A host is named by an address or by a name. Names are written in lower case; one with characters
outside ASCII is written label by label in ASCII. `Host.write?` gives a host as it is sent, and none
if it is neither an address nor a name. Beside it stands the escaping of characters that a part of
a URL cannot hold.
-/

/-! ## Percent encoding

Characters that may not stand in a part of a URL are written as their bytes, each as a percent sign
and two hexadecimal digits. The parts differ in the characters they keep; the percent sign is always
kept, so that what is written in this way already stays as it is (`escape_of_kept`).
-/

namespace Registration.Web

/-! ### Escaping -/

/-- The hexadecimal digit with a value below sixteen. -/
def hexDigit (n : Nat) : Char := if n < 10 then Char.ofNat (48 + n) else Char.ofNat (55 + n)

def escapeByte (b : UInt8) : List Char := ['%', hexDigit (b.toNat / 16), hexDigit (b.toNat % 16)]

/-- A character as it is if it is kept, and its bytes escaped if it is not. -/
def escapeChar (keeps : Char → Bool) (c : Char) : List Char :=
  if keeps c then [c] else (String.utf8EncodeChar c).flatMap escapeByte

/-- A text with all characters escaped that are not kept. -/
def escape (keeps : Char → Bool) (cs : List Char) : List Char := cs.flatMap (escapeChar keeps)

@[simp] theorem escape_nil (keeps : Char → Bool) : escape keeps [] = [] := rfl

/-- A text of kept characters stays as it is. -/
theorem escape_of_kept {keeps : Char → Bool} {cs : List Char} (h : ∀ c ∈ cs, keeps c = true) :
    escape keeps cs = cs := by
  induction cs with
  | nil => rfl
  | cons c cs ih =>
    have hc := h c List.mem_cons_self
    have ih := ih fun d hd => h d (List.mem_cons_of_mem _ hd)
    simp only [escape] at ih
    simp [escape, escapeChar, hc, ih]

/-! ### What is kept -/

/-- A visible ASCII character. -/
def isVisible (c : Char) : Bool := '!' ≤ c && c ≤ '~'

def keptInFragment (c : Char) : Bool := isVisible c && c ∉ ['"', '<', '>', '\x60']

def keptInQuery (c : Char) : Bool := isVisible c && c ∉ ['"', '#', '<', '>']

def keptInPath (c : Char) : Bool := keptInQuery c && c ∉ ['?', '\x60', '\x7b', '\x7d']

def keptInUser (c : Char) : Bool :=
  keptInPath c && c ∉ ['/', ';', '=', '@', '[', '\\', ']', '^', '|']

def keptInName (c : Char) : Bool :=
  isVisible c && c ∉ ['#', '/', ':', '<', '>', '?', '@', '[', ']', '^']

/-! ## Network addresses

An address of four bytes is written as four decimal numbers with dots between them, without a zero
in front of another digit. An address of eight words is written as eight hexadecimal numbers with
colons between them; two colons may stand for a run of zeros, the last two words may be an address
of four bytes, and a zone may follow a percent sign.
-/

open Registration.Text

/-! ### Four bytes -/

/-- A number below 256. -/
def isByteText (cs : List Char) : Bool :=
  match cs.mapM asciiDigit? with
  | some ds =>
    !ds.isEmpty && ds.length ≤ 3 && (ds.head? != some 0 || ds.length == 1) && ofDigits ds < 256
  | none => false

/-- An address of four bytes. -/
def isByteAddress (cs : List Char) : Bool :=
  let parts := split (· = '.') cs
  parts.length == 4 && parts.all isByteText

/-! ### Eight words -/

def isHexDigit (c : Char) : Bool :=
  ('0' ≤ c && c ≤ '9') || ('a' ≤ c && c ≤ 'f') || ('A' ≤ c && c ≤ 'F')

/-- A number of at most sixteen bits. -/
def isWordText (cs : List Char) : Bool :=
  !cs.isEmpty && cs.length ≤ 4 && cs.all isHexDigit

/-- The words of an address, an address of four bytes at the end made two words; none if that is no
such address. -/
def plainWords? (parts : List (List Char)) : Option (List (List Char)) :=
  match parts.getLast? with
  | some last =>
    if last.contains '.' then
      if isByteAddress last then some (parts.dropLast ++ [['0'], ['0']]) else none
    else some parts
  | none => some parts

/-- The parts between colons make eight words. An empty part between others stands for those left
out, and only beside it may the first or the last part be empty. -/
def areEightWords (parts : List (List Char)) : Bool :=
  let written := parts.filter fun p => !p.isEmpty
  let gaps := ((parts.drop 1).dropLast.filter (·.isEmpty)).length
  if gaps = 0 then parts.length == 8 && parts.all isWordText
  else
    gaps == 1 && written.length < 8 && written.all isWordText &&
      (parts.head? != some [] || (parts.drop 1).head? == some []) &&
      (parts.getLast? != some [] || parts.dropLast.getLast? == some [])

/-- An address of eight words, with or without a zone. -/
def isWordAddress (cs : List Char) : Bool :=
  let address := cs.takeWhile (· ≠ '%')
  let zoned := match cs.dropWhile (· ≠ '%') with
    | _ :: zone => !zone.isEmpty && !zone.contains '%'
    | [] => true
  let parts := split (· = ':') address
  zoned && 3 ≤ parts.length &&
    match plainWords? parts with
    | some words => words.length ≤ 9 && areEightWords words
    | none => false

end Registration.Web

/-! ## Names and addresses -/

namespace Registration.Web.Host

open Registration.Text

/-- Runs of digits, with so many characters of any kind between them, can be found in the text. -/
def isLikeByteAddress (cs : List Char) : Bool :=
  let runs := split (fun c => (asciiDigit? c).isNone) cs
  let inside := (runs.map fun r => (r.length - 1) / 2).foldr (· + ·) 0
  runs.all (fun r => !r.isEmpty) && runs.length ≤ 4 && 3 ≤ runs.length - 1 + inside

/-- The text stands in square brackets. -/
def isBracketed (cs : List Char) : Bool :=
  cs.head? = some '[' && cs.getLast? = some ']' && 2 ≤ cs.length

def isDot (c : Char) : Bool := c = '.' || c = '\u3002' || c = '\uff0e' || c = '\uff61'

/-- The most characters of a name, the dot at its end aside. -/
def maxNameLength : Nat := 253

/-- A name written label by label in ASCII. -/
def asciiName? (cs : List Char) : Option (List Char) := do
  let parts := split isDot cs
  let dotted := parts.getLast? = some []
  let labels ← (if dotted then parts.dropLast else parts).mapM asciiLabel?
  let name := List.intercalate ['.'] labels
  if maxNameLength < name.length then none else pure (if dotted then name ++ ['.'] else name)

def write? (cs : List Char) : Option (List Char) :=
  let lower := lowerFrom false cs
  if cs.isEmpty then some []
  else if isLikeByteAddress cs then (if isByteAddress cs then some cs else none)
  else if isBracketed cs then
    let inner := (cs.drop 1).dropLast
    if isWordAddress inner then some inner else none
  else if cs.all Punycode.isAscii then some (escape keptInName lower)
  else asciiName? lower

end Registration.Web.Host
