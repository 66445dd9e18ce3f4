/-!
# Punycode

Texts of any script as texts of ASCII letters, digits and hyphens. The ASCII characters come first
and keep their order, then a hyphen, then one number for each other character: how many places and
code points further it is than the one before. The numbers are written in 36 digits, least
significant first, and a bias that follows the size of the numbers keeps them short.

`decodeNumber_encodeNumber` says that a number reads back whatever stands behind it.
-/

namespace Registration.Text.Punycode

/-! ## Digits -/

/-- The character of a digit below 36: a letter, or an ASCII digit from 26 on. -/
def digitChar (d : Nat) : Char := if d < 26 then Char.ofNat (97 + d) else Char.ofNat (22 + d)

/-- The digit that a character stands for. -/
def digitValue? (c : Char) : Option Nat :=
  if 'a' ≤ c ∧ c ≤ 'z' then some (c.toNat - 97)
  else if 'A' ≤ c ∧ c ≤ 'Z' then some (c.toNat - 65)
  else if '0' ≤ c ∧ c ≤ '9' then some (c.toNat - 22)
  else none

theorem digitValue?_digitChar {d : Nat} (h : d < 36) : digitValue? (digitChar d) = some d := by
  have all : ∀ e ∈ List.range 36, digitValue? (digitChar e) = some e := by decide
  exact all d (List.mem_range.mpr h)

/-- A digit below the threshold of its place ends a number. Places are counted in steps of 36. -/
def threshold (bias place : Nat) : Nat := min (max (place - bias) 1) 26

theorem threshold_pos (bias place : Nat) : 1 ≤ threshold bias place := by
  simp only [threshold]; omega

theorem threshold_le (bias place : Nat) : threshold bias place ≤ 26 := by
  simp only [threshold]; omega

/-! ## Numbers -/

/-- The digits of a number from a place on. -/
def encodeNumber (bias place n : Nat) : List Char :=
  let t := threshold bias place
  if n < t then [digitChar n]
  else digitChar (t + (n - t) % (36 - t)) ::
    encodeNumber bias (place + 36) ((n - t) / (36 - t))
termination_by n
decreasing_by
  have h₁ := threshold_pos bias place
  have h₂ := threshold_le bias place
  exact Nat.lt_of_le_of_lt (Nat.div_le_self _ _) (by omega)

/-- Reads a number from a place on; `weight` is what a unit of that place counts. The answer is the
number and the rest of the text. -/
def decodeNumber (bias : Nat) : Nat → Nat → Nat → List Char → Option (Nat × List Char)
  | _, _, _, [] => none
  | place, weight, sum, c :: rest =>
    match digitValue? c with
    | none => none
    | some d =>
      if d < threshold bias place then some (sum + d * weight, rest)
      else decodeNumber bias (place + 36) (weight * (36 - threshold bias place))
        (sum + d * weight) rest

/-- A number reads back, and what stands behind it stays. -/
theorem decodeNumber_encodeNumber (bias place weight sum n : Nat) (rest : List Char) :
    decodeNumber bias place weight sum (encodeNumber bias place n ++ rest) =
      some (sum + n * weight, rest) := by
  induction n using Nat.strongRecOn generalizing place weight sum with
  | _ n ih =>
    have h₁ := threshold_pos bias place
    have h₂ := threshold_le bias place
    rw [encodeNumber]
    by_cases hn : n < threshold bias place
    · simp [hn, decodeNumber, digitValue?_digitChar (show n < 36 by omega)]
    · have hm : 0 < 36 - threshold bias place := by omega
      have hr := Nat.mod_lt (n - threshold bias place) hm
      have hd : threshold bias place + (n - threshold bias place) % (36 - threshold bias place) <
          36 := by omega
      have hq : (n - threshold bias place) / (36 - threshold bias place) < n :=
        Nat.lt_of_le_of_lt (Nat.div_le_self _ _) (by omega)
      have hnot : ¬ threshold bias place +
          (n - threshold bias place) % (36 - threshold bias place) < threshold bias place := by
        omega
      simp only [hn, if_false, List.cons_append, decodeNumber, digitValue?_digitChar hd, hnot,
        ih _ hq]
      have hsplit := Nat.mod_add_div (n - threshold bias place) (36 - threshold bias place)
      have hsum : threshold bias place +
            (n - threshold bias place) % (36 - threshold bias place) +
          (36 - threshold bias place) *
            ((n - threshold bias place) / (36 - threshold bias place)) = n := by omega
      have : (threshold bias place +
            (n - threshold bias place) % (36 - threshold bias place)) * weight +
          (n - threshold bias place) / (36 - threshold bias place) *
            (weight * (36 - threshold bias place)) = n * weight := by
        conv => rhs; rw [← hsum, Nat.add_mul]
        congr 1
        rw [Nat.mul_comm weight, ← Nat.mul_assoc, Nat.mul_comm (36 - threshold bias place)]
      simp only [Option.some.injEq, Prod.mk.injEq, and_true]
      omega

/-- Divides a number by 35 until it is small, counting 36 for each division. -/
def shrink (count n : Nat) : Nat × Nat :=
  if 455 < n then shrink (count + 36) (n / 35) else (count, n)
termination_by n
decreasing_by exact Nat.div_lt_self (by omega) (by omega)

/-- The bias after a number, given how many characters there are then. -/
def nextBias (isFirst : Bool) (n characters : Nat) : Nat :=
  let scaled := if isFirst then n / 700 else n / 2
  let (count, rest) := shrink 0 (scaled + scaled / characters)
  count + 36 * rest / (rest + 38)

def firstBias : Nat := 72

/-- The first code point outside ASCII. -/
def firstCode : Nat := 128

/-! ## Encoding -/

/-- A text half written: the numbers so far, the number that grows, the bias, how many characters
are written and whether only ASCII characters are. -/
structure Progress where
  written : List Char
  delta : Nat
  bias : Nat
  handled : Nat
  isFirst : Bool

/-- Passes one character of the text while those with a given code are being written. -/
def Progress.pass (code : Nat) (p : Progress) (c : Char) : Progress :=
  if c.toNat < code then { p with delta := p.delta + 1 }
  else if c.toNat = code then
    ⟨p.written ++ encodeNumber p.bias 36 p.delta, 0, nextBias p.isFirst p.delta (p.handled + 1),
      p.handled + 1, false⟩
  else p

/-- Writes the characters with the given codes, in ascending order, from a code on. -/
def Progress.writeCodes (cs : List Char) (p : Progress) (code : Nat) : List Nat → Progress
  | [] => p
  | next :: rest =>
    let start := { p with delta := p.delta + (next - code) * (p.handled + 1) }
    let done := cs.foldl (pass next) start
    writeCodes cs { done with delta := done.delta + 1 } (next + 1) rest

/-- A code, put into an ascending list that does not hold it twice. -/
def insertCode (n : Nat) : List Nat → List Nat
  | [] => [n]
  | m :: ms => if n < m then n :: m :: ms else if n = m then m :: ms else m :: insertCode n ms

/-- The character belongs to ASCII. -/
def isAscii (c : Char) : Bool := c.toNat < firstCode

/-- A text in ASCII. -/
def encode (cs : List Char) : List Char :=
  let basic := cs.filter isAscii
  let codes := ((cs.filter fun c => !isAscii c).map Char.toNat).foldr insertCode []
  let start : Progress := ⟨[], 0, firstBias, basic.length, true⟩
  let numbers := (start.writeCodes cs firstCode codes).written
  if basic.isEmpty then numbers else basic ++ '-' :: numbers

/-! ## Decoding -/

def charOfCode? (n : Nat) : Option Char :=
  if h : n.isValidChar then some (Char.ofNatAux n h) else none

/-- Reading a number takes some of the text away. -/
theorem length_of_decodeNumber {bias : Nat} :
    ∀ {place weight sum : Nat} {cs : List Char} {r : Nat × List Char},
      decodeNumber bias place weight sum cs = some r → r.2.length < cs.length
  | _, _, _, [], _, h => by simp [decodeNumber] at h
  | place, weight, sum, c :: rest, r, h => by
    rw [decodeNumber] at h
    split at h
    · simp at h
    · split at h
      · simp only [Option.some.injEq] at h
        simp [← h]
      · have := length_of_decodeNumber h
        simp only [List.length_cons]
        omega

/-- Puts characters into a text by the numbers that follow, given the bias, the place and the code
behind the last one, and whether there was none yet. -/
def insertAll (bias place code : Nat) (isFirst : Bool) (cs : List Char) (numbers : List Char) :
    Option (List Char) :=
  if numbers.isEmpty then some cs
  else
    match _found : decodeNumber bias 36 1 0 numbers with
    | none => none
    | some (n, rest) =>
      let size := cs.length + 1
      let code' := code + (place + n) / size
      let place' := (place + n) % size
      match charOfCode? code' with
      | none => none
      | some c =>
        insertAll (nextBias isFirst n size) (place' + 1) code' false (cs.insertIdx place' c) rest
termination_by numbers.length
decreasing_by exact length_of_decodeNumber _found

/-- The text that an ASCII text stands for. -/
def decode? (cs : List Char) : Option (List Char) :=
  let numbers := (cs.reverse.takeWhile (· ≠ '-')).reverse
  let basic := cs.take (cs.length - numbers.length - 1)
  insertAll firstBias 0 firstCode true basic numbers

end Registration.Text.Punycode
