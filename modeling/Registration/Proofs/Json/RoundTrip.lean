import Mathlib.Data.List.Basic
import Mathlib.Data.List.TakeWhile
import Registration.Json.Reader
import Registration.Json.Writer
import Registration.Proofs.Text.Digit

/-!
# JSON read back

What is written is read back as it was, in every dialect whose limits it keeps (`read_write`). The
reader is followed along the value: each part is read up to the character that ends it, which is
never one that a number could go on with (`Stops`), and each step of reading is paid for by a
character of the text.
-/

namespace Registration.Json

open Registration.Text

variable {d : Dialect} {rest : List Char}

/-! ## Texts -/

theorem hexValue?_hexDigit {n : Nat} (h : n < 16) : hexValue? (hexDigit n) = some n :=
  (by decide : ∀ n < 16, hexValue? (hexDigit n) = some n) n h

/-- An escaped or plain character is read as its code point. -/
theorem readUnits_escaped (done : List Nat) (c : Char) (rest : List Char) :
    readUnits done (escaped c ++ rest) = readUnits (c.toNat :: done) rest := by
  by_cases hquote : c = '"'
  · subst hquote
    simp [escaped, readUnits, unescape?]
  by_cases hbackslash : c = '\\'
  · subst hbackslash
    simp [escaped, readUnits, unescape?]
  by_cases hcontrol : c.toNat < 0x20
  · have hdigits : hexDigits 4 c.toNat = [hexDigit (c.toNat / 16 / 16 / 16 % 16),
      hexDigit (c.toNat / 16 / 16 % 16), hexDigit (c.toNat / 16 % 16), hexDigit (c.toNat % 16)] :=
      rfl
    have hvalue : hexQuad? (hexDigit (c.toNat / 16 / 16 / 16 % 16))
        (hexDigit (c.toNat / 16 / 16 % 16)) (hexDigit (c.toNat / 16 % 16))
        (hexDigit (c.toNat % 16)) = some c.toNat := by
      simp only [hexQuad?, hexValue?_hexDigit (Nat.mod_lt _ (by decide : 0 < 16)),
        Option.bind_eq_bind, Option.bind_some]
      exact congrArg some (by omega)
    simp [escaped, hquote, hbackslash, hcontrol, hdigits, readUnits, hvalue]
  · simp [escaped, hquote, hbackslash, hcontrol, readUnits]

theorem readUnits_flatMap_escaped (done : List Nat) (cs rest : List Char) :
    readUnits done (cs.flatMap escaped ++ '"' :: rest) =
      some (done.reverse ++ cs.map Char.toNat, rest) := by
  induction cs generalizing done with
  | nil => simp [readUnits]
  | cons c cs ih =>
    rw [List.flatMap_cons, List.append_assoc, readUnits_escaped, ih]
    simp

/-- No character is half of a pair. -/
theorem joinHalves_map_toNat (loneHalves : Bool) (cs : List Char) :
    joinHalves loneHalves (cs.map Char.toNat) = some cs := by
  have hwhole : ∀ c : Char, isHighHalf c.toNat = false ∧ isLowHalf c.toNat = false := fun c => by
    have hvalid : c.toNat < 0xd800 ∨ 0xdfff < c.toNat ∧ c.toNat < 0x110000 := c.valid
    simp only [isHighHalf, isLowHalf, Bool.and_eq_false_iff, decide_eq_false_iff_not]
    omega
  induction cs with
  | nil => rfl
  | cons c cs ih =>
    cases cs with
    | nil => simp [joinHalves, hwhole c]
    | cons c' cs' =>
      simp only [List.map_cons] at ih ⊢
      simp [joinHalves, hwhole c, ih]

theorem readText_escaped (loneHalves : Bool) (s : String) (rest : List Char) :
    readText loneHalves (s.toList.flatMap escaped ++ '"' :: rest) = some (s, rest) := by
  simp [readText, readUnits_flatMap_escaped, joinHalves_map_toNat]

/-! ## Numbers -/

/-- What follows a value: nothing, or a character that ends it. -/
def Stops (cs : List Char) : Prop := ∀ c ∈ cs.head?, c = ',' ∨ c = ']' ∨ c = '\x7d'

theorem Stops.cons {c : Char} (h : c = ',' ∨ c = ']' ∨ c = '\x7d') (cs : List Char) :
    Stops (c :: cs) := by
  rintro _ ⟨⟩
  exact h

/-- No digit stands in front. -/
def EndsDigits (cs : List Char) : Prop := ∀ c ∈ cs.head?, asciiDigit? c = none

theorem Stops.endsDigits (h : Stops rest) : EndsDigits rest := fun c hc => by
  rcases h c hc with rfl | rfl | rfl <;> rfl

theorem spanDigits_append {ds : List Nat} (hds : ∀ n ∈ ds, n < 10) (hrest : EndsDigits rest) :
    spanDigits (ds.map digitChar ++ rest) = (ds, rest) := by
  have hdigits : ∀ c ∈ ds.map digitChar, (asciiDigit? c).isSome = true := fun c hc =>
    (isDigit_of_mem_map hds hc).isSome
  have hend : rest.takeWhile (fun c => (asciiDigit? c).isSome) = [] ∧
      rest.dropWhile (fun c => (asciiDigit? c).isSome) = rest := by
    cases rest with
    | nil => exact ⟨rfl, rfl⟩
    | cons c cs => simp [hrest c rfl]
  have hvalues : (ds.map digitChar).filterMap asciiDigit? = ds := by
    rw [List.filterMap_map]
    exact (List.filterMap_congr fun n hn => asciiDigit?_digitChar (hds n hn)).trans
      List.filterMap_some
  rw [spanDigits, List.takeWhile_append_of_pos hdigits, List.dropWhile_append_of_pos hdigits,
    hend.1, hend.2, List.append_nil, hvalues]

theorem spanDigits_natDigits (n : Nat) (hrest : EndsDigits rest) :
    spanDigits (natDigits n ++ rest) = (digitValues n, rest) := by
  rw [natDigits_eq]
  exact spanDigits_append (fun _ => lt_of_mem_digitValues) hrest

/-- The number with these digits and this power of ten. -/
def ofPower (negative : Bool) (n : Nat) : Option Int → Json
  | none => integer (if negative then -n else n)
  | some e => real negative n e

/-- The digits of a number, with what follows them read as its power of ten. -/
theorem readNumber_natDigits {longReals negative : Bool} {n : Nat} {power : Option Int}
    {rest' : List Char} (hrest : EndsDigits rest)
    (hfraction : readFraction rest = some (none, rest))
    (hpower : readPower rest = some (power, rest'))
    (hlimit : (natDigits n).length ≤ maxDigits ∨ power.isSome = true ∧ longReals = true) :
    readNumber longReals negative (natDigits n ++ rest) =
      some (ofPower negative n power, rest') := by
  -- a zero in front is the only digit
  have hwhole : ∀ ds c r, digitValues n = 0 :: ds → natDigits n ++ rest = c :: r →
      digitValues n = [0] ∧ r = rest := by
    intro ds c r hds hcs
    obtain ⟨-, rfl⟩ := eq_zero_of_digitValues hds
    rw [natDigits_eq, hds] at hcs
    exact ⟨hds, (List.cons.inj hcs).2.symm⟩
  have hfits : (decide (maxDigits < (digitValues n).length) && (power.isNone || !longReals)) =
      false := by
    rw [length_natDigits] at hlimit
    rcases hlimit with hshort | ⟨hpower, hreals⟩
    · rw [decide_eq_false (Nat.not_lt.mpr hshort), Bool.false_and]
    · rw [Option.isNone_eq_false_iff.mpr hpower, hreals]
      simp
  unfold readNumber
  rw [spanDigits_natDigits n hrest]
  dsimp only
  split
  · rename_i ds c r hds hcs
    obtain ⟨hzero, rfl⟩ := hwhole ds c r hds hcs
    rw [← hzero]
    simp only [hfraction, hpower, Option.bind_eq_bind, Option.bind_some, Option.isNone_none,
      Bool.true_and, hfits]
    cases power <;> simp [ofPower, digitValues_ne_nil]
  · simp only [hfraction, hpower, Option.bind_eq_bind, Option.bind_some, Option.isNone_none,
      Bool.true_and, hfits]
    cases power <;> simp [ofPower, digitValues_ne_nil]

/-- A sign or a digit in front of a number. -/
theorem exists_intDigits_eq (n : Int) :
    ∃ c cs, intDigits n = c :: cs ∧ (c = '-' ∨ IsDigit c) := by
  cases n with
  | negSucc n => exact ⟨'-', _, rfl, .inl rfl⟩
  | ofNat n =>
    obtain ⟨c, cs, hcs, hdigit⟩ := exists_natDigits_eq n
    exact ⟨c, cs, hcs, .inr hdigit⟩

theorem Stops.readFraction_eq (h : Stops rest) : readFraction rest = some (none, rest) := by
  unfold readFraction
  split
  · exact absurd (h '.' rfl) (by decide)
  · rfl

theorem Stops.readPower_eq (h : Stops rest) : readPower rest = some (none, rest) := by
  cases rest with
  | nil => rfl
  | cons c cs =>
    have hmark : ¬ (c = 'e' ∨ c = 'E') := by
      rcases h c rfl with rfl | rfl | rfl <;> decide
    simp only [readPower, if_neg hmark]

theorem readPower_intDigits (e : Int) (h : Stops rest) :
    readPower ('e' :: (intDigits e ++ rest)) = some (some e, rest) := by
  cases e with
  | negSucc n =>
    simp [readPower, intDigits, spanDigits_natDigits _ h.endsDigits, digitValues_ne_nil]
    omega
  | ofNat n =>
    obtain ⟨c, cs, hcs, hdigit⟩ := exists_natDigits_eq n
    have hspan := spanDigits_natDigits n h.endsDigits
    have hminus : c ≠ '-' := hdigit.ne rfl
    have hplus : c ≠ '+' := hdigit.ne rfl
    rw [hcs, List.cons_append] at hspan
    simp [readPower, intDigits, hcs, hminus, hplus, hspan, digitValues_ne_nil]

/-! ## Beginnings -/

theorem skipSpace_cons {c : Char} (h : c ∉ [' ', '\t', '\n', '\r']) (cs : List Char) :
    skipSpace (c :: cs) = c :: cs := by
  simp only [List.mem_cons, List.not_mem_nil, or_false, not_or] at h
  simp [skipSpace, h]

/-- What a value begins with is neither a space nor the end of an array or object. -/
def Opens (c : Char) : Prop := c ∉ [' ', '\t', '\n', '\r'] ∧ c ≠ ']' ∧ c ≠ '\x7d'

theorem opens_of_digit {c : Char} (h : IsDigit c) : Opens c := by
  refine ⟨fun hspace => ?_, h.ne rfl, h.ne rfl⟩
  simp only [List.mem_cons, List.not_mem_nil, or_false] at hspace
  rcases hspace with hspace | hspace | hspace | hspace <;> exact h.ne rfl hspace

theorem exists_chars_eq (v : Json) : ∃ c cs, v.chars = c :: cs ∧ Opens c := by
  cases v with
  | null => exact ⟨'n', _, by rw [chars], by simp [Opens]⟩
  | bool b => cases b with
    | true => exact ⟨'t', _, by rw [chars], by simp [Opens]⟩
    | false => exact ⟨'f', _, by rw [chars], by simp [Opens]⟩
  | integer n =>
    obtain ⟨c, cs, hcs, rfl | hdigit⟩ := exists_intDigits_eq n
    · exact ⟨'-', cs, by rw [chars, hcs], by simp [Opens]⟩
    · exact ⟨c, cs, by rw [chars, hcs], opens_of_digit hdigit⟩
  | real negative coefficient exponent =>
    obtain ⟨c, cs, hcs, hdigit⟩ := exists_natDigits_eq coefficient
    cases negative with
    | true => exact ⟨'-', _, by rw [chars]; rfl, by simp [Opens]⟩
    | false => exact ⟨c, _, by rw [chars, hcs]; rfl, opens_of_digit hdigit⟩
  | notANumber => exact ⟨'N', _, by rw [chars], by simp [Opens]⟩
  | infinity negative => cases negative with
    | true => exact ⟨'-', _, by rw [chars]; rfl, by simp [Opens]⟩
    | false => exact ⟨'I', _, by rw [chars]; rfl, by simp [Opens]⟩
  | text s => exact ⟨'"', _, by rw [chars]; rfl, by simp [Opens]⟩
  | array items => exact ⟨'[', _, by rw [chars]; rfl, by simp [Opens]⟩
  | object members => exact ⟨'\x7b', _, by rw [chars]; rfl, by simp [Opens]⟩

theorem skipSpace_chars (v : Json) (rest : List Char) :
    skipSpace (v.chars ++ rest) = v.chars ++ rest := by
  obtain ⟨c, cs, hcs, hopens⟩ := exists_chars_eq v
  rw [hcs, List.cons_append, skipSpace_cons hopens.1]

/-! ## Numbers as values -/

theorem readWord_of_digit {c : Char} (h : IsDigit c) (cs : List Char) :
    readWord (c :: cs) = none ∧ readWord ('-' :: c :: cs) = none := by
  have hne : c ≠ 'n' ∧ c ≠ 't' ∧ c ≠ 'f' ∧ c ≠ 'N' ∧ c ≠ 'I' ∧ c ≠ '-' :=
    ⟨h.ne rfl, h.ne rfl, h.ne rfl, h.ne rfl, h.ne rfl, h.ne rfl⟩
  constructor <;> simp [readWord, hne]

/-- What begins with digits, or with a sign and digits, is read as a number. -/
theorem readValue_natDigits (fuel depth : Nat) (negative : Bool) (n : Nat) (rest : List Char) :
    readValue d (fuel + 1) depth (minus negative ++ (natDigits n ++ rest)) =
      orMalformed (readNumber d.longReals negative (natDigits n ++ rest)) := by
  obtain ⟨c, cs, hcs, hdigit⟩ := exists_natDigits_eq n
  obtain ⟨hword, hword'⟩ := readWord_of_digit hdigit (cs ++ rest)
  have hne : c ≠ '"' ∧ c ≠ '[' ∧ c ≠ '\x7b' ∧ c ≠ '-' :=
    ⟨hdigit.ne rfl, hdigit.ne rfl, hdigit.ne rfl, hdigit.ne rfl⟩
  rw [hcs, List.cons_append]
  cases negative with
  | true => simp [minus, readValue, hword']
  | false => simp [minus, readValue, hne, hword]

/-- A number without power of ten is read up to what ends it. -/
theorem readNumber_integer (longReals negative : Bool) {n : Nat}
    (hlimit : (natDigits n).length ≤ maxDigits) (hrest : Stops rest) :
    readNumber longReals negative (natDigits n ++ rest) =
      some (integer (if negative then -n else n), rest) :=
  readNumber_natDigits hrest.endsDigits hrest.readFraction_eq hrest.readPower_eq (.inl hlimit)

/-- A number with a power of ten is read up to what ends it. -/
theorem readNumber_real {longReals negative : Bool} {coefficient : Nat} {exponent : Int}
    (hlimit : (natDigits coefficient).length ≤ maxDigits ∨ longReals = true) (hrest : Stops rest) :
    readNumber longReals negative (natDigits coefficient ++ 'e' :: (intDigits exponent ++ rest)) =
      some (real negative coefficient exponent, rest) := by
  have hdigits : EndsDigits ('e' :: (intDigits exponent ++ rest)) := by
    rintro _ ⟨⟩
    rfl
  exact readNumber_natDigits hdigits rfl (readPower_intDigits exponent hrest)
    (hlimit.imp_right fun hreals => ⟨rfl, hreals⟩)

/-! ## Values -/

/-- A value that a dialect can read: numbers have no more digits than it takes, and arrays and
objects are nested no deeper than a given depth. -/
inductive Legible (d : Dialect) : Nat → Json → Prop
  | null {depth : Nat} : Legible d depth null
  | bool {depth : Nat} (b : Bool) : Legible d depth (bool b)
  | integer {depth : Nat} {n : Int} (hlimit : (natDigits n.natAbs).length ≤ maxDigits) :
    Legible d depth (integer n)
  | real {depth : Nat} (negative : Bool) {coefficient : Nat} (exponent : Int)
    (hlimit : (natDigits coefficient).length ≤ maxDigits ∨ d.longReals = true) :
    Legible d depth (real negative coefficient exponent)
  | notANumber {depth : Nat} : Legible d depth notANumber
  | infinity {depth : Nat} (negative : Bool) : Legible d depth (infinity negative)
  | text {depth : Nat} (s : String) : Legible d depth (text s)
  | array {depth : Nat} {items : List Json} (hitems : ∀ v ∈ items, Legible d depth v) :
    Legible d (depth + 1) (array items)
  | object {depth : Nat} {members : List (String × Json)}
    (hmembers : ∀ m ∈ members, Legible d depth m.2) : Legible d (depth + 1) (object members)

/-- In front of anything that ends it, the text of the value is read as the value. -/
def ReadsBack (d : Dialect) (depth : Nat) (v : Json) : Prop :=
  ∀ fuel rest, 2 * v.chars.length ≤ fuel → Stops rest →
    readValue d fuel depth (v.chars ++ rest) = .ok (v, rest)

theorem itemsChars_cons_cons (v w : Json) (items : List Json) :
    itemsChars (v :: w :: items) = v.chars ++ ',' :: itemsChars (w :: items) := by
  rw [itemsChars]
  exact List.cons_ne_nil w items

/-- The first item stands in front. -/
theorem exists_itemsChars_eq (v : Json) (items : List Json) :
    ∃ cs, itemsChars (v :: items) = v.chars ++ cs := by
  cases items with
  | nil => exact ⟨[], by rw [itemsChars, List.append_nil]⟩
  | cons w items => exact ⟨_, itemsChars_cons_cons v w items⟩

theorem skipSpace_itemsChars (v : Json) (items : List Json) (rest : List Char) :
    skipSpace (itemsChars (v :: items) ++ rest) = itemsChars (v :: items) ++ rest := by
  obtain ⟨cs, hcs⟩ := exists_itemsChars_eq v items
  rw [hcs, List.append_assoc, skipSpace_chars]

theorem readItems_itemsChars {depth : Nat} {v : Json} {items : List Json}
    (hitems : ∀ w ∈ v :: items, ReadsBack d depth w) {fuel : Nat}
    (hfuel : 2 * (itemsChars (v :: items)).length < fuel) (rest : List Char) :
    readItems d fuel depth (itemsChars (v :: items) ++ ']' :: rest) = .ok (v :: items, rest) := by
  induction items generalizing v fuel with
  | nil =>
    obtain ⟨fuel, rfl⟩ := Nat.exists_eq_add_one_of_ne_zero (Nat.ne_zero_of_lt hfuel)
    rw [itemsChars] at hfuel ⊢
    rw [readItems, hitems v List.mem_cons_self _ _ (by omega) (Stops.cons (by decide) _)]
    dsimp only
    rw [skipSpace_cons (by decide)]
    rfl
  | cons w items ih =>
    obtain ⟨fuel, rfl⟩ := Nat.exists_eq_add_one_of_ne_zero (Nat.ne_zero_of_lt hfuel)
    obtain ⟨hv, hitems⟩ := List.forall_mem_cons.mp hitems
    rw [itemsChars_cons_cons] at hfuel ⊢
    rw [List.length_append, List.length_cons] at hfuel
    rw [List.append_assoc, List.cons_append, readItems,
      hv _ _ (by omega) (Stops.cons (by decide) _)]
    dsimp only
    rw [skipSpace_cons (by decide)]
    show (readItems d fuel depth (skipSpace (itemsChars (w :: items) ++ ']' :: rest))).map _ = _
    rw [skipSpace_itemsChars, ih hitems (by omega)]
    rfl

/-! ### Members -/

theorem membersChars_cons_cons (m n : String × Json) (members : List (String × Json)) :
    membersChars (m :: n :: members) =
      textChars m.1 ++ ':' :: m.2.chars ++ ',' :: membersChars (n :: members) := by
  rw [membersChars]
  exact List.cons_ne_nil n members

theorem exists_membersChars_eq (m : String × Json) (members : List (String × Json)) :
    ∃ cs, membersChars (m :: members) = '"' :: cs := by
  cases members with
  | nil => exact ⟨_, by rw [membersChars, textChars]; rfl⟩
  | cons n members => exact ⟨_, by rw [membersChars_cons_cons, textChars]; rfl⟩

theorem skipSpace_membersChars (m : String × Json) (members : List (String × Json))
    (rest : List Char) :
    skipSpace (membersChars (m :: members) ++ rest) = membersChars (m :: members) ++ rest := by
  obtain ⟨cs, hcs⟩ := exists_membersChars_eq m members
  rw [hcs, List.cons_append, skipSpace_cons (by decide)]

theorem readText_textChars (loneHalves : Bool) (s : String) (rest : List Char) :
    ∃ cs, textChars s ++ rest = '"' :: cs ∧ readText loneHalves cs = some (s, rest) := by
  refine ⟨s.toList.flatMap escaped ++ '"' :: rest, ?_, readText_escaped loneHalves s rest⟩
  simp [textChars]

/-- What a member and the text behind it come to: the end of the object, or further members. -/
def afterMember (d : Dialect) (fuel depth : Nat) (m : String × Json) (rest : List Char) :
    Except ReadFault (List (String × Json) × List Char) :=
  match skipSpace rest with
  | '\x7d' :: r => .ok ([m], r)
  | ',' :: r => (readMembers d fuel depth (skipSpace r)).map fun (ms, r) => (m :: ms, r)
  | _ => .error .malformed

/-- One member is read up to what follows it. -/
theorem readMembers_member {depth : Nat} {m : String × Json} (hm : ReadsBack d depth m.2)
    {fuel : Nat} (hfuel : 2 * m.2.chars.length ≤ fuel) (hrest : Stops rest) :
    readMembers d (fuel + 1) depth (textChars m.1 ++ ':' :: (m.2.chars ++ rest)) =
      afterMember d fuel depth m rest := by
  obtain ⟨cs, hcs, hkey⟩ := readText_textChars d.loneHalves m.1 (':' :: (m.2.chars ++ rest))
  have hcolon : skipSpace (':' :: (m.2.chars ++ rest)) = ':' :: (m.2.chars ++ rest) :=
    skipSpace_cons (by decide) _
  rw [hcs, readMembers]
  simp only [hkey, hcolon, skipSpace_chars, hm fuel rest hfuel hrest]
  rfl

theorem readMembers_membersChars {depth : Nat} {m : String × Json}
    {members : List (String × Json)} (hmembers : ∀ n ∈ m :: members, ReadsBack d depth n.2)
    {fuel : Nat} (hfuel : 2 * (membersChars (m :: members)).length < fuel) (rest : List Char) :
    readMembers d fuel depth (membersChars (m :: members) ++ '\x7d' :: rest) =
      .ok (m :: members, rest) := by
  induction members generalizing m fuel with
  | nil =>
    obtain ⟨fuel, rfl⟩ := Nat.exists_eq_add_one_of_ne_zero (Nat.ne_zero_of_lt hfuel)
    rw [membersChars] at hfuel ⊢
    rw [List.length_append, List.length_cons] at hfuel
    rw [List.append_assoc, List.cons_append, readMembers_member (hmembers m List.mem_cons_self)
      (by omega) (Stops.cons (by decide) _), afterMember, skipSpace_cons (by decide)]
    rfl
  | cons n members ih =>
    obtain ⟨fuel, rfl⟩ := Nat.exists_eq_add_one_of_ne_zero (Nat.ne_zero_of_lt hfuel)
    obtain ⟨hm, hmembers⟩ := List.forall_mem_cons.mp hmembers
    rw [membersChars_cons_cons] at hfuel ⊢
    simp only [List.length_append, List.length_cons] at hfuel
    simp only [List.append_assoc, List.cons_append]
    rw [readMembers_member hm (by omega) (Stops.cons (by decide) _), afterMember,
      skipSpace_cons (by decide)]
    show (readMembers d fuel depth
      (skipSpace (membersChars (n :: members) ++ '\x7d' :: rest))).map _ = _
    rw [skipSpace_membersChars, ih hmembers (by omega)]
    rfl

/-! ### Whole values -/

theorem readValue_bracket (fuel depth : Nat) {c : Char} (h : Opens c) (cs : List Char) :
    readValue d (fuel + 1) (depth + 1) ('[' :: c :: cs) =
      (readItems d fuel depth (c :: cs)).map fun (vs, r) => (array vs, r) := by
  simp [readValue, skipSpace_cons h.1, h.2.1]

theorem readValue_brace (fuel depth : Nat) {c : Char} (h : Opens c) (cs : List Char) :
    readValue d (fuel + 1) (depth + 1) ('\x7b' :: c :: cs) =
      (readMembers d fuel depth (c :: cs)).map fun (ms, r) => (object ms, r) := by
  simp [readValue, skipSpace_cons h.1, h.2.2]

/-- Every value takes a step to read. -/
theorem readsBack_of_step {depth : Nat} {v : Json}
    (h : ∀ fuel rest, 2 * v.chars.length ≤ fuel + 1 → Stops rest →
      readValue d (fuel + 1) depth (v.chars ++ rest) = .ok (v, rest)) : ReadsBack d depth v := by
  intro fuel rest hfuel hrest
  obtain ⟨c, cs, hcs, -⟩ := exists_chars_eq v
  have hsome : fuel ≠ 0 := by
    rw [hcs, List.length_cons] at hfuel
    omega
  obtain ⟨fuel, rfl⟩ := Nat.exists_eq_add_one_of_ne_zero hsome
  exact h fuel rest hfuel hrest

theorem readsBack_integer {depth : Nat} {n : Int}
    (hlimit : (natDigits n.natAbs).length ≤ maxDigits) : ReadsBack d depth (integer n) := by
  refine readsBack_of_step fun fuel rest _ hrest => ?_
  rw [chars]
  cases n with
  | ofNat n =>
    have hshort : (natDigits n).length ≤ maxDigits := hlimit
    have hread := readValue_natDigits (d := d) fuel depth false n rest
    rw [readNumber_integer d.longReals false hshort hrest] at hread
    exact hread
  | negSucc n =>
    have hshort : (natDigits (n + 1)).length ≤ maxDigits := hlimit
    have hread := readValue_natDigits (d := d) fuel depth true (n + 1) rest
    rw [readNumber_integer d.longReals true hshort hrest] at hread
    exact hread

theorem readsBack_real {depth : Nat} (negative : Bool) {coefficient : Nat} (exponent : Int)
    (hlimit : (natDigits coefficient).length ≤ maxDigits ∨ d.longReals = true) :
    ReadsBack d depth (real negative coefficient exponent) := by
  refine readsBack_of_step fun fuel rest _ hrest => ?_
  rw [chars, List.append_assoc, List.append_assoc, List.cons_append, readValue_natDigits,
    readNumber_real hlimit hrest]
  rfl

theorem readsBack_text {depth : Nat} (s : String) : ReadsBack d depth (text s) := by
  refine readsBack_of_step fun fuel rest _ _ => ?_
  obtain ⟨cs, hcs, hread⟩ := readText_textChars d.loneHalves s rest
  rw [chars, hcs, readValue, hread]
  rfl

theorem readsBack_array {depth : Nat} {items : List Json}
    (hitems : ∀ v ∈ items, ReadsBack d depth v) : ReadsBack d (depth + 1) (array items) := by
  refine readsBack_of_step fun fuel rest hfuel _ => ?_
  cases items with
  | nil => rw [chars]; rfl
  | cons v items =>
    obtain ⟨cs, hcs⟩ := exists_itemsChars_eq v items
    obtain ⟨c, cs', hcs', hopens⟩ := exists_chars_eq v
    have hsplit : (array (v :: items)).chars ++ rest =
        '[' :: (itemsChars (v :: items) ++ ']' :: rest) := by simp [chars]
    have hlength : (array (v :: items)).chars.length = (itemsChars (v :: items)).length + 2 := by
      simp [chars]
    have hread : readItems d fuel depth (itemsChars (v :: items) ++ ']' :: rest) = _ :=
      readItems_itemsChars hitems (by omega) rest
    rw [hcs, hcs'] at hread
    rw [hsplit, hcs, hcs']
    simp only [List.cons_append] at hread ⊢
    rw [readValue_bracket fuel depth hopens, hread]
    rfl

theorem readsBack_object {depth : Nat} {members : List (String × Json)}
    (hmembers : ∀ m ∈ members, ReadsBack d depth m.2) :
    ReadsBack d (depth + 1) (object members) := by
  refine readsBack_of_step fun fuel rest hfuel _ => ?_
  cases members with
  | nil => rw [chars]; rfl
  | cons m members =>
    obtain ⟨cs, hcs⟩ := exists_membersChars_eq m members
    have hsplit : (object (m :: members)).chars ++ rest =
        '\x7b' :: (membersChars (m :: members) ++ '\x7d' :: rest) := by simp [chars]
    have hlength : (object (m :: members)).chars.length =
        (membersChars (m :: members)).length + 2 := by
      simp [chars]
    have hread : readMembers d fuel depth (membersChars (m :: members) ++ '\x7d' :: rest) = _ :=
      readMembers_membersChars hmembers (by omega) rest
    rw [hcs] at hread
    rw [hsplit, hcs]
    simp only [List.cons_append] at hread ⊢
    rw [readValue_brace fuel depth (by simp [Opens]), hread]
    rfl

theorem Legible.readsBack {depth : Nat} {v : Json} (h : Legible d depth v) :
    ReadsBack d depth v := by
  induction h with
  | null => exact readsBack_of_step fun _ _ _ _ => by rw [chars]; rfl
  | bool b => cases b <;> exact readsBack_of_step fun _ _ _ _ => by rw [chars]; rfl
  | integer hlimit => exact readsBack_integer hlimit
  | real negative exponent hlimit => exact readsBack_real negative exponent hlimit
  | notANumber => exact readsBack_of_step fun _ _ _ _ => by rw [chars]; rfl
  | infinity negative =>
    cases negative <;> exact readsBack_of_step fun _ _ _ _ => by rw [chars]; rfl
  | text s => exact readsBack_text s
  | array _ ih => exact readsBack_array ih
  | object _ ih => exact readsBack_object ih

/-- What is written is read back. -/
theorem read_write {v : Json} (h : Legible d d.nesting v) : read d (write v) = .ok v := by
  have hread := h.readsBack (2 * v.chars.length + 2) [] (by omega) (by rintro _ ⟨⟩)
  have hspace := skipSpace_chars v []
  rw [List.append_nil] at hread hspace
  unfold read
  rw [write, String.toList_ofList, hspace]
  dsimp only
  rw [hread]
  rfl

end Registration.Json
