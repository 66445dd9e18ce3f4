import Registration.Number.Rounding
import Registration.Text.Digit

/-!
# Digits read back

The digits of a number are the characters of its digit values (`natDigits_eq`), which make the
number again (`ofDigits_digitValues`) and begin with a zero only if they are a single zero
(`eq_zero_of_digitValues`), so no two numbers have the same digits (`intDigits_injective`). From the
right they are the digits of the places, and in front of a number there are zeros
(`getD_reverse_natDigits`). Padded digits keep the number below the power of ten that they have room
for (`exists_paddedDigits`).
-/

namespace Registration.Text

open Registration.Number

theorem asciiDigit?_digitChar {d : Nat} (h : d < 10) : asciiDigit? (digitChar d) = some d :=
  (by decide : ∀ d < 10, asciiDigit? (digitChar d) = some d) d h

theorem digitChar_inj {d e : Nat} (hd : d < 10) (he : e < 10) :
    digitChar d = digitChar e ↔ d = e := by
  refine ⟨fun h => ?_, congrArg digitChar⟩
  rw [← Option.some_inj, ← asciiDigit?_digitChar hd, h, asciiDigit?_digitChar he]

/-- One of the ten ASCII digits. -/
def IsDigit (c : Char) : Prop := ∃ d < 10, c = digitChar d

theorem IsDigit.isSome {c : Char} (h : IsDigit c) : (asciiDigit? c).isSome = true := by
  obtain ⟨d, hd, rfl⟩ := h
  rw [asciiDigit?_digitChar hd]
  rfl

/-- A digit is none of the characters without a value. -/
theorem IsDigit.ne {c c' : Char} (h : IsDigit c) (hc : asciiDigit? c' = none) : c ≠ c' := by
  rintro rfl
  have hsome := h.isSome
  rw [hc] at hsome
  cases hsome

theorem isDigit_of_mem_map {ds : List Nat} (hds : ∀ d ∈ ds, d < 10) {c : Char}
    (h : c ∈ ds.map digitChar) : IsDigit c := by
  obtain ⟨d, hd, rfl⟩ := List.mem_map.mp h
  exact ⟨d, hds d hd, rfl⟩

/-- A row of digit values is read back from its characters. -/
theorem mapM_asciiDigit? {ds : List Nat} (h : ∀ d ∈ ds, d < 10) :
    (ds.map digitChar).mapM asciiDigit? = some ds := by
  induction ds with
  | nil => rfl
  | cons d rest ih =>
    rw [List.map_cons, List.mapM_cons, asciiDigit?_digitChar (h d List.mem_cons_self),
      ih fun e he => h e (List.mem_cons_of_mem d he)]
    rfl

/-! ## Values of digits -/

/-- Zeros in front do not count. -/
@[simp] theorem ofDigits_zero_cons (ds : List Nat) : ofDigits (0 :: ds) = ofDigits ds := rfl

theorem ofDigits_replicate_append (k : Nat) (ds : List Nat) :
    ofDigits (List.replicate k 0 ++ ds) = ofDigits ds := by
  induction k with
  | zero => rfl
  | succ k ih => rw [List.replicate_succ, List.cons_append, ofDigits_zero_cons, ih]

/-- The digit values of a number, without leading zeros. -/
def digitValues (n : Nat) : List Nat :=
  if n < 10 then [n] else digitValues (n / 10) ++ [n % 10]
termination_by n

theorem natDigits_eq (n : Nat) : natDigits n = (digitValues n).map digitChar := by
  induction n using digitValues.induct with
  | case1 n h => rw [natDigits, digitValues, if_pos h, if_pos h, List.map_singleton]
  | case2 n h ih =>
    rw [natDigits, digitValues, if_neg h, if_neg h, ih, List.map_append, List.map_singleton]

theorem lt_of_mem_digitValues {n d : Nat} (h : d ∈ digitValues n) : d < 10 := by
  induction n using digitValues.induct with
  | case1 n hn =>
    rw [digitValues, if_pos hn, List.mem_singleton] at h
    exact h ▸ hn
  | case2 n hn ih =>
    rw [digitValues, if_neg hn, List.mem_append, List.mem_singleton] at h
    rcases h with h | rfl
    · exact ih h
    · exact Nat.mod_lt n (by decide)

@[simp] theorem ofDigits_digitValues (n : Nat) : ofDigits (digitValues n) = n := by
  induction n using digitValues.induct with
  | case1 n h => rw [digitValues, if_pos h, ofDigits, List.foldl_cons, List.foldl_nil]; omega
  | case2 n h ih => rw [digitValues, if_neg h, ofDigits_concat, ih]; omega

theorem digitValues_ne_nil (n : Nat) : digitValues n ≠ [] := by
  rw [digitValues]
  split <;> simp

/-- Only zero is written with a zero in front, and with nothing behind it. -/
theorem eq_zero_of_digitValues {n : Nat} {ds : List Nat} (h : digitValues n = 0 :: ds) :
    n = 0 ∧ ds = [] := by
  induction n using digitValues.induct generalizing ds with
  | case1 n hn =>
    rw [digitValues, if_pos hn] at h
    exact ⟨(List.cons.inj h).1, (List.cons.inj h).2.symm⟩
  | case2 n hn ih =>
    rw [digitValues, if_neg hn] at h
    obtain ⟨d, rest, hrest⟩ := List.exists_cons_of_ne_nil (digitValues_ne_nil (n / 10))
    rw [hrest, List.cons_append] at h
    have hzero := (ih (hrest.trans (by rw [(List.cons.inj h).1]))).1
    omega

theorem length_natDigits (n : Nat) : (natDigits n).length = (digitValues n).length := by
  rw [natDigits_eq, List.length_map]

theorem isDigit_of_mem_natDigits {n : Nat} {c : Char} (h : c ∈ natDigits n) : IsDigit c := by
  rw [natDigits_eq] at h
  exact isDigit_of_mem_map (fun _ => lt_of_mem_digitValues) h

/-- A number begins with a digit. -/
theorem exists_natDigits_eq (n : Nat) : ∃ c cs, natDigits n = c :: cs ∧ IsDigit c := by
  have hsome : natDigits n ≠ [] := by
    rw [natDigits_eq]
    simp [digitValues_ne_nil]
  obtain ⟨c, cs, hcs⟩ := List.exists_cons_of_ne_nil hsome
  exact ⟨c, cs, hcs, isDigit_of_mem_natDigits (hcs ▸ List.mem_cons_self)⟩

theorem length_natDigits_pos (n : Nat) : 0 < (natDigits n).length := by
  obtain ⟨c, cs, hcs, -⟩ := exists_natDigits_eq n
  simp [hcs]

theorem mapM_natDigits (n : Nat) : (natDigits n).mapM asciiDigit? = some (digitValues n) := by
  rw [natDigits_eq, mapM_asciiDigit? fun d => lt_of_mem_digitValues]

theorem natDigits_injective : Function.Injective natDigits := by
  intro n m h
  have hvalues : some (digitValues n) = some (digitValues m) := by
    rw [← mapM_natDigits, ← mapM_natDigits, h]
  rw [← ofDigits_digitValues n, ← ofDigits_digitValues m, Option.some.inj hvalues]

theorem natDigits_eq_toDigits (n : Nat) : natDigits n = Nat.toDigits 10 n := by
  have hchar : ∀ d < 10, digitChar d = Nat.digitChar d := by decide
  induction n using natDigits.induct with
  | case1 n h => rw [natDigits, if_pos h, Nat.toDigits_of_lt_base h, hchar n h]
  | case2 n h ih =>
    rw [natDigits, if_neg h, ih, Nat.toDigits_of_base_le (by decide) (Nat.not_lt.mp h),
      hchar _ (Nat.mod_lt n (by decide))]

theorem ofList_natDigits (n : Nat) : String.ofList (natDigits n) = toString n := by
  rw [natDigits_eq_toDigits, Nat.toString_eq_repr, Nat.repr]

/-! ## Whole numbers -/

theorem mem_intDigits {n : Int} {c : Char} (h : c ∈ intDigits n) : c = '-' ∨ IsDigit c := by
  cases n with
  | ofNat n => exact .inr (isDigit_of_mem_natDigits h)
  | negSucc n => exact (List.mem_cons.mp h).imp_right isDigit_of_mem_natDigits

theorem intDigits_injective : Function.Injective intDigits := by
  have hsign (k l : Nat) : natDigits k ≠ '-' :: natDigits l := fun h =>
    (isDigit_of_mem_natDigits (h ▸ List.mem_cons_self)).ne (by decide) rfl
  intro n m h
  cases n with
  | ofNat k =>
    cases m with
    | ofNat l => exact congrArg Int.ofNat (natDigits_injective h)
    | negSucc l => exact absurd h (hsign k (l + 1))
  | negSucc k =>
    cases m with
    | ofNat l => exact absurd h.symm (hsign l (k + 1))
    | negSucc l =>
      exact congrArg Int.negSucc (Nat.succ.inj (natDigits_injective (List.cons.inj h).2))

theorem intText_eq_toString (n : Int) : intText n = toString n := by
  cases n with
  | ofNat n => exact ofList_natDigits n
  | negSucc n =>
    change String.ofList (['-'] ++ natDigits (n + 1)) = "-" ++ toString (n + 1)
    rw [String.ofList_append, ofList_natDigits]

/-! ## Places -/

/-- The value of a number's digit in a place, counted from the lowest. -/
def placeValue (n k : Nat) : Nat := n / tenTo k % 10

theorem placeValue_zero (n : Nat) : placeValue n 0 = n % 10 := by
  rw [placeValue, tenTo_zero, Nat.div_one]

theorem placeValue_succ (n k : Nat) : placeValue n (k + 1) = placeValue (n / 10) k := by
  rw [placeValue, placeValue, tenTo_succ, Nat.mul_comm, Nat.div_div_eq_div_mul]

theorem placeValue_lt (n k : Nat) : placeValue n k < 10 := Nat.mod_lt _ (by decide)

theorem placeValue_of_zero (k : Nat) : placeValue 0 k = 0 := by
  rw [placeValue, Nat.zero_div, Nat.zero_mod]

/-- Read from the right, with zeros in front, a number is written with the digits of its places. -/
theorem getD_reverse_natDigits (n k : Nat) :
    (natDigits n).reverse.getD k '0' = digitChar (placeValue n k) := by
  induction n using natDigits.induct generalizing k with
  | case1 n h =>
    rw [natDigits, if_pos h, List.reverse_singleton]
    cases k with
    | zero => rw [List.getD_cons_zero, placeValue_zero, Nat.mod_eq_of_lt h]
    | succ k =>
      rw [List.getD_cons_succ, placeValue_succ, Nat.div_eq_of_lt h, placeValue_of_zero]
      rfl
  | case2 n h ih =>
    rw [natDigits, if_neg h, List.reverse_append, List.reverse_singleton, List.singleton_append]
    cases k with
    | zero => rw [List.getD_cons_zero, placeValue_zero]
    | succ k => rw [List.getD_cons_succ, ih, placeValue_succ]

/-! ## Padded digits -/

theorem exists_paddedDigits (width n : Nat) :
    ∃ ds, paddedDigits width n = ds.map digitChar ∧ (∀ d ∈ ds, d < 10) ∧
      ofDigits ds = n % tenTo width := by
  induction width generalizing n with
  | zero => exact ⟨[], rfl, by simp, by simp [Nat.mod_one]⟩
  | succ width ih =>
    obtain ⟨ds, hds, hsmall, hvalue⟩ := ih (n / 10)
    refine ⟨ds ++ [n % 10], by simp [paddedDigits, hds], ?_, ?_⟩
    · intro d hd
      rcases List.mem_append.mp hd with hd | hd
      · exact hsmall d hd
      · rw [List.mem_singleton.mp hd]
        exact Nat.mod_lt n (by decide)
    · rw [ofDigits_concat, hvalue, tenTo_succ, Nat.mul_comm (tenTo width), Nat.mod_mul,
        Nat.add_comm]

end Registration.Text
