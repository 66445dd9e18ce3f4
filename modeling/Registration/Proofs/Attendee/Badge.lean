import Mathlib
import Registration.Attendee
import Registration.Proofs.Text.Digit

/-!
# The check letter catches single slips

The check letter stands for the weighted sum of the digits modulo the number of letters
(`checkLetter_eq_iff`). A wrong digit changes the sum by the difference of the digits times a weight
(`weightedSum_sub_of_wrong`), and two digits that change places change it by the difference of the
digits times that of the weights (`weightedSum_sub_of_exchange`). The number of letters is prime and
divides none of these, so after such a slip another letter is due (`slip_detected`).
-/

namespace Registration.Badge

open Text

/-! ## Slips -/

/-- The character of a written number in a place counted from the right, with zeros in front. -/
def digitAt (id : ℤ) (k : ℕ) : Char := (intDigits id).reverse.getD k '0'

/-- One of the five lowest digits is wrong, or two unequal ones of them have changed places; all
other digits are the same. -/
inductive Slip (id id' : ℤ) : Prop
  | wrong (i : ℕ) (hi : i < 5) (hne : digitAt id' i ≠ digitAt id i)
      (hkept : ∀ k, k ≠ i → digitAt id' k = digitAt id k)
  | exchange (i j : ℕ) (hi : i < 5) (hj : j < 5) (hne : digitAt id i ≠ digitAt id j)
      (hfirst : digitAt id' i = digitAt id j) (hsecond : digitAt id' j = digitAt id i)
      (hkept : ∀ k, k ≠ i → k ≠ j → digitAt id' k = digitAt id k)

theorem digitAt_eq {id : ℤ} (h : 0 < id) (k : ℕ) :
    digitAt id k = digitChar (placeValue id.toNat k) := by
  lift id to ℕ using h.le
  exact getD_reverse_natDigits id k

theorem digitAt_inj {id id' : ℤ} (h : 0 < id) (h' : 0 < id') (k k' : ℕ) :
    digitAt id k = digitAt id' k' ↔ placeValue id.toNat k = placeValue id'.toNat k' := by
  rw [digitAt_eq h, digitAt_eq h', digitChar_inj (placeValue_lt _ _) (placeValue_lt _ _)]

/-! ## Weighted sums -/

theorem weightedSum_eq_sum (ws : List ℕ) (n : ℕ) :
    weightedSum ws n = ∑ k ∈ Finset.range ws.length, placeValue n k * ws.getD k 0 := by
  induction ws generalizing n with
  | nil => rfl
  | cons w ws ih =>
    rw [weightedSum, ih, List.length_cons, Finset.sum_range_succ', add_comm]
    simp only [placeValue_succ, placeValue_zero, List.getD_cons_succ, List.getD_cons_zero]

section Sums

variable {ws : List ℕ} {n m i j : ℕ}

theorem weightedSum_sub (ws : List ℕ) (n m : ℕ) :
    (weightedSum ws n : ℤ) - weightedSum ws m =
      ∑ k ∈ Finset.range ws.length, ((placeValue n k : ℤ) - placeValue m k) * ws.getD k 0 := by
  simp only [weightedSum_eq_sum, Nat.cast_sum, Nat.cast_mul, sub_mul, Finset.sum_sub_distrib]

theorem weightedSum_sub_of_wrong (hi : i < ws.length)
    (hkept : ∀ k, k ≠ i → placeValue m k = placeValue n k) :
    (weightedSum ws n : ℤ) - weightedSum ws m =
      ((placeValue n i : ℤ) - placeValue m i) * ws.getD i 0 := by
  rw [weightedSum_sub]
  refine Finset.sum_eq_single_of_mem i (Finset.mem_range.mpr hi) fun k _ hk => ?_
  rw [hkept k hk, sub_self, zero_mul]

theorem weightedSum_sub_of_exchange (hi : i < ws.length) (hj : j < ws.length) (hij : i ≠ j)
    (hfirst : placeValue m i = placeValue n j) (hsecond : placeValue m j = placeValue n i)
    (hkept : ∀ k, k ≠ i → k ≠ j → placeValue m k = placeValue n k) :
    (weightedSum ws n : ℤ) - weightedSum ws m =
      ((placeValue n i : ℤ) - placeValue n j) * ((ws.getD i 0 : ℤ) - ws.getD j 0) := by
  rw [weightedSum_sub, Finset.sum_eq_add_of_mem i j (Finset.mem_range.mpr hi)
    (Finset.mem_range.mpr hj) hij, hfirst, hsecond]
  · ring
  · rintro k - ⟨hki, hkj⟩
    rw [hkept k hki hkj, sub_self, zero_mul]

end Sums

/-! ## Letters and weights -/

theorem letters_nodup : letters.Nodup := by decide +kernel

theorem length_letters : letters.length = 23 := by decide +kernel

theorem prime_length_letters : Prime (letters.length : ℤ) := by
  rw [length_letters]
  exact Nat.prime_iff_prime_int.mp (by norm_num)

/-- Two numbers have the same letter exactly if their sums differ by a multiple of the number of
letters. -/
theorem checkLetter_eq_iff (id id' : ℤ) :
    checkLetter id = checkLetter id' ↔
      (letters.length : ℤ) ∣ weightedSum weights id.toNat - weightedSum weights id'.toNat := by
  have hpos : 0 < letters.length := by rw [length_letters]; decide
  rw [checkLetter, checkLetter, List.getD_eq_getElem _ _ (Nat.mod_lt _ hpos),
    List.getD_eq_getElem _ _ (Nat.mod_lt _ hpos), letters_nodup.getElem_inj_iff]
  exact eq_comm.trans Nat.modEq_iff_dvd

theorem not_dvd_digit_sub {d e : ℕ} (hd : d < 10) (he : e < 10) (hne : d ≠ e) :
    ¬ (letters.length : ℤ) ∣ (d : ℤ) - e := by
  rw [length_letters]
  omega

theorem not_dvd_weight : ∀ i < 5, ¬ (letters.length : ℤ) ∣ (weights.getD i 0 : ℤ) := by
  rw [length_letters]
  decide

theorem not_dvd_weight_sub :
    ∀ i < 5, ∀ j < 5, i ≠ j →
      ¬ (letters.length : ℤ) ∣ (weights.getD i 0 : ℤ) - (weights.getD j 0 : ℤ) := by
  rw [length_letters]
  decide

/-- After a slip the sum differs by no multiple of the number of letters. -/
theorem Slip.not_dvd {id id' : ℤ} (h : Slip id id') (hpos : 0 < id) (hpos' : 0 < id') :
    ¬ (letters.length : ℤ) ∣ weightedSum weights id.toNat - weightedSum weights id'.toNat := by
  cases h with
  | wrong i hi hne hkept =>
    simp only [ne_eq, digitAt_inj hpos' hpos] at hne hkept
    rw [weightedSum_sub_of_wrong hi hkept]
    exact prime_length_letters.not_dvd_mul
      (not_dvd_digit_sub (placeValue_lt _ _) (placeValue_lt _ _) (Ne.symm hne))
      (not_dvd_weight i hi)
  | exchange i j hi hj hne hfirst hsecond hkept =>
    have hij : i ≠ j := fun h => hne (h ▸ rfl)
    simp only [ne_eq, digitAt_inj hpos hpos] at hne
    simp only [ne_eq, digitAt_inj hpos' hpos] at hfirst hsecond hkept
    rw [weightedSum_sub_of_exchange hi hj hij hfirst hsecond hkept]
    exact prime_length_letters.not_dvd_mul
      (not_dvd_digit_sub (placeValue_lt _ _) (placeValue_lt _ _) hne)
      (not_dvd_weight_sub i hi j hj hij)

/-! ## Badges -/

/-- The badge shows the number and its letter, so both are known from it. -/
theorem text_eq_iff {id id' : ℤ} {c : Char} :
    text id = intText id' ++ String.singleton c ↔ id = id' ∧ checkLetter id = c := by
  refine ⟨fun h => ?_, fun ⟨hid, hletter⟩ => hid ▸ hletter ▸ rfl⟩
  have hchars := congrArg String.toList h
  simp only [text, intText, String.toList_append, String.toList_ofList,
    String.toList_singleton] at hchars
  obtain ⟨hdigits, hletter⟩ := List.append_inj' hchars rfl
  exact ⟨intDigits_injective hdigits, (List.cons.inj hletter).1⟩

/-- If the number of a badge is written with one wrong digit among the five lowest, or with two
unequal ones of these exchanged, then another letter is due, and with the letter of the badge it is
nobody's badge. -/
theorem slip_detected {id id' : ℤ} (hpos : 0 < id) (hpos' : 0 < id') (h : Slip id id') :
    checkLetter id ≠ checkLetter id' ∧
      ∀ other, text other ≠ intText id' ++ String.singleton (checkLetter id) := by
  have hletter : checkLetter id ≠ checkLetter id' := fun hsame =>
    h.not_dvd hpos hpos' ((checkLetter_eq_iff id id').mp hsame)
  refine ⟨hletter, fun other hother => hletter ?_⟩
  obtain ⟨rfl, hsame⟩ := text_eq_iff.mp hother
  exact hsame.symm

/-- On the badge of number 105 the first two digits are exchanged: 15 is written, a shorter number. -/
theorem slip_detected_fifteen :
    (0 : ℤ) < 105 ∧ (0 : ℤ) < 15 ∧ Slip 105 15 ∧ checkLetter 105 ≠ checkLetter 15 ∧
      ∀ other, text other ≠ intText 15 ++ String.singleton (checkLetter 105) := by
  have hslip : Slip 105 15 := by
    refine .exchange 1 2 (by decide) (by decide) (by decide +kernel) (by decide +kernel)
      (by decide +kernel) fun k h₁ h₂ => ?_
    rw [digitAt_eq (by decide), digitAt_eq (by decide)]
    match k with
    | 0 => rfl
    | 1 => exact absurd rfl h₁
    | 2 => exact absurd rfl h₂
    | k + 3 =>
      simp only [placeValue_succ]
      rfl
  exact ⟨by decide, by decide, hslip, slip_detected (by decide) (by decide) hslip⟩

/-- The sixth digit has no weight. -/
example : checkLetter 100001 = checkLetter 1 := by decide +kernel

end Registration.Badge
