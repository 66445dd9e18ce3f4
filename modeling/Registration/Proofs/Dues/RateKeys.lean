import Registration.Proofs.Dues.Buckets
import Registration.Proofs.Number.DecimalText
import Registration.Proofs.Number.Quantize

/-!
# Keys of VAT rates

The key of a rate is its value in millionths, rounded half to even, and only a rate of `10 ^ 28`
millionths or more has none (`exists_rateKey`). So a key depends on the value of a rate alone but
for the sign of zero, and grows with it. The keys are the same if a rate is first written as a text
and read back, and a key is its own key (`rateKey_sound`).
-/

namespace Registration

open Number (Decimal HalfEven)

/-- The key of a rate that is given as a text. -/
def rateKeyOfText (s : String) : Except Failure Decimal :=
  match Decimal.read? s with
  | some rate => rateKey rate
  | none => .error .unusableRate

theorem rateKeyOfText_text {rate : Decimal} (h : rate.WithinLimits) :
    rateKeyOfText rate.text = rateKey rate := by
  rw [rateKeyOfText, Decimal.read?_text h]

/-- The key of a finite rate is its value in millionths, rounded half to even. It has the sign of
the rate, and is missing exactly if it has more than 28 digits. -/
theorem exists_rateKey {rate : Decimal} (hr : rate.isFinite = true) :
    ∃ m : ℤ, HalfEven (rate.value * 10 ^ 6) m ∧
      (Decimal.finite rate.isNegative m.natAbs (-6)).value = m / 10 ^ 6 ∧
      rateKey rate =
        if |m| < 10 ^ 28 then .ok (.finite rate.isNegative m.natAbs (-6))
        else .error .unusableRate := by
  obtain ⟨m, hround, hvalue, hquantize⟩ := Decimal.exists_quantize 6 (by decide : 0 < 28) hr
  refine ⟨m, hround, hvalue, ?_⟩
  rw [rateKey, hquantize]
  by_cases hfits : |m| < 10 ^ 28
  · rw [if_pos hfits, if_pos hfits]
    rfl
  · rw [if_neg hfits, if_neg hfits]

/-- A key has no more than 28 digits, so it is read back from its text. -/
theorem withinLimits_of_rateKey {rate key : Decimal} (hr : rate.isFinite = true)
    (h : rateKey rate = .ok key) : key.WithinLimits := by
  obtain ⟨m, -, -, hkey⟩ := exists_rateKey hr
  rw [hkey] at h
  split at h
  · next hfits =>
    obtain rfl := Except.ok.inj h
    have hdigits : Decimal.digitCount m.natAbs ≤ 28 := by
      rw [Int.abs_eq_natAbs] at hfits
      rw [Decimal.digitCount_le_iff (by decide), Number.tenTo_eq_pow]
      omega
    simp only [Decimal.digitCount] at hdigits
    simp only [Decimal.WithinLimits, Decimal.minExponent, Decimal.maxAdjusted]
    omega
  · cases h

section Values

variable {rate other : Decimal} (hr : rate.isFinite = true) (ho : other.isFinite = true)

include hr ho

/-- Rates of one value have keys of one value, or none. -/
theorem rateKey_congr (h : rate.sameValue other = true) :
    (rateKey rate = .error .unusableRate ∧ rateKey other = .error .unusableRate) ∨
      ∃ key otherKey, rateKey rate = .ok key ∧ rateKey other = .ok otherKey ∧
        key.sameValue otherKey = true := by
  obtain ⟨m, hround, hvalue, hkey⟩ := exists_rateKey hr
  obtain ⟨n, hround', hvalue', hkey'⟩ := exists_rateKey ho
  rw [Decimal.sameValue_iff_value_eq hr ho] at h
  obtain rfl : m = n := hround.unique (h ▸ hround')
  rw [hkey, hkey']
  split
  · exact .inr ⟨_, _, rfl, rfl, (Decimal.sameValue_iff_value_eq rfl rfl).mpr
      (hvalue.trans hvalue'.symm)⟩
  · exact .inl ⟨rfl, rfl⟩

/-- A larger rate has no smaller key. -/
theorem rateKey_mono (h : other.less rate = false) {key otherKey : Decimal}
    (hk : rateKey rate = .ok key) (hk' : rateKey other = .ok otherKey) :
    otherKey.less key = false := by
  obtain ⟨m, hround, hvalue, hkey⟩ := exists_rateKey hr
  obtain ⟨n, hround', hvalue', hkey'⟩ := exists_rateKey ho
  have hle : rate.value ≤ other.value :=
    not_lt.mp fun hlt => Bool.eq_false_iff.mp h ((Decimal.less_iff_value_lt ho hr).mpr hlt)
  have hmn : m ≤ n := hround.mono hround' (mul_le_mul_of_nonneg_right hle (by norm_num))
  rw [hkey] at hk
  rw [hkey'] at hk'
  split at hk
  · split at hk'
    · obtain rfl := Except.ok.inj hk
      obtain rfl := Except.ok.inj hk'
      rw [Bool.eq_false_iff, ne_eq, Decimal.less_iff_value_lt rfl rfl, hvalue, hvalue', not_lt]
      exact div_le_div_of_nonneg_right (by exact_mod_cast hmn) (by norm_num)
    · cases hk'
  · cases hk

end Values

/-- The key of a finite rate is the nearest number of millionths, ties to the even one, with the
sign of the rate; it is missing exactly if it has more than 28 digits. It is the same for a rate
that was written as a text, rates of one value have keys of one value, a key is its own key, and
keys are in the order of their rates. -/
theorem rateKey_sound {rate : Decimal} (hr : rate.isFinite = true) :
    (rate.WithinLimits → rateKeyOfText rate.text = rateKey rate) ∧
    (∃ m : ℤ, HalfEven (rate.value * 10 ^ 6) m ∧
      (rateKey rate = .error .unusableRate ↔ 10 ^ 28 ≤ |m|) ∧
      (|m| < 10 ^ 28 → rateKey rate = .ok (.finite rate.isNegative m.natAbs (-6)) ∧
        (Decimal.finite rate.isNegative m.natAbs (-6)).value = m / 10 ^ 6)) ∧
    (∀ other : Decimal, other.isFinite = true → rate.sameValue other = true →
      (rateKey rate = .error .unusableRate ∧ rateKey other = .error .unusableRate) ∨
        ∃ key otherKey, rateKey rate = .ok key ∧ rateKey other = .ok otherKey ∧
          key.sameValue otherKey = true) ∧
    (∀ key, rateKey rate = .ok key →
      rateKey key = .ok key ∧ rateKeyOfText key.text = .ok key) ∧
    ∀ other key otherKey : Decimal, other.isFinite = true → other.less rate = false →
      rateKey rate = .ok key → rateKey other = .ok otherKey → otherKey.less key = false := by
  refine ⟨rateKeyOfText_text, ?_, fun _ ho h => rateKey_congr hr ho h, fun key hkey => ?_,
    fun _ _ _ ho h hk hk' => rateKey_mono hr ho h hk hk'⟩
  · obtain ⟨m, hround, hvalue, hkey⟩ := exists_rateKey hr
    refine ⟨m, hround, ?_, fun hfits => ⟨hkey.trans (if_pos hfits), hvalue⟩⟩
    rw [hkey]
    by_cases hfits : |m| < 10 ^ 28
    · rw [if_pos hfits]
      exact ⟨fun h => (by cases h), fun h => absurd hfits (not_lt.mpr h)⟩
    · rw [if_neg hfits]
      exact ⟨fun _ => not_lt.mp hfits, fun _ => rfl⟩
  · have hkept := rateKey_rateKey hkey
    exact ⟨hkept, (rateKeyOfText_text (withinLimits_of_rateKey hr hkey)).trans hkept⟩

/-- Seven percent with a place and without have one key, which is its own key, is the same for the
text, and is below the key of nineteen percent. -/
theorem rateKey_sound_seven :
    (Decimal.finite false 70 (-1)).isFinite = true ∧
      rateKeyOfText (Decimal.finite false 70 (-1)).text = .ok (.finite false 7000000 (-6)) ∧
      (∃ key otherKey, rateKey (.finite false 70 (-1)) = .ok key ∧
        rateKey (.finite false 7 0) = .ok otherKey ∧ key.sameValue otherKey = true) ∧
      rateKey (.finite false 7000000 (-6)) = .ok (.finite false 7000000 (-6)) ∧
      (Decimal.finite false 19000000 (-6)).less (.finite false 7000000 (-6)) = false := by
  have hfinite : (Decimal.finite false 70 (-1)).isFinite = true := rfl
  have hkey : rateKey (.finite false 70 (-1)) = .ok (.finite false 7000000 (-6)) := by
    decide +kernel
  have hnineteen : rateKey (.finite false 19 0) = .ok (.finite false 19000000 (-6)) := by
    decide +kernel
  have hlimits : (Decimal.finite false 70 (-1)).WithinLimits := by
    simp [Decimal.WithinLimits, Decimal.minExponent, Decimal.maxAdjusted, Text.natDigits]
  obtain ⟨htext, -, hequal, hself, horder⟩ := rateKey_sound hfinite
  refine ⟨hfinite, (htext hlimits).trans hkey, ?_, (hself _ hkey).1,
    horder (.finite false 19 0) _ _ rfl (by decide) hkey hnineteen⟩
  rcases hequal (.finite false 7 0) rfl (by decide) with hmissing | hequal
  · rw [hkey] at hmissing
    cases hmissing.1
  · exact hequal

/-- Minus zero keeps its sign, and its key equals the one of zero. -/
example : rateKey (.finite true 0 0) = .ok (.finite true 0 (-6)) ∧
    (Decimal.finite true 0 (-6)).sameValue (.finite false 0 (-6)) = true := by decide

end Registration
