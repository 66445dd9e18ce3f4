import Registration.Proofs.Number.HalfEven
import Registration.Proofs.Number.Value

/-!
# Rounding to places

A finite decimal is brought to a number of places by rounding its value half to even in units of the
last place, with the sign kept; it has no such form exactly if the units have more digits than the
precision (`exists_quantize`). A coefficient far below the last place is no exception: it is less
than half a unit.
-/

namespace Registration.Number.Decimal

/-! ## Units of a coefficient -/

theorem digitCount_mul_tenTo {c : ℕ} (hc : 0 < c) (k : ℕ) :
    digitCount (c * tenTo k) = digitCount c + k := by
  induction k with
  | zero => rw [tenTo_zero, Nat.mul_one, Nat.add_zero]
  | succ k ih =>
    have hpos := Nat.mul_pos hc (tenTo_pos k)
    rw [tenTo_succ, ← Nat.mul_assoc, digitCount_of_ge (by omega),
      Nat.mul_div_cancel _ (by decide), ih, Nat.add_assoc]

/-- The units of the last place are rounded half to even, and missing beyond the precision. -/
theorem exists_unitsAt (places : ℕ) {precision : ℕ} (hp : 0 < precision) (c : ℕ) (e : ℤ) :
    ∃ m : ℕ, HalfEven ((c : ℚ) * 10 ^ (e + places)) m ∧
      unitsAt places precision c e = if m < tenTo precision then some m else none := by
  rcases Nat.eq_zero_or_pos c with rfl | hc
  · refine ⟨0, ?_, ?_⟩
    · rw [Nat.cast_zero, zero_mul]
      exact .intCast 0
    · rw [if_pos (tenTo_pos precision), unitsAt]
      exact if_pos rfl
  have hcut (u : ℕ) : (if precision < digitCount u then none else some u) =
      if u < tenTo precision then some u else none := by
    simp only [← digitCount_le_iff hp, ← Nat.not_lt, ite_not]
  rcases le_or_gt 0 (e + places) with hshift | hshift
  · obtain ⟨k, hk⟩ := Int.eq_ofNat_of_zero_le hshift
    refine ⟨c * tenTo k, ?_, ?_⟩
    · have hwhole : (c : ℚ) * 10 ^ (e + places) = ((c * tenTo k : ℕ) : ℤ) := by
        rw [hk, zpow_natCast, tenTo_eq_pow]
        push_cast
        rfl
      rw [hwhole]
      exact .intCast _
    · rw [← hcut, digitCount_mul_tenTo hc]
      simp only [unitsAt, hc.ne', if_false, hk, Int.natCast_nonneg, if_true, Int.toNat_natCast]
  · obtain ⟨k, hk⟩ : ∃ k : ℕ, e + places = -k := ⟨(-(e + places)).toNat, by omega⟩
    have hquotient : (c : ℚ) * 10 ^ (e + places) = (c : ℚ) / tenTo k := by
      rw [hk, zpow_neg, zpow_natCast, tenTo_eq_pow, div_eq_mul_inv]
      push_cast
      rfl
    have hdrop : (-(e + places)).toNat = k := by omega
    rw [hquotient]
    by_cases hfar : digitCount c < k
    · refine ⟨0, .of_lt ?_, ?_⟩
      · -- the quotient is at most a tenth
        have hlt : c < tenTo (digitCount c) := (digitCount_le_iff (digitCount_pos c)).mp le_rfl
        have htenth : 10 * c < tenTo k := by
          have hle : tenTo (digitCount c + 1) ≤ tenTo k := Nat.pow_le_pow_right (by decide) hfar
          rw [tenTo_succ] at hle
          omega
        have hpos : (0 : ℚ) < tenTo k := by exact_mod_cast tenTo_pos k
        have htenthq : (10 : ℚ) * c < tenTo k := by exact_mod_cast htenth
        rw [Nat.cast_zero, Int.cast_zero, sub_zero, abs_of_nonneg (by positivity),
          div_lt_iff₀ hpos]
        linarith [(Nat.cast_nonneg c : (0 : ℚ) ≤ c)]
      · rw [if_pos (tenTo_pos precision)]
        simp only [unitsAt, hc.ne', if_false, not_le.mpr hshift, hdrop, hfar, if_true]
    · refine ⟨roundDiv c (tenTo k), halfEven_roundDiv c (tenTo_pos k), ?_⟩
      rw [← hcut]
      simp only [unitsAt, hc.ne', if_false, not_le.mpr hshift, hdrop, hfar]

/-! ## Places of a decimal -/

/-- The decimal is written with a minus sign. -/
def isNegative : Decimal → Bool
  | finite negative .. => negative
  | infinite negative => negative
  | nan negative .. => negative

/-- A finite decimal is brought to its places by rounding its value half to even. It keeps its sign,
and has such a form exactly if the rounded units fit the precision. -/
theorem exists_quantize (places : ℕ) {precision : ℕ} (hp : 0 < precision) {d : Decimal}
    (hd : d.isFinite = true) :
    ∃ m : ℤ, HalfEven (d.value * 10 ^ places) m ∧
      (finite d.isNegative m.natAbs (-places)).value = m / 10 ^ places ∧
      d.quantize places precision =
        if |m| < 10 ^ precision then some (finite d.isNegative m.natAbs (-places)) else none := by
  cases d <;> simp only [isFinite, Bool.false_eq_true] at hd
  case finite negative c e =>
    obtain ⟨m, hround, hunits⟩ := exists_unitsAt places hp c e
    have hscale : (10 : ℚ) ^ e * 10 ^ places = 10 ^ (e + places) := by
      rw [zpow_add₀ (by norm_num), zpow_natCast]
    have hfits : |(m : ℤ)| < 10 ^ precision ↔ m < tenTo precision := by
      rw [Nat.abs_cast, tenTo_eq_pow]
      exact_mod_cast Iff.rfl
    have hquantize : (finite negative c e).quantize places precision =
        if m < tenTo precision then some (finite negative m (-places)) else none := by
      rw [quantize, hunits]
      split <;> rfl
    cases negative with
    | false =>
      refine ⟨m, ?_, ?_, ?_⟩
      · simpa only [value, Bool.false_eq_true, if_false, mul_assoc, hscale] using hround
      · simp [value, isNegative, div_eq_mul_inv]
      · simp only [hfits, hquantize, isNegative, Int.natAbs_natCast]
    | true =>
      refine ⟨-m, ?_, ?_, ?_⟩
      · simpa only [value, if_true, mul_assoc, hscale, neg_mul] using hround.neg
      · simp [value, isNegative, div_eq_mul_inv]
      · simp only [abs_neg, hfits, hquantize, isNegative, Int.natAbs_neg, Int.natAbs_natCast]

end Registration.Number.Decimal
