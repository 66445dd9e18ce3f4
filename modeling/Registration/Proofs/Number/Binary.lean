import Registration.Number.Real
import Registration.Proofs.Number.HalfEven

/-!
# What binary numbers stand for

`Binary.value` is the number that a binary number stands for. A quotient below `2 ^ (53 + e)` is
rounded in units of `2 ^ e` or smaller ones (`exponentFor_le_iff`), so the nearest binary number is
at most half of such a unit away (`exists_nearest`), and a whole number of 53 binary digits is its
own nearest one (`exists_nearest_whole`). No other number of the format is nearer
(`dist_nearest_le`).
-/

namespace Registration.Number

theorem twoTo_eq_pow (k : ℕ) : twoTo k = 2 ^ k := rfl

namespace Binary

/-- The number that a binary number stands for. -/
def value (x : Binary) : ℚ := x.significand * 2 ^ x.exponent

@[simp] theorem value_zero : zero.value = 0 := by simp [value, zero]

/-! ## Scales -/

/-- Of the two scales of an exponent one is `1`. -/
theorem cast_scale (e : ℤ) : (twoTo e.toNat : ℚ) = 2 ^ e * twoTo (-e).toNat := by
  rw [twoTo_eq_pow, twoTo_eq_pow, Nat.cast_pow, Nat.cast_pow, Nat.cast_ofNat, ← zpow_natCast,
    ← zpow_natCast, ← zpow_add₀ (by norm_num)]
  congr 1
  omega

theorem cast_twoTo_pos (k : ℕ) : (0 : ℚ) < twoTo k := by exact_mod_cast twoTo_pos k

theorem den_pos (x : Binary) : 0 < x.den := twoTo_pos _

theorem num_div_den (x : Binary) : (x.num : ℚ) / x.den = x.value := by
  have hpos := cast_twoTo_pos (-x.exponent).toNat
  rw [num, den, Nat.cast_mul, cast_scale, div_eq_iff hpos.ne', value]
  ring

variable {n d : ℕ}

/-- A quotient in units of a power of two, rounded. -/
theorem halfEven_inUnits (n : ℕ) (hd : 0 < d) (e : ℤ) :
    HalfEven ((n : ℚ) / d * 2 ^ (-e)) (inUnits n d e) := by
  have hscaled : ((n * twoTo (-e).toNat : ℕ) : ℚ) / (d * twoTo e.toNat : ℕ) =
      (n : ℚ) / d * 2 ^ (-e) := by
    have hpos := cast_twoTo_pos (-e).toNat
    rw [Nat.cast_mul, Nat.cast_mul, cast_scale e, zpow_neg]
    field_simp
  rw [inUnits, ← hscaled]
  exact halfEven_roundDiv _ (Nat.mul_pos hd (twoTo_pos _))

/-! ## Exponents -/

/-- The quotient has at most 53 digits before the point in units of `2 ^ e`. -/
theorem lt_scaled_iff (n : ℕ) (hd : 0 < d) (e : ℤ) :
    n * twoTo (-e).toNat < twoTo 53 * (d * twoTo e.toNat) ↔ (n : ℚ) / d < 2 ^ (53 + e) := by
  have hdpos : (0 : ℚ) < d := by exact_mod_cast hd
  have hpos := cast_twoTo_pos (-e).toNat
  have hsplit : ((twoTo 53 * (d * twoTo e.toNat) : ℕ) : ℚ) =
      2 ^ (53 + e) * d * twoTo (-e).toNat := by
    rw [Nat.cast_mul, Nat.cast_mul, cast_scale e, zpow_add₀ (by norm_num)]
    norm_num [twoTo_eq_pow]
    ring
  rw [div_lt_iff₀ hdpos, ← mul_lt_mul_iff_left₀ hpos, ← hsplit]
  exact_mod_cast Iff.rfl

theorem bitCount_bounds (hn : 0 < n) :
    (2 : ℚ) ^ ((bitCount n : ℤ) - 1) ≤ n ∧ (n : ℚ) < 2 ^ (bitCount n : ℤ) := by
  have hcount : bitCount n = n.log2 + 1 := if_neg hn.ne'
  rw [hcount, Nat.cast_add, Nat.cast_one, add_sub_cancel_right, zpow_natCast]
  constructor
  · exact_mod_cast Nat.log2_self_le hn.ne'
  · rw [show ((n.log2 : ℤ) + 1) = ((n.log2 + 1 : ℕ) : ℤ) by push_cast; rfl, zpow_natCast]
    exact_mod_cast Nat.lt_log2_self

/-- The numbers of digits give the magnitude of a quotient but for a factor of two. -/
theorem quotient_bounds (hn : 0 < n) (hd : 0 < d) :
    (2 : ℚ) ^ ((bitCount n : ℤ) - bitCount d - 1) < n / d ∧
      (n : ℚ) / d < 2 ^ ((bitCount n : ℤ) - bitCount d + 1) := by
  have hdpos : (0 : ℚ) < d := by exact_mod_cast hd
  obtain ⟨hnlow, hnhigh⟩ := bitCount_bounds hn
  obtain ⟨hdlow, hdhigh⟩ := bitCount_bounds hd
  constructor
  · rw [lt_div_iff₀ hdpos]
    calc (2 : ℚ) ^ ((bitCount n : ℤ) - bitCount d - 1) * d
        < 2 ^ ((bitCount n : ℤ) - bitCount d - 1) * 2 ^ (bitCount d : ℤ) :=
          mul_lt_mul_of_pos_left hdhigh (zpow_pos (by norm_num) _)
      _ = 2 ^ ((bitCount n : ℤ) - 1) := by
          rw [← zpow_add₀ (by norm_num)]
          congr 1
          ring
      _ ≤ n := hnlow
  · rw [div_lt_iff₀ hdpos]
    calc (n : ℚ) < 2 ^ (bitCount n : ℤ) := hnhigh
      _ = 2 ^ ((bitCount n : ℤ) - bitCount d + 1) * 2 ^ ((bitCount d : ℤ) - 1) := by
          rw [← zpow_add₀ (by norm_num)]
          congr 1
          ring
      _ ≤ 2 ^ ((bitCount n : ℤ) - bitCount d + 1) * d :=
          mul_le_mul_of_nonneg_left hdlow (zpow_pos (by norm_num) _).le

/-- The exponent is the least one of the format at which the quotient has at most 53 digits before
the point. -/
theorem exponentFor_le_iff (hn : 0 < n) (hd : 0 < d) (e : ℤ) :
    exponentFor n d ≤ e ↔ minExponent ≤ e ∧ (n : ℚ) / d < 2 ^ (53 + e) := by
  obtain ⟨hlow, hhigh⟩ := quotient_bounds hn hd
  set c : ℤ := (bitCount n : ℤ) - bitCount d - 53 with hc
  have hmono : ∀ {a b : ℤ}, (2 : ℚ) ^ a < 2 ^ b ↔ a < b := zpow_lt_zpow_iff_right₀ (by norm_num)
  have hfits : ∀ e, (if n * twoTo (-c).toNat < twoTo 53 * (d * twoTo c.toNat) then c else c + 1) ≤ e
      ↔ (n : ℚ) / d < 2 ^ (53 + e) := by
    intro e
    by_cases hfit : n * twoTo (-c).toNat < twoTo 53 * (d * twoTo c.toNat)
    · rw [if_pos hfit]
      rw [lt_scaled_iff n hd] at hfit
      refine ⟨fun hce => hfit.trans_le (zpow_le_zpow_right₀ (by norm_num) (by omega)), fun h => ?_⟩
      have := hmono.mp (hlow.trans h)
      omega
    · rw [if_neg hfit]
      rw [lt_scaled_iff n hd, not_lt] at hfit
      refine ⟨fun hce => hhigh.trans_le (zpow_le_zpow_right₀ (by norm_num) (by omega)), fun h => ?_⟩
      have := hmono.mp (hfit.trans_lt h)
      omega
  rw [exponentFor, max_le_iff, and_comm]
  exact and_congr_right fun _ => hfits e

/-! ## Nearest numbers -/

/-- A nearest number is the quotient rounded in units of the exponent's power of two. -/
theorem value_of_nearest (hn : 0 < n) {x : Binary} (hx : nearest n d = some x) :
    x.value = inUnits n d (exponentFor n d) * 2 ^ exponentFor n d := by
  rw [nearest, if_neg hn.ne'] at hx
  simp only [Option.ite_none_right_eq_some, Option.some.injEq] at hx
  obtain ⟨-, rfl⟩ := hx
  by_cases hcarry : inUnits n d (exponentFor n d) = twoTo 53
  · rw [if_pos hcarry, hcarry, value, zpow_add₀ (by norm_num)]
    norm_num [twoTo_eq_pow]
    ring
  · rw [if_neg hcarry, value]

/-- A quotient below `2 ^ (53 + e)` is rounded in units of `2 ^ e` or smaller ones, to a number of
the format. -/
theorem exists_rounded (hn : 0 < n) (hd : 0 < d) {e : ℤ} (hmin : minExponent ≤ e)
    (hmax : e < maxExponent) (hlt : (n : ℚ) / d < 2 ^ (53 + e)) :
    exponentFor n d ≤ e ∧ ∃ x, nearest n d = some x := by
  have hexp : exponentFor n d ≤ e := (exponentFor_le_iff hn hd e).mpr ⟨hmin, hlt⟩
  refine ⟨hexp, ?_⟩
  rw [nearest, if_neg hn.ne']
  simp only [Option.ite_none_right_eq_some]
  refine ⟨_, ?_, rfl⟩
  split <;> simp only <;> omega

/-- The distance of a whole number of units, in units. -/
theorem dist_units (q : ℚ) (k c : ℤ) :
    |(k : ℚ) * 2 ^ c - q| = |q * 2 ^ (-c) - k| * 2 ^ c := by
  have hunit : (0 : ℚ) < 2 ^ c := zpow_pos (by norm_num) c
  have hscaled : (k : ℚ) * 2 ^ c - q = -(q * 2 ^ (-c) - k) * 2 ^ c := by
    rw [zpow_neg]
    field_simp
    ring
  rw [hscaled, abs_mul, abs_neg, abs_of_pos hunit]

/-- The nearest number to a quotient below `2 ^ (53 + e)` is at most half of `2 ^ e` away. -/
theorem exists_nearest (n : ℕ) (hd : 0 < d) {e : ℤ} (hmin : minExponent ≤ e)
    (hmax : e < maxExponent) (hlt : (n : ℚ) / d < 2 ^ (53 + e)) :
    ∃ x, nearest n d = some x ∧ |x.value - n / d| ≤ 2 ^ e / 2 := by
  rcases Nat.eq_zero_or_pos n with rfl | hn
  · refine ⟨zero, rfl, ?_⟩
    rw [value_zero, Nat.cast_zero, zero_div, sub_zero, abs_zero]
    positivity
  obtain ⟨hexp, x, hx⟩ := exists_rounded hn hd hmin hmax hlt
  refine ⟨x, hx, ?_⟩
  set c := exponentFor n d with hc
  calc |x.value - n / d| = |(n : ℚ) / d * 2 ^ (-c) - (inUnits n d c : ℤ)| * 2 ^ c := by
        rw [value_of_nearest hn hx, ← hc, ← dist_units, Int.cast_natCast]
    _ ≤ 1 / 2 * 2 ^ c :=
        mul_le_mul_of_nonneg_right (halfEven_inUnits n hd c).near (zpow_pos (by norm_num) c).le
    _ ≤ 1 / 2 * 2 ^ e := by
        have := zpow_le_zpow_right₀ (by norm_num : (1 : ℚ) ≤ 2) hexp
        linarith
    _ = 2 ^ e / 2 := by ring

/-- No whole number of the quotient's units is nearer than the nearest number. -/
theorem dist_le_units (hn : 0 < n) (hd : 0 < d) {x : Binary} (hx : nearest n d = some x) (k : ℤ) :
    |x.value - n / d| ≤ |(k : ℚ) * 2 ^ exponentFor n d - n / d| := by
  rw [value_of_nearest hn hx, ← Int.cast_natCast, dist_units, dist_units]
  exact mul_le_mul_of_nonneg_right ((halfEven_inUnits n hd _).dist_le k)
    (zpow_pos (by norm_num) _).le

/-- No number of the format is nearer to a quotient than its nearest one. -/
theorem dist_nearest_le (hd : 0 < d) {x : Binary} (hx : nearest n d = some x) (y : Binary)
    (hdigits : y.significand < twoTo 53) (hmin : minExponent ≤ y.exponent) :
    |x.value - n / d| ≤ |y.value - n / d| := by
  rcases Nat.eq_zero_or_pos n with rfl | hn
  · obtain rfl : zero = x := Option.some.inj hx
    simp
  set c := exponentFor n d with hc
  rcases le_or_gt c y.exponent with hcoarse | hfine
  · have hwhole : y.value = ((y.significand * 2 ^ (y.exponent - c).toNat : ℕ) : ℤ) * 2 ^ c := by
      rw [value, show y.exponent = ((y.exponent - c).toNat : ℤ) + c by omega,
        zpow_add₀ (by norm_num), zpow_natCast]
      push_cast
      simp only [add_sub_cancel_right, Int.toNat_natCast]
      ring
    rw [hwhole]
    exact dist_le_units hn hd hx _
  · -- the quotient has its 53 digits, so all numbers with smaller units are below a whole number
    -- of the quotient's units that is below the quotient
    have hlow : (2 : ℚ) ^ (53 + (c - 1)) ≤ n / d := by
      by_contra hlt
      have := (exponentFor_le_iff hn hd (c - 1)).mpr ⟨by omega, not_le.mp hlt⟩
      omega
    have hpow : (2 : ℚ) ^ (53 + (c - 1)) = ((2 ^ 52 : ℕ) : ℤ) * 2 ^ c := by
      rw [show 53 + (c - 1) = (52 : ℕ) + c by push_cast; ring, zpow_add₀ (by norm_num),
        zpow_natCast]
      push_cast
      rfl
    have hbelow : y.value ≤ 2 ^ (53 + (c - 1)) := by
      have hdigits : (y.significand : ℚ) ≤ 2 ^ (53 : ℤ) := by exact_mod_cast hdigits.le
      rw [value, zpow_add₀ (by norm_num)]
      exact mul_le_mul hdigits (zpow_le_zpow_right₀ (by norm_num) (by omega))
        (zpow_pos (by norm_num) _).le (zpow_pos (by norm_num) _).le
    calc |x.value - n / d| ≤ |(2 : ℚ) ^ (53 + (c - 1)) - n / d| := by
          rw [hpow]
          exact dist_le_units hn hd hx _
      _ ≤ |y.value - n / d| := by
          rw [abs_sub_comm, abs_sub_comm y.value, abs_of_nonneg (by linarith),
            abs_of_nonneg (by linarith)]
          linarith

/-- A whole number of at most 53 binary digits is kept. -/
theorem exists_nearest_whole (hlt : n < twoTo 53) : ∃ x, nearest n 1 = some x ∧ x.value = n := by
  rcases Nat.eq_zero_or_pos n with rfl | hn
  · exact ⟨zero, rfl, value_zero⟩
  have hltq : ((n : ℚ) / (1 : ℕ)) < 2 ^ (53 + (0 : ℤ)) := by
    rw [← lt_scaled_iff n Nat.one_pos]
    simpa using hlt
  obtain ⟨hexp, x, hx⟩ := exists_rounded hn Nat.one_pos (by decide) (by decide) hltq
  refine ⟨x, hx, ?_⟩
  have hround := halfEven_inUnits n Nat.one_pos (exponentFor n 1)
  rw [value_of_nearest hn hx]
  -- the units are fractions, so the number is a whole number of them
  obtain ⟨k, hk⟩ : ∃ k : ℕ, exponentFor n 1 = -k := ⟨(-exponentFor n 1).toNat, by omega⟩
  rw [hk] at hround ⊢
  have hwhole : (n : ℚ) / (1 : ℕ) * 2 ^ (-(-(k : ℤ))) = ((n * 2 ^ k : ℕ) : ℤ) := by
    rw [neg_neg, zpow_natCast]
    push_cast
    ring
  rw [hwhole] at hround
  have hunits : inUnits n 1 (-(k : ℤ)) = n * 2 ^ k := by
    exact_mod_cast hround.unique (.intCast _)
  rw [hunits, zpow_neg, zpow_natCast, Nat.cast_mul, Nat.cast_pow, Nat.cast_ofNat]
  exact mul_inv_cancel_right₀ (by positivity) _

end Binary

end Registration.Number
