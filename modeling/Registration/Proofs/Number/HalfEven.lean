import Mathlib
import Registration.Number.Rounding

/-!
# Rounding half to even

`HalfEven q m` says that `m` is the whole number nearest to `q`, and the even one if two are equally
near. No other whole number is (`HalfEven.unique`), larger numbers are not rounded to smaller ones
(`HalfEven.mono`), and `roundDiv` rounds quotients in this way (`halfEven_roundDiv`).
-/

namespace Registration.Number

/-- The whole number nearest to a number, of two equally near ones the even one. -/
structure HalfEven (q : ℚ) (m : ℤ) : Prop where
  near : |q - m| ≤ 1 / 2
  even : |q - m| = 1 / 2 → Even m

namespace HalfEven

variable {q r : ℚ} {m n : ℤ}

theorem of_lt (h : |q - m| < 1 / 2) : HalfEven q m := ⟨h.le, fun htie => absurd htie h.ne⟩

theorem intCast (m : ℤ) : HalfEven m m := of_lt (by simp)

theorem neg (h : HalfEven q m) : HalfEven (-q) (-m) := by
  have hflip : |-q - ((-m : ℤ) : ℚ)| = |q - m| := by
    rw [Int.cast_neg, ← abs_neg]
    congr 1
    ring
  exact ⟨hflip ▸ h.near, fun htie => (h.even (hflip ▸ htie)).neg⟩

/-- No whole number is nearer. -/
theorem dist_le (h : HalfEven q m) (k : ℤ) : |q - m| ≤ |q - k| := by
  by_cases hk : k = m
  · rw [hk]
  have hapart : (1 : ℚ) ≤ |(m : ℚ) - k| := by
    exact_mod_cast Int.one_le_abs (sub_ne_zero.mpr (Ne.symm hk))
  have htri := abs_sub_le (m : ℚ) q k
  rw [abs_sub_comm (m : ℚ) q] at htri
  linarith [h.near]

/-- Rounding keeps the order. -/
theorem mono (h : HalfEven q m) (k : HalfEven r n) (hqr : q ≤ r) : m ≤ n := by
  by_contra hlt
  have hstep : (n : ℚ) + 1 ≤ m := by exact_mod_cast Int.lt_of_not_ge hlt
  have hq := abs_le.mp h.near
  have hr := abs_le.mp k.near
  -- only two neighbours with a tie between them are left
  have hm : q - m = -(1 / 2) := by linarith [hq.1, hr.2]
  have hn : r - n = 1 / 2 := by linarith [hq.1, hr.2]
  have hnext : m = n + 1 := by
    have : (m : ℚ) = n + 1 := by linarith
    exact_mod_cast this
  have hmeven : Even m := h.even (by rw [hm]; norm_num)
  have hneven : Even n := k.even (by rw [hn]; norm_num)
  rw [hnext, Int.even_add_one] at hmeven
  exact hmeven hneven

theorem unique (h : HalfEven q m) (k : HalfEven q n) : m = n :=
  le_antisymm (h.mono k le_rfl) (k.mono h le_rfl)

end HalfEven

/-- A quotient is rounded half to even. -/
theorem halfEven_roundDiv (n : ℕ) {d : ℕ} (hd : 0 < d) :
    HalfEven ((n : ℚ) / d) (roundDiv n d : ℤ) := by
  have hdpos : (0 : ℚ) < d := by exact_mod_cast hd
  have hupper : (2 : ℚ) * (d * roundDiv n d) ≤ 2 * n + d := by
    exact_mod_cast two_mul_roundDiv_le n d
  have hlower : (2 : ℚ) * n ≤ 2 * (d * roundDiv n d) + d := by
    exact_mod_cast le_two_mul_roundDiv n hd
  have hscale : (n : ℚ) / d - (roundDiv n d : ℤ) = (n - d * roundDiv n d) / d := by
    rw [Int.cast_natCast, sub_div, mul_div_cancel_left₀ _ hdpos.ne']
  refine ⟨?_, fun htie => ?_⟩
  · rw [hscale, abs_div, abs_of_pos hdpos, div_le_iff₀ hdpos, abs_le]
    constructor <;> linarith
  · rw [hscale, abs_div, abs_of_pos hdpos, div_eq_iff hdpos.ne', abs_eq (by positivity)] at htie
    have htied : 2 * n = 2 * (d * roundDiv n d) + d ∨ 2 * n + d = 2 * (d * roundDiv n d) := by
      rcases htie with hbelow | habove
      · have hcast : (2 * n : ℚ) = 2 * (d * roundDiv n d) + d := by linarith
        exact .inl (by exact_mod_cast hcast)
      · have hcast : (2 * n : ℚ) + d = 2 * (d * roundDiv n d) := by linarith
        exact .inr (by exact_mod_cast hcast)
    -- at a distance of half a unit the remainder is half of the divisor
    have hsplit := Nat.div_add_mod n d
    have hmod := Nat.mod_lt n hd
    have hrem : 2 * (n % d) = d := by
      rcases roundDiv_eq_or n d with hq | hq
      · rw [hq] at htied
        omega
      · rw [hq, Nat.mul_add] at htied
        omega
    exact_mod_cast Nat.even_iff.mpr (roundDiv_even_of_tie hrem)

end Registration.Number
