import Mathlib
import Registration.Number.Decimal

/-!
# What decimals stand for

`Decimal.value` is the rational number that a finite decimal stands for, however it is written.
Equality and order by value are equality and order of these numbers (`sameValue_iff_value_eq`,
`less_iff_value_lt`), so equality by value is an equivalence on finite decimals. A decimal brought
to a number of places keeps that form (`quantize_quantize`).
-/

namespace Registration.Number

theorem tenTo_eq_pow (k : ℕ) : tenTo k = 10 ^ k := rfl

namespace Decimal

/-- The number that a finite decimal stands for; the others count as zero. -/
def value : Decimal → ℚ
  | finite negative coefficient exponent =>
    (if negative then -(coefficient : ℚ) else coefficient) * 10 ^ exponent
  | _ => 0

/-! ## Equality and order by value -/

theorem cast_signedUnits (s : Bool) (c : ℕ) {e m : ℤ} (h : m ≤ e) :
    (signedUnits s c e m : ℚ) = value (finite s c e) * 10 ^ (-m) := by
  have hpow : ((10 : ℚ) ^ (e - m).toNat) = 10 ^ e * 10 ^ (-m) := by
    rw [← zpow_add₀ (by norm_num), ← zpow_natCast, Int.toNat_of_nonneg (by omega), sub_eq_add_neg]
  cases s
  · simp [signedUnits, value, tenTo_eq_pow, hpow]
    ring
  · simp [signedUnits, value, tenTo_eq_pow, hpow]
    ring

theorem sameValue_iff_value_eq {a b : Decimal} (ha : a.isFinite = true) (hb : b.isFinite = true) :
    a.sameValue b = true ↔ a.value = b.value := by
  cases a <;> cases b <;> simp only [isFinite, Bool.false_eq_true] at ha hb
  case finite s c e t d f =>
    have hscale : (10 : ℚ) ^ (-min e f) ≠ 0 := zpow_ne_zero _ (by norm_num)
    rw [sameValue, beq_iff_eq, ← Int.cast_inj (α := ℚ), cast_signedUnits s c (min_le_left e f),
      cast_signedUnits t d (min_le_right e f)]
    exact mul_left_inj' hscale

theorem less_iff_value_lt {a b : Decimal} (ha : a.isFinite = true) (hb : b.isFinite = true) :
    a.less b = true ↔ a.value < b.value := by
  cases a <;> cases b <;> simp only [isFinite, Bool.false_eq_true] at ha hb
  case finite s c e t d f =>
    have hscale : (0 : ℚ) < 10 ^ (-min e f) := zpow_pos (by norm_num) _
    rw [less, decide_eq_true_iff, ← Int.cast_lt (R := ℚ), cast_signedUnits s c (min_le_left e f),
      cast_signedUnits t d (min_le_right e f)]
    exact mul_lt_mul_iff_left₀ hscale

theorem isFinite_of_sameValue {a b : Decimal} (h : a.sameValue b = true) :
    a.isFinite = b.isFinite := by
  cases a <;> cases b <;> simp_all [sameValue, isFinite]

theorem sameValue_comm (a b : Decimal) : a.sameValue b = b.sameValue a := by
  cases a <;> cases b <;> simp only [sameValue]
  case finite s c e t d f => rw [min_comm f e, Bool.beq_comm]
  case infinite s t => rw [Bool.beq_comm]

theorem sameValue_trans {a b c : Decimal} (hab : a.sameValue b = true)
    (hbc : b.sameValue c = true) : a.sameValue c = true := by
  by_cases hb : b.isFinite = true
  · have ha : a.isFinite = true := (isFinite_of_sameValue hab).trans hb
    have hc : c.isFinite = true := (isFinite_of_sameValue hbc).symm.trans hb
    rw [sameValue_iff_value_eq ha hb] at hab
    rw [sameValue_iff_value_eq hb hc] at hbc
    rw [sameValue_iff_value_eq ha hc, hab, hbc]
  · cases a <;> cases b <;> cases c <;> simp_all [sameValue, isFinite]

/-- Decimals of one value are told from any third alike. -/
theorem sameValue_congr {a b : Decimal} (h : a.sameValue b = true) (c : Decimal) :
    a.sameValue c = b.sameValue c := by
  rw [Bool.eq_iff_iff]
  exact ⟨sameValue_trans (sameValue_comm a b ▸ h), sameValue_trans h⟩

/-! ## Digits -/

theorem digitCount_pos (n : ℕ) : 0 < digitCount n := by
  rw [digitCount, Text.natDigits]
  split <;> simp

theorem digitCount_of_lt {n : ℕ} (h : n < 10) : digitCount n = 1 := by
  rw [digitCount, Text.natDigits, if_pos h, List.length_singleton]

theorem digitCount_of_ge {n : ℕ} (h : 10 ≤ n) : digitCount n = digitCount (n / 10) + 1 := by
  rw [digitCount, Text.natDigits, if_neg (by omega), List.length_append, List.length_singleton,
    digitCount]

theorem digitCount_le_iff {n k : ℕ} (hk : 0 < k) : digitCount n ≤ k ↔ n < tenTo k := by
  induction k generalizing n with
  | zero => omega
  | succ k ih =>
    have hpos := tenTo_pos k
    rw [tenTo_succ]
    rcases Nat.lt_or_ge n 10 with hn | hn
    · rw [digitCount_of_lt hn]
      constructor <;> intro _ <;> omega
    · rw [digitCount_of_ge hn]
      rcases Nat.eq_zero_or_pos k with rfl | hk
      · have := digitCount_pos (n / 10)
        rw [tenTo_zero]
        omega
      · rw [Nat.add_le_add_iff_right, ih hk]
        omega

/-! ## Places -/

theorem isFinite_of_quantize {places precision : ℕ} {d q : Decimal} (hd : d.isFinite = true)
    (h : d.quantize places precision = some q) : q.isFinite = true := by
  cases d <;> simp only [isFinite, Bool.false_eq_true] at hd
  case finite s c e =>
    obtain ⟨u, -, rfl⟩ := Option.map_eq_some_iff.mp h
    rfl

/-- Rounded units fit the precision. -/
theorem unitsAt_fits {places precision c u : ℕ} {e : ℤ}
    (h : unitsAt places precision c e = some u) : u = 0 ∨ digitCount u ≤ precision := by
  unfold unitsAt at h
  dsimp only at h
  split_ifs at h with hc hs hp hd hp
  · simp_all
  · obtain rfl := Option.some.inj h
    right
    set k := (e + places).toNat
    have hc := digitCount_pos c
    have hlt : c < tenTo (digitCount c) := (digitCount_le_iff hc).mp le_rfl
    rw [digitCount_le_iff (by omega)]
    calc c * tenTo k
        < tenTo (digitCount c) * tenTo k := Nat.mul_lt_mul_of_pos_right hlt (tenTo_pos k)
      _ = tenTo (digitCount c + k) := (tenTo_add _ _).symm
      _ ≤ tenTo precision := Nat.pow_le_pow_right (by norm_num) (by omega)
  · exact .inl (Option.some.inj h).symm
  · obtain rfl := Option.some.inj h
    right
    omega

theorem unitsAt_self {places precision u : ℕ} (h : u = 0 ∨ digitCount u ≤ precision) :
    unitsAt places precision u (-places) = some u := by
  unfold unitsAt
  rcases h with rfl | h
  · simp
  · have hfit : ¬ precision < digitCount u := by omega
    by_cases hu : u = 0 <;> simp [hu, hfit]

/-- A decimal that has its places already is kept as it is written. -/
theorem quantize_quantize {places precision : ℕ} {d q : Decimal}
    (h : d.quantize places precision = some q) : q.quantize places precision = some q := by
  cases d with
  | finite s c e =>
    obtain ⟨u, hu, rfl⟩ := Option.map_eq_some_iff.mp h
    rw [quantize, unitsAt_self (unitsAt_fits hu)]
    rfl
  | infinite s => cases h
  | nan s signaling payload =>
    cases signaling with
    | true => cases h
    | false =>
      obtain rfl := Option.some.inj h
      rw [quantize, Nat.mod_mod]

end Decimal

end Registration.Number
