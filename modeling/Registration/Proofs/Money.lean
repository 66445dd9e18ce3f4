import Registration.Policy
import Registration.Proofs.Number.Binary
import Registration.Proofs.Text.Digit

/-!
# Amounts are shown to the cent

Cents below `100 * 2 ^ 46` are whole binary numbers, and their hundredth part is below `2 ^ 46`, so
it is rounded in units of at most `2 ^ (-7)`: less than half a cent is lost, and the hundredths that
are shown are the cents again (`hundredths?_eq`). The text of an amount is therefore the one that
whole-number division writes (`moneyText_eq`).
-/

namespace Registration

open Number

/-! ## Digits -/

namespace Text

theorem natDigits_of_lt {d : Nat} (h : d < 10) : natDigits d = [digitChar d] := by
  rw [natDigits, if_pos h]

theorem paddedDigits_two (n : Nat) :
    paddedDigits 2 (n % 100) = natDigits (n % 100 / 10) ++ natDigits (n % 10) := by
  have htens : n % 100 / 10 < 10 := by omega
  have hones : n % 10 < 10 := Nat.mod_lt n (by decide)
  rw [natDigits_of_lt htens, natDigits_of_lt hones]
  simp only [paddedDigits, List.nil_append]
  rw [Nat.mod_eq_of_lt htens, Nat.mod_mod_of_dvd n (by decide : 10 ∣ 100)]

end Text

/-! ## Hundredths -/

namespace Money

/-- The hundredths that are shown for an amount are its cents. -/
theorem hundredths?_eq {n : Nat} (h : n < 100 * 2 ^ 46) : hundredths? n = some n := by
  obtain ⟨whole, hwhole, hkept⟩ := Binary.exists_nearest_whole (n := n) (by
    norm_num [twoTo_eq_pow] at h ⊢
    omega)
  have hratio : (whole.num : ℚ) / (whole.den * 100 : ℕ) = n / 100 := by
    rw [← hkept, ← Binary.num_div_den, Nat.cast_mul, div_div]
    norm_num
  have hltq : (n : ℚ) / 100 < 2 ^ (53 + (-7 : ℤ)) := by
    rw [div_lt_iff₀ (by norm_num), show 53 + (-7 : ℤ) = (46 : ℕ) by norm_num, zpow_natCast,
      mul_comm]
    exact_mod_cast h
  obtain ⟨quotient, hquotient, herror⟩ := Binary.exists_nearest whole.num
    (Nat.mul_pos whole.den_pos (by decide)) (e := -7) (by decide) (by decide) (hratio ▸ hltq)
  have hshown : HalfEven (quotient.value * 100) (quotient.roundTo 100 : ℤ) := by
    have hround := halfEven_roundDiv (quotient.num * 100) quotient.den_pos
    rwa [Nat.cast_mul, mul_div_right_comm, Binary.num_div_den] at hround
  -- in hundredths the error is at most `100 / 2 ^ 8`
  have hnear : HalfEven (quotient.value * 100) (n : ℤ) := by
    rw [hratio, abs_le] at herror
    norm_num at herror
    refine .of_lt (abs_lt.mpr ⟨?_, ?_⟩) <;> push_cast <;> linarith [herror.1, herror.2]
  have hcents : quotient.roundTo 100 = n := by exact_mod_cast hshown.unique hnear
  simp only [hundredths?, hwhole, Option.bind_eq_bind, Option.bind_some, Binary.divNat, hquotient,
    hcents]

/-- One cent above the bound is shown as two. -/
example : hundredths? (100 * 2 ^ 46 + 1) = some (100 * 2 ^ 46 + 2) := by decide +kernel

end Money

/-! ## Texts -/

/-- Below `100 * 2 ^ 46` cents an amount is shown exactly: the currency, the sign of a negative
amount, the whole units, and the cents with two digits. -/
theorem Policy.moneyText_eq (p : Policy) {cents : Int} (h : |cents| < 100 * 2 ^ 46) :
    p.moneyText cents = .ok (p.currency ++ " " ++ (if cents < 0 then "-" else "") ++
      toString (cents.natAbs / 100) ++ "." ++
      toString (cents.natAbs % 100 / 10) ++ toString (cents.natAbs % 10)) := by
  have hsmall : cents.natAbs < 100 * 2 ^ 46 := by
    rw [Int.abs_eq_natAbs] at h
    exact_mod_cast h
  have hsign : String.ofList (if cents < 0 then ['-'] else []) = if cents < 0 then "-" else "" := by
    split <;> rfl
  have hpoint (cs : List Char) : String.ofList ('.' :: cs) = "." ++ String.ofList cs :=
    @String.ofList_append ['.'] cs
  simp only [moneyText, Money.text?, Money.chars?, Money.hundredths?_eq hsmall, Option.map_some,
    Money.pointChars, Text.paddedDigits_two, String.ofList_append, hsign, hpoint,
    Text.ofList_natDigits, String.append_assoc]

/-- The largest debt in the range. -/
theorem Policy.moneyText_largest :
    |(-7036874417766399 : Int)| < 100 * 2 ^ 46 ∧
      Policy.moneyText
        { packages := .empty, currency := "EUR", guestFlag := "guest", manualDuesRate := .ofInt 19,
          graceCents := 100, dueDays := 14, earliestDueDate := none, latestDueDate := none,
          datePattern := "%d.%m.%Y", publicUrl := "https://example.org/",
          deskPermission := "desk" } (-7036874417766399) =
        .ok "EUR -70368744177663.99" :=
  have h : |(-7036874417766399 : Int)| < 100 * 2 ^ 46 := by norm_num
  ⟨h, (Policy.moneyText_eq _ h).trans (by rfl)⟩

end Registration
