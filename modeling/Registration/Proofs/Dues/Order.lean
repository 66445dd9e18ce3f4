import Registration.Proofs.Dues.Targets
import Registration.Proofs.Dues.Totals

/-!
# The order of a history

Sums over a history do not depend on its order, and neither do the buckets: the same keys meet in
any order, and the cents of a key add up to the same (`buckets_of_perm`). The due date and the
voiding of dues depend on the order of the dues, but on no other: a history in another order that
keeps the dues in theirs has the same balances, the same list of buckets and the same cancellation
(`Reordered`).
-/

namespace Registration

open Number (Decimal)

/-! ## Sums -/

section Sums

variable {h k : List Transaction}

theorem centsOf_of_perm (hperm : k.Perm h) : centsOf k = centsOf h := by
  rw [centsOf_eq_sum, centsOf_eq_sum]
  exact (hperm.map _).sum_eq

variable (hperm : k.Perm h)
include hperm

theorem duesOf_of_perm : duesOf k = duesOf h := centsOf_of_perm (hperm.filter _)

theorem paymentsOf_of_perm : paymentsOf k = paymentsOf h := centsOf_of_perm (hperm.filter _)

theorem openPaymentsOf_of_perm : openPaymentsOf k = openPaymentsOf h :=
  centsOf_of_perm (hperm.filter _)

theorem refundsOf_of_perm : refundsOf k = refundsOf h :=
  congrArg Neg.neg (centsOf_of_perm ((hperm.filter _).filter _))

theorem hasValidPayments_of_perm : hasValidPayments k = hasValidPayments h :=
  hperm.any_eq

end Sums

/-! ## Buckets -/

namespace Buckets

theorem hasKeyIn_addTo (j key : Decimal) (n : Int) (es : List (Decimal × Int)) :
    hasKeyIn j (addTo key n es) = (hasKeyIn j es || key.sameValue j) := by
  induction es with
  | nil => simp [addTo, hasKeyIn]
  | cons e rest ih =>
    unfold addTo
    by_cases hkey : e.1.sameValue key = true
    · rw [if_pos hkey, ← Decimal.sameValue_congr hkey j]
      cases hj : e.1.sameValue j <;> simp [hasKeyIn, hj]
    · rw [if_neg hkey]
      unfold hasKeyIn at ih ⊢
      rw [List.any_cons, ih, List.any_cons, Bool.or_assoc]

theorem hasKey_foldlM_addDue {h : List Transaction} {B C : Buckets}
    (hC : h.foldlM addDue B = .ok C) (key : Decimal) :
    C.hasKey key = (B.hasKey key || (validDues h).any fun t => withKey key t.amount.rate) := by
  induction h generalizing B with
  | nil =>
    rw [← pure_eq_ok_iff.mp hC]
    exact (Bool.or_false _).symm
  | cons t rest ih =>
    obtain ⟨M, hM, hC⟩ := bind_eq_ok_iff.mp hC
    have hrest := ih hC
    rcases addDue_cases hM with ⟨hdue, j, hj, rfl⟩ | ⟨hdue, rfl⟩
    · have hadd : (B.add j t.amount.cents).hasKey key = (B.hasKey key || j.sameValue key) :=
        hasKeyIn_addTo key j t.amount.cents B.entries
      rw [hrest, hadd, validDues_cons_of_pos hdue, List.any_cons, withKey_of_rateKey hj,
        Bool.or_assoc]
    · rw [hrest, validDues_cons_of_neg hdue]

/-- There is a bucket for a key exactly if a valid due falls under it. -/
theorem hasKey_ofHistory {h : List Transaction} {B : Buckets} (hB : ofHistory h = .ok B)
    (key : Decimal) :
    B.hasKey key = (validDues h).any fun t => withKey key t.amount.rate :=
  hasKey_foldlM_addDue hB key

/-- A history in another order has buckets for the same keys with the same cents, or none either. -/
theorem buckets_of_perm {h k : List Transaction} (hperm : k.Perm h) :
    (∀ e, ofHistory h = .error e → ofHistory k = .error e) ∧
      ∀ B, ofHistory h = .ok B → ∃ C, ofHistory k = .ok C ∧
        ∀ key, C.hasKey key = B.hasKey key ∧ C.cents key = B.cents key := by
  have hkeys := fun h => exists_foldlM_iff exists_addDue_iff h empty
  have hexists : (∃ C, ofHistory k = .ok C) ↔ ∃ B, ofHistory h = .ok B := by
    rw [ofHistory, ofHistory, hkeys, hkeys]
    simp only [hperm.mem_iff]
  refine ⟨fun e he => ?_, fun B hB => ?_⟩
  · cases hk : ofHistory k with
    | error f => rw [error_of_ofHistory hk, error_of_ofHistory he]
    | ok C =>
      obtain ⟨B, hB⟩ := hexists.mp ⟨C, hk⟩
      cases hB.symm.trans he
  · obtain ⟨C, hC⟩ := hexists.mpr ⟨B, hB⟩
    refine ⟨C, hC, fun key => ⟨?_, ?_⟩⟩
    · rw [hasKey_ofHistory hC, hasKey_ofHistory hB]
      exact (hperm.filter _).any_eq
    · rw [cents_ofHistory hC, cents_ofHistory hB, centsAt_of_perm hperm]

theorem foldlM_addDue_validDues (h : List Transaction) (B : Buckets) :
    (validDues h).foldlM addDue B = h.foldlM addDue B := by
  induction h generalizing B with
  | nil => rfl
  | cons t rest ih =>
    cases hdue : t.isValidDue with
    | true =>
      rw [validDues_cons_of_pos hdue, List.foldlM_cons, List.foldlM_cons]
      exact bind_congr fun M => ih M
    | false =>
      have hskip : B.addDue t = .ok B := if_neg (Bool.eq_false_iff.mp hdue)
      rw [validDues_cons_of_neg hdue, ih, List.foldlM_cons, bind_of_eq_ok hskip]

end Buckets

/-! ## Histories with their dues in order -/

/-- The second history is the first one in another order that keeps the valid dues in theirs. -/
structure Reordered (h k : List Transaction) : Prop where
  perm : k.Perm h
  dues : validDues k = validDues h

namespace Reordered

variable {h k : List Transaction}

theorem append (hk : Reordered h k) (ts : List Transaction) : Reordered (h ++ ts) (k ++ ts) where
  perm := hk.perm.append_right ts
  dues := by
    have hdues := hk.dues
    unfold validDues at hdues ⊢
    rw [List.filter_append, List.filter_append, hdues]

/-- The due date is found by the payments and the dues in order. -/
theorem balances (hk : Reordered h k) : Balances.ofHistory k = Balances.ofHistory h := by
  have hdate : dueDateOf k = dueDateOf h := by
    rw [dueDateOf, dueDateOf, paymentsOf_of_perm hk.perm, hk.dues]
  rw [Balances.ofHistory, Balances.ofHistory, duesOf_of_perm hk.perm, paymentsOf_of_perm hk.perm,
    openPaymentsOf_of_perm hk.perm, hdate]

theorem buckets (hk : Reordered h k) : Buckets.ofHistory k = Buckets.ofHistory h := by
  have hfold := fun h => Buckets.foldlM_addDue_validDues h .empty
  rw [Buckets.ofHistory, Buckets.ofHistory, ← hfold k, ← hfold h, hk.dues]

theorem cancellation (hk : Reordered h k) :
    Registration.cancellation k = Registration.cancellation h := by
  rw [Registration.cancellation, Registration.cancellation, paymentsOf_of_perm hk.perm,
    refundsOf_of_perm hk.perm, hk.dues]

end Reordered

end Registration
