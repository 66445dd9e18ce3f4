import Mathlib.Tactic
import Registration.Dues.Balances

/-!
# Paying more

A payment moves the first due that is not covered on to a later one, or to none
(`later_of_firstUncovered`). That due is positive, so where every positive due has a date and dates
come in order, the due date moves on as well, and so does the last date given, which takes its place
when all is covered. The status that the balances imply climbs from approved over partially paid to
paid, and a payment never brings it down (`paying_never_hurts`).
-/

namespace Registration

/-! ## The first due that is not covered -/

section Scan

variable {payments payments' sum : Int} {dues : List Transaction} {t : Transaction}

theorem mem_of_firstUncovered (h : firstUncovered payments sum dues = some t) : t ∈ dues := by
  induction dues generalizing sum with
  | nil => cases h
  | cons u rest ih =>
    unfold firstUncovered at h
    split at h
    · obtain rfl := Option.some.inj h
      exact List.mem_cons_self
    · exact List.mem_cons_of_mem u (ih h)

/-- What covers all dues still does so with more payments. -/
theorem firstUncovered_eq_none_of_le (hle : payments ≤ payments')
    (h : firstUncovered payments sum dues = none) : firstUncovered payments' sum dues = none := by
  induction dues generalizing sum with
  | nil => rfl
  | cons u rest ih =>
    unfold firstUncovered at h ⊢
    split at h
    · cases h
    · rename_i hcovered
      rw [if_neg (by omega)]
      exact ih h

/-- The first due that is not covered is positive, and with more payments it is this one or a later
one. -/
theorem later_of_firstUncovered (hle : payments ≤ payments') (hsum : sum ≤ payments)
    (h : firstUncovered payments sum dues = some t) :
    0 < t.amount.cents ∧ ∃ earlier later, dues = earlier ++ t :: later ∧
      ∀ u, firstUncovered payments' sum dues = some u → u ∈ t :: later := by
  induction dues generalizing sum with
  | nil => cases h
  | cons v rest ih =>
    by_cases hfirst : payments < sum + v.amount.cents
    · rw [firstUncovered, if_pos hfirst] at h
      obtain rfl := Option.some.inj h
      exact ⟨by omega, [], rest, rfl, fun u hu => mem_of_firstUncovered hu⟩
    · rw [firstUncovered, if_neg hfirst] at h
      obtain ⟨hpos, earlier, later, rfl, hlater⟩ := ih (not_lt.mp hfirst) h
      refine ⟨hpos, v :: earlier, later, rfl, fun u hu => hlater u ?_⟩
      rwa [firstUncovered, if_neg (by omega)] at hu

end Scan

/-! ## Dates in order -/

/-- Every positive due has a date, and no date is before one given earlier. -/
structure DatedInOrder (h : List Transaction) : Prop where
  dated : ∀ t ∈ validDues h, 0 < t.amount.cents → ∃ d, t.dueDate = some d
  ordered : ((validDues h).filterMap (·.dueDate)).Pairwise (· ≤ ·)

namespace DatedInOrder

variable {h earlier later : List Transaction} {t : Transaction} {d : Calendar.Date}

/-- No date from a due on is before its own. -/
theorem le_of_split (hdated : DatedInOrder h) (hsplit : validDues h = earlier ++ t :: later)
    (hd : t.dueDate = some d) :
    ∀ e ∈ (t :: later).filterMap (·.dueDate), d ≤ e := by
  have hordered := hdated.ordered
  rw [hsplit, List.filterMap_append] at hordered
  have hfrom := (List.pairwise_append.mp hordered).2.1
  rw [List.filterMap_cons_some hd] at hfrom ⊢
  intro e he
  rcases List.mem_cons.mp he with rfl | he
  · exact Nat.le_refl _
  · exact (List.pairwise_cons.mp hfrom).1 e he

/-- The last date given is not before any other. -/
theorem le_lastDueDate (hdated : DatedInOrder h) (hsplit : validDues h = earlier ++ t :: later)
    (hd : t.dueDate = some d) : ∃ e, lastDueDate (validDues h) = some e ∧ d ≤ e := by
  have hfrom := hdated.le_of_split hsplit hd
  rw [List.filterMap_cons_some hd] at hfrom
  refine ⟨_, ?_, hfrom _ (List.getLast_mem (List.cons_ne_nil _ _))⟩
  rw [lastDueDate, hsplit, List.filterMap_append, List.filterMap_cons_some hd,
    List.getLast?_append_of_ne_nil _ (List.cons_ne_nil _ _), List.getLast?_eq_getLast_of_ne_nil]

end DatedInOrder

theorem dueDateOf_of_firstUncovered {h : List Transaction} {t : Transaction} {d : Calendar.Date}
    (hfirst : firstUncovered (paymentsOf h) 0 (validDues h) = some t) (hd : t.dueDate = some d) :
    dueDateOf h = some d := by
  simp [dueDateOf, hfirst, hd]

theorem dueDateOf_of_covered {h : List Transaction}
    (hnone : firstUncovered (paymentsOf h) 0 (validDues h) = none) :
    dueDateOf h = lastDueDate (validDues h) := by
  rw [dueDateOf, hnone]

/-! ## The status implied -/

/-- The statuses of the payment phase, from what is owed to what is paid. -/
def Status.paymentLadder : List Status := [.approved, .partiallyPaid, .paid]

/-- Both statuses are on the ladder, the second one no lower than the first. -/
def Status.ClimbsTo (s t : Status) : Prop :=
  ∃ i j : ℕ, paymentLadder[i]? = some s ∧ paymentLadder[j]? = some t ∧ i ≤ j

/-- The status implied climbs with the payments. -/
theorem Balances.climbs_resultingStatus {b b' : Balances} (hdues : b'.dues = b.dues)
    (hpayments : b.payments ≤ b'.payments) (grace : Int) {requested : Status}
    (hphase : requested.isPaymentPhase = true) :
    (b.resultingStatus grace requested).ClimbsTo (b'.resultingStatus grace requested) := by
  simp only [resultingStatus, hphase, if_true, hdues]
  by_cases hpaid : b.dues ≤ 0 ∨ b.dues - grace ≤ b.payments
  · have hpaid' : b.dues ≤ 0 ∨ b.dues - grace ≤ b'.payments := hpaid.imp_right (·.trans hpayments)
    rw [if_pos hpaid, if_pos hpaid']
    exact ⟨2, 2, rfl, rfl, le_rfl⟩
  · rw [if_neg hpaid]
    by_cases hnothing : b.payments ≤ 0
    · rw [if_pos hnothing]
      split_ifs
      · exact ⟨0, 2, rfl, rfl, by omega⟩
      · exact ⟨0, 0, rfl, rfl, le_rfl⟩
      · exact ⟨0, 1, rfl, rfl, by omega⟩
    · have hsome : ¬ b'.payments ≤ 0 := by omega
      rw [if_neg hnothing, if_neg hsome]
      split_ifs
      · exact ⟨1, 2, rfl, rfl, by omega⟩
      · exact ⟨1, 1, rfl, rfl, le_rfl⟩

/-! ## One more payment -/

section Payment

variable {h : List Transaction} {t : Transaction} (ht : t.isValidPayment = true)
include ht

theorem validDues_concat_payment : validDues (h ++ [t]) = validDues h := by
  have hnot : t.isValidDue = false := by
    by_contra hdue
    simp [Transaction.isValidPayment_eq_false_of_isValidDue (Bool.not_eq_false _ ▸ hdue)] at ht
  simp [validDues, hnot]

theorem paymentsOf_concat_payment : paymentsOf (h ++ [t]) = paymentsOf h + t.amount.cents := by
  rw [paymentsOf_append]
  simp [paymentsOf, ht]

/-- The due date is there as before and does not become earlier. -/
theorem dueDateOf_concat_payment (hdated : DatedInOrder h) (hpaid : 0 ≤ paymentsOf h)
    (hcents : 0 ≤ t.amount.cents) :
    dueDateOf (h ++ [t]) = dueDateOf h ∨
      ∃ d e, dueDateOf h = some d ∧ dueDateOf (h ++ [t]) = some e ∧ d ≤ e := by
  have hdues := validDues_concat_payment (h := h) ht
  have hpayments := paymentsOf_concat_payment (h := h) ht
  have hle : paymentsOf h ≤ paymentsOf (h ++ [t]) := by omega
  cases hfirst : firstUncovered (paymentsOf h) 0 (validDues h) with
  | none =>
    left
    have hfirst' := firstUncovered_eq_none_of_le hle hfirst
    rw [← hdues] at hfirst'
    rw [dueDateOf_of_covered hfirst', dueDateOf_of_covered hfirst, hdues]
  | some u =>
    right
    obtain ⟨hpos, earlier, later, hsplit, hlater⟩ := later_of_firstUncovered hle hpaid hfirst
    obtain ⟨d, hd⟩ := hdated.dated u (mem_of_firstUncovered hfirst) hpos
    cases hfirst' : firstUncovered (paymentsOf (h ++ [t])) 0 (validDues h) with
    | none =>
      obtain ⟨e, he, hde⟩ := hdated.le_lastDueDate hsplit hd
      rw [← hdues] at hfirst'
      exact ⟨d, e, dueDateOf_of_firstUncovered hfirst hd,
        by rw [dueDateOf_of_covered hfirst', hdues, he], hde⟩
    | some v =>
      have hpos' := (later_of_firstUncovered le_rfl (hpaid.trans hle) hfirst').1
      obtain ⟨e, he⟩ := hdated.dated v (mem_of_firstUncovered hfirst') hpos'
      have hmem : e ∈ (u :: later).filterMap (·.dueDate) :=
        List.mem_filterMap.mpr ⟨v, hlater v hfirst', he⟩
      rw [← hdues] at hfirst'
      exact ⟨d, e, dueDateOf_of_firstUncovered hfirst hd, dueDateOf_of_firstUncovered hfirst' he,
        hdated.le_of_split hsplit hd e hmem⟩

end Payment

/-- Where payments are not negative in sum and dues are dated in order, a further payment leaves the
dues, does not move the due date back, and neither makes nor removes one. The status implied for any
status of the payment phase climbs or stays, whatever the tolerance. -/
theorem paying_never_hurts {h : List Transaction} {t : Transaction} (hpaid : 0 ≤ paymentsOf h)
    (hdated : DatedInOrder h) (ht : t.isValidPayment = true) (hcents : 0 ≤ t.amount.cents) :
    let b := Balances.ofHistory h
    let b' := Balances.ofHistory (h ++ [t])
    (b'.dueDate.isSome = b.dueDate.isSome ∧
      ∀ d d', b.dueDate = some d → b'.dueDate = some d' → d ≤ d') ∧
    b'.dues = b.dues ∧
    ∀ requested : Status, requested.isPaymentPhase = true → ∀ grace,
      (b.resultingStatus grace requested).ClimbsTo (b'.resultingStatus grace requested) := by
  intro b b'
  have hdues : b'.dues = b.dues := by
    change duesOf (h ++ [t]) = duesOf h
    rw [duesOf, validDues_concat_payment ht, duesOf]
  have hpayments : b.payments ≤ b'.payments := by
    change paymentsOf h ≤ paymentsOf (h ++ [t])
    rw [paymentsOf_concat_payment ht]
    omega
  refine ⟨?_, hdues, fun requested hphase grace =>
    Balances.climbs_resultingStatus hdues hpayments grace hphase⟩
  rcases dueDateOf_concat_payment ht hdated hpaid hcents with hsame | ⟨d, e, hd, he, hde⟩
  · have hsame : b'.dueDate = b.dueDate := hsame
    rw [hsame]
    refine ⟨rfl, fun d d' hd hd' => ?_⟩
    obtain rfl := Option.some.inj (hd.symm.trans hd')
    exact Nat.le_refl _
  · have hd : b.dueDate = some d := hd
    have he : b'.dueDate = some e := he
    rw [hd, he]
    refine ⟨rfl, ?_⟩
    rintro _ _ ⟨⟩ ⟨⟩
    exact hde

/-- An entry of an account that counts. -/
def accountEntry (kind : TransactionKind) (cents : Int) (due : Option Calendar.Date) :
    Transaction where
  debitor := 1
  kind := kind
  amount := ⟨"EUR", cents, .finite false 19 0⟩
  state := .valid
  method := .internal
  comment := ""
  effectiveDate := none
  dueDate := due
  id := none

/-- Two dues with a credit between them that has no date; the first due is paid in part. -/
def partlyPaid : List Transaction := [
  accountEntry .due 100 (some ⟨2024, 1, 15, by decide⟩), accountEntry .payment 80 none,
  accountEntry .due (-30) none, accountEntry .due 50 (some ⟨2024, 2, 1, by decide⟩)]

/-- A payment that covers the first due moves the due date to that of the second one, past the
credit. -/
theorem due_date_after_second_payment :
    let t := accountEntry .payment 30 none
    let b := Balances.ofHistory partlyPaid
    let b' := Balances.ofHistory (partlyPaid ++ [t])
    0 ≤ paymentsOf partlyPaid ∧ DatedInOrder partlyPaid ∧ t.isValidPayment = true ∧
      b.dueDate = some ⟨2024, 1, 15, by decide⟩ ∧ b'.dueDate = some ⟨2024, 2, 1, by decide⟩ ∧
      b'.dues = b.dues ∧
      (b.resultingStatus 0 .approved).ClimbsTo (b'.resultingStatus 0 .approved) := by
  intro t b b'
  have hpaid : 0 ≤ paymentsOf partlyPaid := by decide
  have hdated : DatedInOrder partlyPaid := ⟨by
    simp [partlyPaid, accountEntry, validDues, Transaction.isValidDue], by decide⟩
  obtain ⟨-, hdues, hclimbs⟩ := paying_never_hurts hpaid hdated (t := t) (by decide) (by decide)
  exact ⟨hpaid, hdated, by decide, by decide, by decide, hdues, hclimbs .approved rfl 0⟩

end Registration
