import Registration.Ledger
import Registration.Status

/-!
# Balances

The figures that a history of transactions implies: valid dues, valid payments, payments under way,
refunded dues, and the due date. The due date is that of the earliest due that the payments do not
cover; when all is covered, the last one given. The facts say what one more transaction adds.
-/

namespace Registration

/-- What a history of transactions amounts to. -/
structure Balances where
  dues : Int
  payments : Int
  openPayments : Int
  dueDate : Option Calendar.Date
  deriving DecidableEq

/-! ## Sums -/

def validDues (history : List Transaction) : List Transaction := history.filter (·.isValidDue)

/-- The cents of all transactions of a list. -/
def centsOf (ts : List Transaction) : Int := ts.foldr (fun t sum => t.amount.cents + sum) 0

/-- Sum of valid dues. -/
def duesOf (history : List Transaction) : Int := centsOf (validDues history)

/-- Sum of valid payments. -/
def paymentsOf (history : List Transaction) : Int := centsOf (history.filter (·.isValidPayment))

/-- Sum of payments under way. -/
def openPaymentsOf (history : List Transaction) : Int := centsOf (history.filter (·.isOpenPayment))

/-- Sum of refunded dues, counted as payments. -/
def refundsOf (history : List Transaction) : Int :=
  -centsOf ((validDues history).filter (·.amount.cents < 0))

/-- Some valid payment is not zero. -/
def hasValidPayments (history : List Transaction) : Bool :=
  history.any fun t => t.isValidPayment && t.amount.cents != 0

@[simp] theorem centsOf_nil : centsOf [] = 0 := rfl

@[simp] theorem centsOf_cons (t : Transaction) (ts : List Transaction) :
    centsOf (t :: ts) = t.amount.cents + centsOf ts := rfl

@[simp] theorem centsOf_append (ts us : List Transaction) :
    centsOf (ts ++ us) = centsOf ts + centsOf us := by
  induction ts with
  | nil => simp
  | cons t ts ih => simp only [List.cons_append, centsOf_cons, ih]; omega

theorem duesOf_append (h k : List Transaction) : duesOf (h ++ k) = duesOf h + duesOf k := by
  simp [duesOf, validDues]

theorem paymentsOf_append (h k : List Transaction) :
    paymentsOf (h ++ k) = paymentsOf h + paymentsOf k := by
  simp [paymentsOf]

section Dues

variable {ts : List Transaction} (hts : ∀ t ∈ ts, t.isValidDue = true) (h : List Transaction)
include hts

/-- Dues are no payments. -/
theorem paymentsOf_append_dues : paymentsOf (h ++ ts) = paymentsOf h := by
  have hnone : ts.filter (·.isValidPayment) = [] := List.filter_eq_nil_iff.mpr fun t ht => by
    simp [Transaction.isValidPayment_eq_false_of_isValidDue (hts t ht)]
  rw [paymentsOf, List.filter_append, hnone, List.append_nil, paymentsOf]

theorem openPaymentsOf_append_dues : openPaymentsOf (h ++ ts) = openPaymentsOf h := by
  have hnone : ts.filter (·.isOpenPayment) = [] := List.filter_eq_nil_iff.mpr fun t ht => by
    simp [Transaction.isOpenPayment_eq_false_of_isValidDue (hts t ht)]
  rw [openPaymentsOf, List.filter_append, hnone, List.append_nil, openPaymentsOf]

theorem hasValidPayments_append_dues : hasValidPayments (h ++ ts) = hasValidPayments h := by
  have hnone : ts.any (fun t => t.isValidPayment && t.amount.cents != 0) = false := by
    refine List.any_eq_false.mpr fun t ht => ?_
    simp [Transaction.isValidPayment_eq_false_of_isValidDue (hts t ht)]
  rw [hasValidPayments, List.any_append, hnone, Bool.or_false, hasValidPayments]

end Dues

/-! ## The due date -/

def lastDueDate (dues : List Transaction) : Option Calendar.Date :=
  (dues.filterMap (·.dueDate)).getLast?

/-- The first of the dues that brings their sum above the payments, given the sum before. -/
def firstUncovered (payments : Int) : Int → List Transaction → Option Transaction
  | _, [] => none
  | sum, t :: rest =>
    if payments < sum + t.amount.cents then some t
    else firstUncovered payments (sum + t.amount.cents) rest

def dueDateOf (history : List Transaction) : Option Calendar.Date :=
  match firstUncovered (paymentsOf history) 0 (validDues history) with
  | some t => t.dueDate.or (lastDueDate (validDues history))
  | none => lastDueDate (validDues history)

/-- What a history amounts to. -/
def Balances.ofHistory (history : List Transaction) : Balances :=
  ⟨duesOf history, paymentsOf history, openPaymentsOf history, dueDateOf history⟩

/-! ## The status implied -/

/-- The status that the balances imply when a status of the payment phase is asked for. -/
def Balances.resultingStatus (b : Balances) (graceCents : Int) (requested : Status) : Status :=
  if requested.isPaymentPhase then
    if b.dues ≤ 0 ∨ b.dues - graceCents ≤ b.payments then .paid
    else if b.payments ≤ 0 then .approved
    else .partiallyPaid
  else requested

theorem Balances.resultingStatus_of_not_paymentPhase {b : Balances} {grace : Int} {s : Status}
    (h : s.isPaymentPhase = false) : b.resultingStatus grace s = s := by
  simp [resultingStatus, h]

theorem Balances.isPaymentPhase_resultingStatus (b : Balances) (grace : Int) (s : Status) :
    (b.resultingStatus grace s).isPaymentPhase = s.isPaymentPhase := by
  simp only [resultingStatus]
  split
  · rename_i h
    rw [h]
    split
    · rfl
    · split <;> rfl
  · rfl

/-- Whatever the statuses of the payment phase have in common, the implied status shares. -/
theorem Balances.apply_resultingStatus {α : Type} {f : Status → α}
    (hf : ∀ s t : Status, s.isPaymentPhase = true → t.isPaymentPhase = true → f s = f t)
    (b : Balances) (grace : Int) (s : Status) : f (b.resultingStatus grace s) = f s := by
  by_cases hphase : s.isPaymentPhase = true
  · have hresult : (b.resultingStatus grace s).isPaymentPhase = true := by
      rw [isPaymentPhase_resultingStatus, hphase]
    exact hf _ s hresult hphase
  · rw [resultingStatus_of_not_paymentPhase (Bool.eq_false_iff.mpr hphase)]

end Registration
