import Registration.Text.Digit
import Registration.Text.Quoted

/-!
# Failures

Why an operation did not end normally. Rejections are expected answers to a request; outages mean
that a collaborator was unavailable or a record was missing; the last three mean that a number or a
date cannot be represented. `Failure.message` is the one place with the wording.
-/

namespace Registration

/-- Why an operation did not end normally. -/
inductive Failure where
  | sameStatus
  | hasPaymentBalance
  | insufficientPayment
  | approvalNeeded
  | cannotDelete
  | unknownStatus (word : String)
  | loginNeeded
  | forbidden
  | overrun (package : String)
  | duplicate
  | ledgerUnavailable (detail : String)
  | mailUnavailable (detail : String)
  | countMissing (area name : String)
  | attendeeNotFound (id : Int)
  | debitorNotFound (id : Int)
  /-- A VAT rate has no key. -/
  | unusableRate
  /-- A day lies outside the calendar. -/
  | dateOutOfRange
  /-- An amount has no money text. -/
  | amountTooLarge
  deriving DecidableEq, Repr

namespace Failure

/-- An expected answer to a request, not a fault. -/
def isRejection : Failure → Bool
  | sameStatus | hasPaymentBalance | insufficientPayment | approvalNeeded | cannotDelete
  | unknownStatus _ | loginNeeded | forbidden | overrun _ | duplicate => true
  | _ => false

/-- A number or a date cannot be represented. -/
def isUnrepresentable : Failure → Bool
  | unusableRate | dateOutOfRange | amountTooLarge => true
  | _ => false

def message : Failure → String
  | sameStatus => "old and new status are the same"
  | hasPaymentBalance =>
    "there is a non-zero payment balance, please use partially paid, or refund"
  | insufficientPayment => "payment amount not sufficient for this status"
  | approvalNeeded => "must use approved status to produce a dues transaction first"
  | cannotDelete =>
    "cannot delete attendee for legal reasons (there were payments or invoices)"
  | unknownStatus word => "unknown status value " ++ Text.quoted word
  | loginNeeded => "all status changes require a logged in user"
  | forbidden =>
    "you are not allowed to make this status transition - the attempt has been logged"
  | overrun package =>
    "cannot allocate package '" ++ package ++
      "', allocation limit reached - please remove this package to continue"
  | duplicate => "duplicate attendee data - same nickname, zip and email already registered"
  | ledgerUnavailable detail => detail
  | mailUnavailable detail => detail
  | countMissing area name =>
    "count for area " ++ area ++ " name " ++ name ++ " was never initialized"
  | attendeeNotFound id => "attendee " ++ Text.intText id ++ " not found"
  | debitorNotFound id => "debitor " ++ Text.intText id ++ " not found"
  | unusableRate => "the VAT rate has no key"
  | dateOutOfRange => "the day lies outside the calendar"
  | amountTooLarge => "the amount is too large to be shown"

end Failure

/-! ## Steps that may fail -/

theorem bind_eq_ok_iff {α β : Type} {x : Except Failure α} {f : α → Except Failure β} {b : β} :
    (x >>= f) = .ok b ↔ ∃ a, x = .ok a ∧ f a = .ok b := by
  cases x <;> simp [bind, Except.bind]

theorem bind_eq_error_iff {α β : Type} {x : Except Failure α} {f : α → Except Failure β}
    {e : Failure} : (x >>= f) = .error e ↔ x = .error e ∨ ∃ a, x = .ok a ∧ f a = .error e := by
  cases x <;> simp [bind, Except.bind]

theorem bind_of_eq_ok {α β : Type} {x : Except Failure α} {a : α} (h : x = .ok a)
    (f : α → Except Failure β) : (x >>= f) = f a := by
  rw [h]
  rfl

theorem map_eq_ok_iff {α β : Type} {x : Except Failure α} {f : α → β} {b : β} :
    (f <$> x) = .ok b ↔ ∃ a, x = .ok a ∧ f a = b := by
  cases x <;> simp [Functor.map, Except.map]

theorem pure_eq_ok_iff {α : Type} {a b : α} : (pure a : Except Failure α) = .ok b ↔ a = b := by
  simp [pure, Except.pure]

end Registration
