import Registration.Attendee
import Registration.Dues.Plan
import Registration.Number.DecimalText
import Registration.Office.State

/-!
# Reconciliation

Brings the ledger in line with a status and the packages chosen: the plan for the status is booked,
the attendee's figures are read off the ledger again, and a status of the payment phase gives way to
the one that the balances imply.
-/

namespace Registration

/-- How a status asks for dues to be booked. -/
inductive Settlement where
  | compensate
  | void
  | adjust
  deriving DecidableEq

def Status.settlement : Status → Settlement
  | .new | .waiting | .deleted => .compensate
  | .cancelled => .void
  | _ => .adjust

/-- What a reconciliation came to. -/
structure Reconciled where
  attendee : Attendee
  status : Status
  changed : Bool
  balances : Balances
  booked : Nat
  deriving DecidableEq

/-! ## Pure parts -/

def adjustmentComment : String := "dues adjustment due to change in status or selected packages"

def bookingComment (s : Status) (override : String) : String :=
  match s.settlement with
  | .compensate => "remove dues balance - status changed to " ++ s.name
  | .void => "void unpaid dues on cancel"
  | .adjust => if override = "" then adjustmentComment else override

/-- The bookings that a status asks for. -/
def bookingPlan (p : Policy) (a : Attendee) (info : AdminInfo) (s : Status)
    (history : List Transaction) : Except Failure (List Booking) :=
  match s.settlement with
  | .compensate => do return (← Buckets.ofHistory history).compensation
  | .void => pure (cancellation history)
  | .adjust => do
    let current ← Buckets.ofHistory history
    let desired ← desiredDues p a info
    current.adjustment desired

/-- The codes to be warned about while planning for a status. -/
def planWarnings (p : Policy) (a : Attendee) (info : AdminInfo) (s : Status)
    (history : List Transaction) : List String :=
  match s.settlement, Buckets.ofHistory history with
  | .adjust, .ok _ => ignoredPackages p a info
  | _, _ => []

/-- A cached due date never moves back. -/
def laterDueDate (cached derived : Option Calendar.Date) : Option Calendar.Date :=
  match cached, derived with
  | some c, some d => if d < c then some c else some d
  | some c, none => some c
  | none, d => d

/-- The attendee with the figures of the ledger, marked as deleted or not. -/
def Attendee.refresh (a : Attendee) (b : Balances) (s : Status) : Attendee :=
  let mark := if s = .deleted then DeletionMark.add a.id else DeletionMark.remove a.id
  { a with
    identity := mark a.identity
    zip := mark a.zip
    cachedDues := b.dues
    cachedPayments := b.payments
    cachedOpen := b.openPayments
    cachedDueDate := laterDueDate a.cachedDueDate b.dueDate }

/-- The due date of a booking; only dues that are owed get one. -/
def Booking.dueDate (b : Booking) (p : Policy) (today : Calendar.Date) :
    Except Failure (Option Calendar.Date) :=
  if 0 < b.cents then some <$> p.dueDateFor today else pure none

/-- The transaction that a booking adds. -/
def Booking.posting (b : Booking) (p : Policy) (attendeeId : Int) (comment : String)
    (today : Calendar.Date) : Except Failure Transaction := do
  let key ← rateKey b.rate
  let due ← b.dueDate p today
  pure
    { debitor := attendeeId
      kind := .due
      amount := ⟨p.currency, b.cents, key⟩
      state := .valid
      method := .internal
      comment := comment
      effectiveDate := some today
      dueDate := due
      id := none }

/-! ## Booking -/

namespace Desk

def book (p : Policy) (attendeeId : Int) (comment : String) (today : Calendar.Date)
    (b : Booking) : Desk Unit := do
  let t ← require (b.posting p attendeeId comment today)
  appendTransaction t
  let money ← require (p.moneyText b.cents)
  note .info
    ("booked dues transaction for attendee " ++ Text.intText attendeeId ++ ": " ++ money ++
      " at " ++ t.amount.rate.text ++ "% VAT (" ++ comment ++ ")")

/-- Books all dues of a plan in order. -/
def bookAll (p : Policy) (attendeeId : Int) (comment : String) (today : Calendar.Date) :
    List Booking → Desk Unit
  | [] => pure ()
  | b :: rest => do
    book p attendeeId comment today b
    bookAll p attendeeId comment today rest

/-- Warns about packages held that are not configured. -/
def warnIgnored (attendeeId : Int) : List String → Desk Unit
  | [] => pure ()
  | code :: rest => do
    note .warning
      ("attendee " ++ Text.intText attendeeId ++ " holds non-configured package " ++ code ++
        " - ignored for dues")
    warnIgnored attendeeId rest

/-- What a desired status comes to on a history. -/
def conclude (p : Policy) (a : Attendee) (s : Status) (history : List Transaction)
    (booked : Nat) : Desk Reconciled := do
  let balances := Balances.ofHistory history
  let refreshed := a.refresh balances s
  let status := balances.resultingStatus p.graceCents s
  if status ≠ s then
    note .info
      ("attendee " ++ Text.intText a.id ++ " requested status " ++ s.name ++ " resolves to " ++
        status.name ++ " (dues " ++ Text.intText balances.dues ++ " payments " ++
        Text.intText balances.payments ++ ")")
  pure ⟨refreshed, status, refreshed != a, balances, booked⟩

/-- Books what a status asks for and reads the attendee's figures off the ledger. -/
def reconcile (p : Policy) (a : Attendee) (info : AdminInfo) (s : Status) (override : String)
    (today : Calendar.Date) : Desk Reconciled := do
  let history ← transactionHistory a.id
  warnIgnored a.id (planWarnings p a info s history)
  let plan ← require (bookingPlan p a info s history)
  bookAll p a.id (bookingComment s override) today plan
  let history ← if plan.isEmpty then pure history else transactionHistory a.id
  conclude p a s history plan.length

end Desk

end Registration
