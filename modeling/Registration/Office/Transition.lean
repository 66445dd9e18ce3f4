import Registration.Office.Reconciliation

/-!
# Changes of status

`precondition` says what the balances permit. `Desk.commit` carries a change out. Its first part,
`Desk.commitUntold`, books the dues, stores the refreshed record and adds the resulting status to the
history if it is a new one; its last, `Desk.tell`, tells the attendee. What there is to tell is said
by `noticeFor`: a mail goes out for a new status that is not silent, or for an unchanged one if the
dues changed.
-/

namespace Registration

/-! ## Preconditions -/

/-- What the balances must be for a status. -/
def precondition (p : Policy) (history : List Transaction) (old : Status) (new : Target) :
    Except Failure Unit :=
  let b := Balances.ofHistory history
  match new with
  | .status .new | .status .approved | .status .waiting =>
    if 0 < b.payments then .error .hasPaymentBalance else .ok ()
  | .status .partiallyPaid =>
    if old.needsApproval then .error .approvalNeeded
    else if 0 ≤ b.payments ∧ b.payments < b.dues then .ok ()
    else .error .insufficientPayment
  | .status .paid =>
    if old.needsApproval then .error .approvalNeeded
    else if b.payments < b.dues - p.graceCents then .error .insufficientPayment
    else .ok ()
  | .status .checkedIn =>
    if old.needsApproval then .error .approvalNeeded
    else if b.payments < b.dues then .error .insufficientPayment
    else .ok ()
  | .status .cancelled => .ok ()
  | .status .deleted => if hasValidPayments history then .error .cannotDelete else .ok ()
  | .unknown word => .error (.unknownStatus word)

/-! ## Results -/

/-- What committing a change came to. -/
structure Committed where
  attendee : Attendee
  status : Status
  statusChanged : Bool
  notified : Bool
  deriving DecidableEq

/-- What is answered about a result before anything is told. -/
def Reconciled.committed (r : Reconciled) (old : Status) : Committed :=
  ⟨r.attendee, r.status, r.status ≠ old, false⟩

/-- What there is to tell about a result, if anything: a new status that is not silent, or other
dues under the status that was asked for again. -/
def noticeFor (info : AdminInfo) (a : Attendee) (old target : Status) (comment : String)
    (suppress : Bool) (r : Reconciled) : Option Notice :=
  if r.status = old then
    if old = target ∧ (r.status = .approved ∨ r.status = .partiallyPaid) ∧
        a.duesDiffer r.attendee then some ⟨info, comment, suppress⟩
    else none
  else if r.status.isSilent then none
  else some ⟨info, comment, suppress && old.isPaymentPhase && r.status.isPaymentPhase⟩

namespace Desk

/-- Refuses a change that the balances do not permit. -/
def checkPrecondition (p : Policy) (a : Attendee) (old : Status) (new : Target) : Desk Unit := do
  if new = .status old then throw .sameStatus
  let history ← transactionHistory a.id
  require (precondition p history old new)

/-- Sends the mail about a status; says whether one was sent. -/
def notify (p : Policy) (a : Attendee) (info : AdminInfo) (s : Status) (comment : String)
    (suppress : Bool) : Desk Bool := do
  if isSuppressed p info suppress then
    note .info ("sending mail " ++ statusTemplate s ++ " to " ++ a.email ++ " suppressed")
    pure false
  else
    let values ← require (statusVariables p a s comment)
    send ⟨mailTemplate p info s, values, a.email, a.language⟩
    pure true

/-! ## Commit -/

def storeIfChanged (r : Reconciled) : Desk Unit := do
  if r.changed then
    let s ← require ((← store).putAttendee r.attendee)
    modifyStore fun _ => s

/-- Adds a new status to the history and notes or takes back a deletion. -/
def enter (a : Attendee) (old target : Status) (comment : String) : Desk Unit := do
  let now := (← get).clock.now
  modifyStore (·.addChange ⟨a.id, target, comment, now⟩)
  if target = .deleted then modifyStore (·.delete a.id)
  else if old = .deleted then modifyStore (·.undelete a.id)

/-- Books the dues of a change and stores its results; the mail is left to be sent. `recorded` runs
when a new status is stored. -/
def commitUntold (p : Policy) (a : Attendee) (old target : Status) (comment override : String)
    (suppress : Bool) (recorded : Desk Unit) : Desk (Committed × Option Notice) := do
  let info := (← store).info a.id
  let today := (← get).clock.today
  let r ← reconcile p a info target override today
  storeIfChanged r
  if r.status ≠ old then
    enter r.attendee old r.status comment
    recorded
  pure (r.committed old, noticeFor info a old target comment suppress r)

/-- Sends the mail that is left to be sent. -/
def tell (p : Policy) : Committed × Option Notice → Desk Committed
  | (c, none) => pure c
  | (c, some n) => do
    let notified ← notify p c.attendee n.info c.status n.comment n.minor
    pure { c with notified := notified }

/-- Carries a change out and tells the attendee. -/
def commit (p : Policy) (a : Attendee) (old target : Status) (comment override : String)
    (suppress : Bool) (recorded : Desk Unit) : Desk Committed := do
  tell p (← commitUntold p a old target comment override suppress recorded)

/-- Sends the mail about the current status again, if it has one. -/
def resend (p : Policy) (a : Attendee) : Desk Bool := do
  let s ← store
  let last := s.lastChange a
  if last.status.isSilent || last.status = .new then pure false
  else notify p a (s.info a.id) last.status last.comment false

end Desk

end Registration
