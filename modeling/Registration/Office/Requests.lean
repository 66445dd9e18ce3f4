import Registration.Attendee
import Registration.Office.Allocation
import Registration.Office.Authorization
import Registration.Office.Transition

/-!
# Requests

What callers ask of the office: registering, editing a registration, changing administrators'
information, changing the status, and a few smaller ones. Every path that can change dues ends in
`Desk.commit`; changes of packages pass the limits first, and their effects are recorded only after
the change is stored.
-/

namespace Registration

namespace Desk

/-- Refuses a record whose texts more records share than expected. -/
def checkUnique (a : Attendee) (expected : Nat) : Desk Unit := do
  if expected < (← store).countKey a.key then throw .duplicate

/-! ## Registering -/

/-- The record of a new registration, owned by the caller. -/
def newRecord (actor : Actor) (a : Attendee) : Attendee :=
  { a with
    email := Email.normalize a.email
    identity := actor.subject
    cachedDues := 0
    cachedPayments := 0
    cachedOpen := 0
    cachedDueDate := none }

/-- Registers an attendee and answers with the number given. -/
def register (p : Policy) (actor : Actor) (a : Attendee) : Desk Int := do
  let a := newRecord actor a
  checkUnique a 0
  let s ← store
  let deltas ← require (allocation p s.counts { a with packages := .empty } a .new .new)
  let (id, s) := s.addAttendee a
  modifyStore fun _ => s
  let _ ← recordAll deltas
  pure id

/-! ## Editing -/

/-- The record of an edit: owner, moment of creation and figures stay as stored. -/
def editedRecord (stored a : Attendee) : Attendee :=
  { a.withFiguresOf stored with
    email := Email.normalize a.email
    identity := stored.identity
    createdAt := stored.createdAt }

/-- Stores an edit and books its dues. -/
def update (p : Policy) (actor : Actor) (a : Attendee) (suppress : Bool) : Desk Committed := do
  let s ← store
  let stored ← require (s.attendee a.id)
  let a := editedRecord stored a
  checkUnique a (if stored.key = a.key then 1 else 0)
  let current := s.currentStatus stored
  let deltas ← require (allocation p s.counts stored a current current)
  let s ← require (s.putAttendee a)
  modifyStore fun _ => s
  let _ ← recordAll deltas
  commit p a current current ("attendee update by " ++ actor.subject) "" suppress (pure ())

/-- Stores administrators' information and books its dues. -/
def updateInfo (p : Policy) (actor : Actor) (i : AdminInfo) : Desk Committed := do
  modifyStore (·.putInfo i)
  let s ← store
  let a ← require (s.attendee i.attendeeId)
  let current := s.currentStatus a
  commit p a current current ("admin info update by " ++ actor.subject) i.manualDuesDescription
    false (pure ())

end Desk

/-! ## Changing the status -/

/-- The work that records effects and keeps nothing of their outcome. -/
def recording (ds : List CountDelta) : Desk Unit := do let _ ← Desk.recordAll ds

/-- A change of status that passed all checks, with its effects on the counts. -/
structure Clearance where
  attendee : Attendee
  old : Status
  target : Status
  deltas : List CountDelta

namespace Desk

/-- The checks of a change of status. -/
def checkChange (p : Policy) (actor : Actor) (id : Int) (new : Target) : Desk Clearance := do
  let s ← store
  let a ← require (s.attendee id)
  let old := s.currentStatus a
  authorize p actor a old new
  checkPrecondition p a old new
  match new with
  | .unknown word => throw (.unknownStatus word)
  | .status target =>
    let deltas ← require (allocation p (← store).counts a a old target)
    pure ⟨a, old, target, deltas⟩

/-- Carries out a change of status that was asked for. -/
def changeStatus (p : Policy) (actor : Actor) (id : Int) (new : Target) (comment override : String)
    (suppress : Bool) : Desk Committed := do
  let r ← checkChange p actor id new
  commit p r.attendee r.old r.target comment override suppress (recording r.deltas)

/-! ## Smaller requests -/

def attendee (id : Int) : Desk Attendee := do require ((← store).attendee id)

/-- The whole history of an attendee. -/
def statusHistory (id : Int) : Desk (List StatusChange) := do
  let a ← attendee id
  return (← store).history a

/-- Sends the mail about an attendee's status again. -/
def resendMail (p : Policy) (id : Int) : Desk Bool := do resend p (← attendee id)

end Desk

end Registration
