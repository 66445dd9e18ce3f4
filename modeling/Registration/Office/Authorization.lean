import Registration.Office.State

/-!
# Authorization

Who may ask for a change of status. Administrators and holders of a token may ask for everything.
Registrants may cancel their own registration early, and those with the desk permission in one of
their own registrations may check in paid attendees.
-/

namespace Registration

/-- The judgement on a request for a change of status. -/
inductive Judgement where
  | privileged
  | anonymous
  | selfCancellation
  | forbiddenSelf
  | deskCheckIn
  | forbiddenOther
  deriving DecidableEq

namespace Judgement

/-- The request may go on. -/
def isGranted : Judgement → Bool
  | privileged | selfCancellation | deskCheckIn => true
  | _ => false

end Judgement

/-- Some registration of the login carries the desk permission. -/
def hasDeskPermission (p : Policy) (s : Store) (subject : String) : Bool :=
  (s.ownedBy subject).any fun a => (s.info a.id).grants p.deskPermission

def judge (p : Policy) (s : Store) (actor : Actor) (a : Attendee) (old : Status) (new : Target) :
    Judgement :=
  if actor.isPrivileged then .privileged
  else if actor.subject = "" then .anonymous
  else if actor.subject = a.identity then
    if new = .status .cancelled ∧ old.isSelfCancellable then .selfCancellation else .forbiddenSelf
  else if old = .paid ∧ new = .status .checkedIn ∧ hasDeskPermission p s actor.subject then
    .deskCheckIn
  else .forbiddenOther

/-- The end of a journal line about a request. -/
def requestText (actor : Actor) (a : Attendee) : String :=
  " for attendee " ++ Text.intText a.id ++ " by " ++ actor.subject

/-- What the journal says about a judgement. -/
def judgementNote (actor : Actor) (a : Attendee) (old : Status) (new : Target) :
    Judgement → Option LogLine
  | .privileged | .anonymous => none
  | .selfCancellation => some ⟨.info, "self cancellation" ++ requestText actor a⟩
  | .deskCheckIn => some ⟨.info, "regdesk check in" ++ requestText actor a⟩
  | .forbiddenSelf =>
    some ⟨.warning, "forbidden self status change attempt " ++ old.name ++ " -> " ++ new.name ++
      requestText actor a⟩
  | .forbiddenOther =>
    some ⟨.warning, "forbidden status change attempt " ++ old.name ++ " -> " ++ new.name ++
      requestText actor a⟩

/-- The failure that a judgement ends a request with. -/
def Judgement.outcome : Judgement → Except Failure Unit
  | .privileged | .selfCancellation | .deskCheckIn => .ok ()
  | .anonymous => .error .loginNeeded
  | .forbiddenSelf | .forbiddenOther => .error .forbidden

theorem Judgement.outcome_eq_ok_iff (j : Judgement) : j.outcome = .ok () ↔ j.isGranted = true := by
  cases j <;> simp [outcome, isGranted]

/-- Lets a request go on or refuses it, with a line in the journal. -/
def Desk.authorize (p : Policy) (actor : Actor) (a : Attendee) (old : Status) (new : Target) :
    Desk Unit := do
  let judgement := judge p (← store) actor a old new
  match judgementNote actor a old new judgement with
  | some line => note line.level line.text
  | none => pure ()
  require judgement.outcome

end Registration
