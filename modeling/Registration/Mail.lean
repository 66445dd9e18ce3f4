import Registration.Attendee
import Registration.Calendar
import Registration.Policy

/-!
# Status mails

A mail names a template and gives values to its variables. The mail about a status tells the
attendee's figures as they are cached; the due date is given only while something is owed, and the
reason only for a cancellation. What a change has left to be told is a `Notice`.
-/

namespace Registration

/-- A mail to be sent. -/
structure Mail where
  template : String
  values : List (String × String)
  recipient : String
  language : String
  deriving DecidableEq

def guestTemplate : String := "guest"

def statusTemplate (s : Status) : String := "change-status-" ++ s.name

/-- The cents still owed by the cached figures. -/
def Attendee.remaining (a : Attendee) : Int := a.cachedDues - a.cachedPayments

/-- The due date to be told, empty if nothing is owed. -/
def Attendee.dueDateText (a : Attendee) (p : Policy) : String :=
  match a.cachedDueDate with
  | some due => if 0 < a.remaining then due.format p.datePattern else ""
  | none => ""

def statusVariables (p : Policy) (a : Attendee) (s : Status) (comment : String) :
    Except Failure (List (String × String)) := do
  let remaining ← p.moneyText a.remaining
  let total ← p.moneyText a.cachedDues
  let underWay ← p.moneyText a.cachedOpen
  pure [
    ("badge_number", Text.intText a.id),
    ("badge_number_with_checksum", Badge.text a.id),
    ("nickname", a.nickname),
    ("email", a.email),
    ("reason", if s = .cancelled then comment else ""),
    ("remaining_dues", remaining),
    ("total_dues", total),
    ("pending_payments", underWay),
    ("due_date", a.dueDateText p),
    ("regsys_url", p.publicUrl)]

/-! ## Which mail is sent -/

/-- The template of a status mail; guests have one of their own while they would pay. -/
def mailTemplate (p : Policy) (info : AdminInfo) (s : Status) : String :=
  if info.hasFlag p.guestFlag && s.isPaymentPhase then guestTemplate else statusTemplate s

/-- A minor mail may be left out if asked for, but never for guests. -/
def isSuppressed (p : Policy) (info : AdminInfo) (suppress : Bool) : Bool :=
  !info.hasFlag p.guestFlag && suppress

/-- What is left to be told about a change: on the information about the attendee that was read
before it, with the comment of the change, and whether the mail may be left out. -/
structure Notice where
  info : AdminInfo
  comment : String
  minor : Bool

end Registration
