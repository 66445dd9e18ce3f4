/-!
# Registration statuses

The eight statuses of a registration and the groups the rules speak of: statuses that hold places
provisionally or for good, statuses whose value follows from the balances, and statuses from which
payment is reached through approval only.
-/

namespace Registration

/-- The status of a registration. -/
inductive Status where
  | new
  | approved
  | partiallyPaid
  | paid
  | checkedIn
  | waiting
  | cancelled
  | deleted
  deriving DecidableEq, Repr, Inhabited

namespace Status

def all : List Status :=
  [new, approved, partiallyPaid, paid, checkedIn, waiting, cancelled, deleted]

theorem mem_all (s : Status) : s ∈ all := by cases s <;> decide

def name : Status → String
  | new => "new"
  | approved => "approved"
  | partiallyPaid => "partially paid"
  | paid => "paid"
  | checkedIn => "checked in"
  | waiting => "waiting"
  | cancelled => "cancelled"
  | deleted => "deleted"

def ofName? (s : String) : Option Status := all.find? (·.name == s)

@[simp] theorem ofName?_name (s : Status) : ofName? s.name = some s := by cases s <;> rfl

/-! ## Groups -/

/-- Places are held provisionally. -/
def isPending : Status → Bool
  | new | waiting => true
  | _ => false

/-- Places are held for good. -/
def isAttending : Status → Bool
  | approved | partiallyPaid | paid | checkedIn => true
  | _ => false

/-- The status follows from the balances. -/
def isPaymentPhase : Status → Bool
  | approved | partiallyPaid | paid => true
  | _ => false

/-- Payment statuses are reached from here through approval only. -/
def needsApproval : Status → Bool
  | new | waiting | cancelled | deleted => true
  | _ => false

/-- No mail announces the status. -/
def isSilent : Status → Bool
  | deleted | checkedIn => true
  | _ => false

/-- The registrant may cancel from here without help. -/
def isSelfCancellable : Status → Bool
  | new | approved => true
  | _ => false

/-- How many provisional places one unit of a package takes. -/
def pendingMultiplier (s : Status) : Int := if s.isPending then 1 else 0

/-- How many final places one unit of a package takes. -/
def attendingMultiplier (s : Status) : Int := if s.isAttending then 1 else 0

/-! ## Members of the groups -/

theorem isPaymentPhase_iff_mem {s : Status} :
    s.isPaymentPhase = true ↔ s ∈ [approved, partiallyPaid, paid] := by cases s <;> decide

theorem isSilent_iff_mem {s : Status} : s.isSilent = true ↔ s ∈ [deleted, checkedIn] := by
  cases s <;> decide

theorem isSelfCancellable_iff_mem {s : Status} :
    s.isSelfCancellable = true ↔ s ∈ [new, approved] := by cases s <;> decide

end Status

/-- What a status change may ask for: a status, or a word that names none. -/
inductive Target where
  | status (s : Status)
  | unknown (word : String)
  deriving DecidableEq, Repr

namespace Target

/-- The written name of what is asked for. -/
def name : Target → String
  | status s => s.name
  | unknown word => word

/-- What a word asks for. -/
def ofName (word : String) : Target :=
  match Status.ofName? word with
  | some s => status s
  | none => unknown word

@[simp] theorem ofName_name (s : Status) : ofName s.name = status s := by simp [ofName]

end Target

end Registration
