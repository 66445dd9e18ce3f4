import Registration.Attendee
import Registration.Failure
import Registration.Store.Occupancy

/-!
# The store

The records of all registrations: attendees by number, the numbers of those deleted, administrators'
information, histories and counts. Numbers are given out in order and never again. Deleting only
notes the number; the record stays and keeps its place.
-/

namespace Registration

/-- All records. -/
structure Store where
  attendees : Table Int Attendee
  deleted : List Int
  infos : Table Int AdminInfo
  histories : Table Int (List StatusChange)
  counts : CountTable
  nextId : Int

namespace Store

/-- The store before the first registration. -/
def empty : Store := ⟨.empty, [], .empty, .empty, .empty, 1⟩

/-! ## Attendees -/

def attendee (s : Store) (id : Int) : Except Failure Attendee :=
  match s.attendees.get? id with
  | some a => .ok a
  | none => .error (.attendeeNotFound id)

/-- Adds a record under the next number. -/
def addAttendee (s : Store) (a : Attendee) : Int × Store :=
  (s.nextId, { s with
    attendees := s.attendees.insert s.nextId { a with id := s.nextId }
    nextId := s.nextId + 1 })

def putAttendee (s : Store) (a : Attendee) : Except Failure Store :=
  if s.attendees.contains a.id then .ok { s with attendees := s.attendees.insert a.id a }
  else .error (.attendeeNotFound a.id)

/-- Number of records with these texts, deleted ones included. -/
def countKey (s : Store) (key : String × String × String) : Nat :=
  s.attendees.values.countP (·.key = key)

/-- The records owned by a login; the empty login owns none. -/
def ownedBy (s : Store) (identity : String) : List Attendee :=
  s.attendees.values.filter fun a => identity != "" && a.identity == identity

def isDeleted (s : Store) (id : Int) : Bool := s.deleted.contains id

/-- The records with a package that are not deleted, by number. -/
def holding (s : Store) (package : String) : List Attendee :=
  (s.attendees.values.filter fun a => !s.isDeleted a.id && 0 < a.packageCount package).mergeSort
    fun a b => a.id ≤ b.id

/-- Notes a number as deleted. -/
def delete (s : Store) (id : Int) : Store :=
  if s.isDeleted id then s else { s with deleted := s.deleted ++ [id] }

/-- Takes the note of a deletion back. -/
def undelete (s : Store) (id : Int) : Store := { s with deleted := s.deleted.filter (· ≠ id) }

@[simp] theorem isDeleted_delete (s : Store) (id : Int) : (s.delete id).isDeleted id = true := by
  unfold delete
  split
  · assumption
  · simp [isDeleted]

@[simp] theorem isDeleted_undelete (s : Store) (id : Int) :
    (s.undelete id).isDeleted id = false := by
  simp [isDeleted, undelete]

/-! ## Administrators' information -/

/-- What is noted about an attendee, blank if nothing was. -/
def info (s : Store) (id : Int) : AdminInfo := (s.infos.get? id).getD (.blank id)

/-- Notes information about an attendee. -/
def putInfo (s : Store) (i : AdminInfo) : Store :=
  { s with infos := s.infos.insert i.attendeeId i }

/-! ## Histories -/

/-- The changes stored for an attendee, oldest first. -/
def changes (s : Store) (id : Int) : List StatusChange := (s.histories.get? id).getD []

/-- Adds a change at the end of its attendee's history. -/
def addChange (s : Store) (c : StatusChange) : Store :=
  { s with histories := s.histories.insert c.attendeeId (s.changes c.attendeeId ++ [c]) }

theorem changes_addChange (s : Store) (c : StatusChange) (id : Int) :
    (s.addChange c).changes id =
      if c.attendeeId = id then s.changes id ++ [c] else s.changes id := by
  simp only [addChange, changes, Table.get?_insert]
  split
  · rename_i h; simp [h]
  · rfl

/-- The entry that every history starts with. -/
def registrationEntry (a : Attendee) : StatusChange :=
  ⟨a.id, .new, "registration", a.createdAt⟩

/-- The whole history of an attendee. -/
def history (s : Store) (a : Attendee) : List StatusChange := registrationEntry a :: s.changes a.id

/-- The last entry of an attendee's history. -/
def lastChange (s : Store) (a : Attendee) : StatusChange :=
  (s.changes a.id).getLast?.getD (registrationEntry a)

def currentStatus (s : Store) (a : Attendee) : Status := (s.lastChange a).status

theorem lastChange_eq_getLast (s : Store) (a : Attendee) :
    some (s.lastChange a) = (s.history a).getLast? := by
  unfold lastChange history
  cases h : s.changes a.id with
  | nil => rfl
  | cons c cs => simp [List.getLast?_cons]

end Store

end Registration
