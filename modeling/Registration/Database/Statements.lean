import Registration.Database.Row
import Registration.Store.Occupancy
import Registration.Text.Parts

/-!
# The store on the database

The statements by which attendees, administrators' information, histories and counts are kept in the
database, and what their answers mean. Counts change by one statement that adds the difference, so
that no change is lost. A statement that should have met one row and did not means that the record
is missing. Statements are sent in the layout given here, line breaks included.
-/

namespace Registration.Database

/-! ## Layout -/

/-- A statement on lines of its own, indented by twelve spaces. -/
def onLines (lines : List String) : String :=
  "\n" ++ String.join (lines.map fun l => "            " ++ l ++ "\n") ++ "        "

/-! ## Attendees -/

/-- The columns of an attendee's record, on two lines. -/
def attendeeColumns : String :=
  "\n    id, nickname, email, zip, identity, registration_language, packages, created_at,\n" ++
    "    cache_total_dues, cache_payment_balance, cache_open_balance, cache_due_date\n"

/-- The values of the columns that are written. -/
def attendeeValues (a : Attendee) : List Parameter := [
  .text a.nickname, .text a.email, .text a.zip, .text a.identity, .text a.language,
  .document a.packages, .integer a.cachedDues, .integer a.cachedPayments, .integer a.cachedOpen,
  .date a.cachedDueDate]

/-- Adds a record; the answer is its number. -/
def addAttendee (a : Attendee) : Query Json := do
  Query.execute
    (onLines [
      "INSERT INTO attendees (nickname, email, zip, identity, registration_language, packages,",
      "                       cache_total_dues, cache_payment_balance, cache_open_balance,",
      "                       cache_due_date)",
      "VALUES (%s, %s, %s, %s, %s, %s, %s, %s, %s, %s)",
      "RETURNING id"])
    (attendeeValues a)
  let row ← Query.fetchOne
  Query.commit
  Query.require (item row 0)

def getAttendee (id : Int) : Query AttendeeRow := do
  Query.execute ("SELECT " ++ attendeeColumns ++ " FROM attendees WHERE id = %s") [.integer id]
  match ← Query.fetchOne with
  | .null => Query.fail (.attendeeNotFound id)
  | row => Query.require (AttendeeRow.of row)

/-- Overwrites a record. -/
def updateAttendee (a : Attendee) : Query Unit := do
  Query.execute
    (onLines [
      "UPDATE attendees",
      "SET nickname = %s, email = %s, zip = %s, identity = %s, registration_language = %s,",
      "    packages = %s, cache_total_dues = %s, cache_payment_balance = %s,",
      "    cache_open_balance = %s, cache_due_date = %s, updated_at = NOW()",
      "WHERE id = %s"])
    (attendeeValues a ++ [.integer a.id])
  Query.commit
  Query.expectOne (.attendeeNotFound a.id)

/-- Number of records with these texts. -/
def countKey (nickname zip email : String) : Query Json := do
  Query.execute
    "SELECT COUNT(*) FROM attendees WHERE nickname = %s AND zip = %s AND email = %s"
    [.text nickname, .text zip, .text email]
  Query.require (item (← Query.fetchOne) 0)

/-- The records owned by a login; the empty login owns none, which no statement is needed for. -/
def ownedBy (identity : String) : Query (List AttendeeRow) := do
  if identity = "" then pure []
  else
    Query.execute
      ("SELECT " ++ attendeeColumns ++ " FROM attendees WHERE identity = %s ORDER BY id")
      [.text identity]
    Query.require ((← Query.fetchAll).mapM AttendeeRow.of)

/-- The records with a package that are not deleted. -/
def holding (package : String) : Query (List AttendeeRow) := do
  Query.execute
    (onLines [
      "SELECT " ++ attendeeColumns ++ " FROM attendees",
      "WHERE deleted_at IS NULL AND COALESCE((packages ->> %s)::int, 0) > 0",
      "ORDER BY id"])
    [.text package]
  Query.require ((← Query.fetchAll).mapM AttendeeRow.of)

def setDeleted (id : Int) (moment : String) : Query Unit := do
  Query.execute ("UPDATE attendees SET deleted_at = " ++ moment ++ " WHERE id = %s") [.integer id]
  Query.commit
  Query.expectOne (.attendeeNotFound id)

/-- Notes a record as deleted. -/
def delete (id : Int) : Query Unit := setDeleted id "NOW()"

/-- Takes the note of a deletion back. -/
def undelete (id : Int) : Query Unit := setDeleted id "NULL"

/-! ## Administrators' information -/

/-- What is noted about an attendee. -/
def getInfo (id : Int) : Query InfoRow := do
  Query.execute
    (onLines [
      "SELECT flags, permissions, admin_comments, manual_dues, manual_dues_description",
      "FROM admin_infos WHERE attendee_id = %s"])
    [.integer id]
  match ← Query.fetchOne with
  | .null => pure (.blank id)
  | row => Query.require (InfoRow.of id row)

/-- Notes information about an attendee. -/
def writeInfo (i : AdminInfo) : Query Unit := do
  Query.execute
    (onLines [
      "INSERT INTO admin_infos (attendee_id, flags, permissions, admin_comments,",
      "                         manual_dues, manual_dues_description)",
      "VALUES (%s, %s, %s, %s, %s, %s)",
      "ON CONFLICT (attendee_id) DO UPDATE",
      "SET flags = EXCLUDED.flags,",
      "    permissions = EXCLUDED.permissions,",
      "    admin_comments = EXCLUDED.admin_comments,",
      "    manual_dues = EXCLUDED.manual_dues,",
      "    manual_dues_description = EXCLUDED.manual_dues_description"])
    [.integer i.attendeeId, .texts (Text.sortedSet i.flags),
      .texts (Text.sortedSet i.permissions), .text i.comments, .integer i.manualDues,
      .text i.manualDuesDescription]
  Query.commit

/-! ## Histories -/

/-- The changes stored for an attendee. -/
def getChanges (id : Int) : Query (List ChangeRow) := do
  Query.execute
    (onLines [
      "SELECT status, comments, created_at FROM status_changes",
      "WHERE attendee_id = %s ORDER BY id"])
    [.integer id]
  Query.require ((← Query.fetchAll).mapM (ChangeRow.of id))

def addChange (id : Int) (status : Status) (comment : String) : Query Unit := do
  Query.execute "INSERT INTO status_changes (attendee_id, status, comments) VALUES (%s, %s, %s)"
    [.integer id, .text status.name, .text comment]
  Query.commit

/-! ## Counts -/

/-- The row of an item. -/
def getCount (area name : String) : Query CountRow := do
  Query.execute "SELECT pending, attending FROM counts WHERE area = %s AND name = %s"
    [.text area, .text name]
  match ← Query.fetchOne with
  | .null =>
    Query.note .error
      ("counts for area " ++ area ++ " name " ++ name ++ " missing - should have been provisioned")
    Query.fail (.countMissing area name)
  | row => Query.require (CountRow.of area name row)

/-- The row of an item, created if there is none. -/
def createCount (c : Count) : Query CountRow := do
  Query.execute
    (onLines [
      "INSERT INTO counts (area, name, pending, attending)",
      "VALUES (%s, %s, %s, %s)",
      "ON CONFLICT (area, name) DO NOTHING"])
    [.text c.area, .text c.name, .integer c.pending, .integer c.attending]
  Query.commit
  getCount c.area c.name

/-- Adds a difference; the answer is the row after it. -/
def addCount (d : CountDelta) : Query CountRow := do
  Query.execute
    (onLines [
      "UPDATE counts",
      "SET pending = pending + %s, attending = attending + %s, updated_at = NOW()",
      "WHERE area = %s AND name = %s",
      "RETURNING pending, attending"])
    [.integer d.pending, .integer d.attending, .text d.area, .text d.name]
  let row ← Query.fetchOne
  Query.commit
  match row with
  | .null =>
    Query.note .error
      ("error adding counts area " ++ d.area ++ " name " ++ d.name ++ ": row missing")
    Query.fail (.countMissing d.area d.name)
  | row => Query.require (CountRow.of d.area d.name row)

/-- Overwrites a row. -/
def resetCount (c : Count) : Query Unit := do
  Query.execute
    (onLines [
      "UPDATE counts",
      "SET pending = %s, attending = %s, updated_at = NOW()",
      "WHERE area = %s AND name = %s"])
    [.integer c.pending, .integer c.attending, .text c.area, .text c.name]
  Query.commit
  if (← get).affected ≠ 1 then
    Query.note .error
      ("error resetting counts area " ++ c.area ++ " name " ++ c.name ++ ": row missing")
    Query.fail (.countMissing c.area c.name)

end Registration.Database
