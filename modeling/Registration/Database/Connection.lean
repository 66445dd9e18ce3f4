import Registration.Calendar
import Registration.Failure
import Registration.Journal
import Registration.Json.Writer
import Registration.Table
import Registration.Text.Parts

/-!
# Database connections

Work on the database is a sequence of statements with parameters, of rows fetched and of commits. A
`Query` runs on a connection that holds the rows the server answers with and remembers what was done
on it; a failure ends the query, and what was done before stays.
-/

namespace Registration.Database

/-- A value that is handed over with a statement. -/
inductive Parameter where
  | integer (n : Int)
  | text (s : String)
  | texts (ss : List String)
  | date (d : Option Calendar.Date)
  /-- A table of numbers, stored as a document. -/
  | document (t : Table String Int)
  deriving DecidableEq

/-- A statement with its parameters. -/
structure Statement where
  sql : String
  parameters : List Parameter
  deriving DecidableEq

/-- What is wrong with a row. -/
inductive RowFault where
  | missingColumn
  | missingItem
  | wrongKind
  | unknownValue
  | notFinite
  | noEntries
  deriving DecidableEq

/-- Why work on the database did not end normally. -/
inductive QueryError where
  | failed (failure : Failure)
  | row (fault : RowFault)
  | server (detail : String)
  | migrationFailed (name : String)
  deriving DecidableEq

/-- The wording of what is wrong with a row. -/
def RowFault.message : RowFault → String
  | missingColumn => "a column is missing"
  | missingItem => "the row is too short"
  | wrongKind => "a value is of the wrong kind"
  | unknownValue => "a value is not one of those expected"
  | notFinite => "a number is not finite"
  | noEntries => "a document has no entries"

def QueryError.message : QueryError → String
  | failed f => f.message
  | row fault => fault.message
  | server detail => detail
  | migrationFailed name => "database migration failed: " ++ name

/-- A text that the server does not accept in a statement, and what it says then. -/
structure Refusal where
  part : String
  detail : String
  deriving DecidableEq

/-- A connection: the rows to come, the row that comes when they are used up, the number of rows
that statements affect, what the server refuses, and what was done. -/
structure Connection where
  rows : List Json
  lastRow : Json
  affected : Int
  refusal : Option Refusal
  executed : List Statement
  commits : Nat
  journal : List LogLine

/-- Work on a connection. -/
abbrev Query (α : Type) := EStateM QueryError Connection α

namespace Connection

def answering (rows : List Json) (affected : Int) : Connection :=
  ⟨rows, .null, affected, none, [], 0, []⟩

/-- What the server says if it refuses the statement. -/
def refuses? (c : Connection) (sql : String) : Option String :=
  match c.refusal with
  | some r => if Text.contains r.part.toList sql.toList then some r.detail else none
  | none => none

end Connection

namespace Query

def fail {α : Type} (f : Failure) : Query α := throw (.failed f)

/-- Writes a line into the journal. -/
def note (level : Level) (text : String) : Query Unit :=
  modify fun c => { c with journal := c.journal ++ [⟨level, text⟩] }

/-- Sends a statement. -/
def execute (sql : String) (parameters : List Parameter) : Query Unit := do
  modify fun c => { c with executed := c.executed ++ [⟨sql, parameters⟩] }
  match (← get).refuses? sql with
  | some detail => throw (.server detail)
  | none => pure ()

/-- The next row; null when there is none. -/
def fetchOne : Query Json := do
  let c ← get
  match c.rows with
  | [] => pure c.lastRow
  | r :: rest =>
    set { c with rows := rest }
    pure r

/-- All rows. -/
def fetchAll : Query (List Json) := do
  let c ← get
  set { c with rows := [] }
  pure c.rows

def commit : Query Unit := modify fun c => { c with commits := c.commits + 1 }

/-- Fails unless the last statement affected one row. -/
def expectOne (f : Failure) : Query Unit := do if (← get).affected ≠ 1 then fail f

/-- Fails if the answer is a fault. -/
def require {α : Type} : Except RowFault α → Query α
  | .ok a => pure a
  | .error f => throw (.row f)

end Query

end Registration.Database
