import Registration.Attendee
import Registration.Database.Connection
import Registration.Json.Reader
import Registration.Number.Real
import Registration.Text.Digit

/-!
# Rows

What the rows of the database mean. Columns are handed on as they are; only the numbers of packages
are read, in every way a whole number may have got into the document, and flags and statuses.
-/

namespace Registration.Database

open Registration.Number

/-! ## Columns -/

/-- The value of a named column. -/
def column (row : Json) (name : String) : Except RowFault Json :=
  match row with
  | .object members =>
    match Json.lookup name members with
    | some v => .ok v
    | none => .error .missingColumn
  | _ => .error .wrongKind

/-- The value at a position. -/
def item (row : Json) (i : Nat) : Except RowFault Json :=
  match row with
  | .array items =>
    match items[i]? with
    | some v => .ok v
    | none => .error .missingItem
  | .text s =>
    match s.toList[i]? with
    | some c => .ok (.text (String.singleton c))
    | none => .error .missingItem
  | .object _ => .error .missingColumn
  | _ => .error .wrongKind

/-! ## Numbers of packages -/

/-- The number of units that a value stands for; fractions are cut off. -/
def units : Json → Except RowFault Int
  | .integer n => .ok n
  | .bool b => .ok (if b then 1 else 0)
  | .real negative coefficient exponent =>
    match (Digits.mk coefficient exponent).toBinary with
    | some x =>
      let n := x.num / x.den
      .ok (if negative then -(n : Int) else n)
    | none => .error .notFinite
  | .infinity _ => .error .notFinite
  | .notANumber => .error .unknownValue
  | .text s =>
    match Text.whole? s.toList with
    | some n => .ok n
    | none => .error .unknownValue
  | _ => .error .wrongKind

/-- A value that stands for nothing. -/
def isBlankValue : Json → Bool
  | .null | .bool false | .integer 0 | .real _ 0 _ => true
  | .text s => s.isEmpty
  | .array items => items.isEmpty
  | .object members => members.isEmpty
  | _ => false

def packagesOf (document : Json) : Except RowFault (Table String Int) :=
  if isBlankValue document then .ok .empty
  else match document with
    | .object members => do
      let entries ← (Table.ofList members).entries.mapM fun e => do
        let n ← units e.2
        pure (e.1, n)
      pure (Table.ofList entries)
    | _ => .error .noEntries

/-! ## Records -/

/-- The record of an attendee, columns as they came. -/
structure AttendeeRow where
  id : Json
  nickname : Json
  email : Json
  zip : Json
  identity : Json
  language : Json
  packages : Table String Int
  createdAt : Json
  cachedDues : Json
  cachedPayments : Json
  cachedOpen : Json
  cachedDueDate : Json

/-- Reads the record of an attendee. -/
def AttendeeRow.of (row : Json) : Except RowFault AttendeeRow := do
  let id ← column row "id"
  let nickname ← column row "nickname"
  let email ← column row "email"
  let zip ← column row "zip"
  let identity ← column row "identity"
  let language ← column row "registration_language"
  let packages ← packagesOf (← column row "packages")
  let createdAt ← column row "created_at"
  let dues ← column row "cache_total_dues"
  let payments ← column row "cache_payment_balance"
  let openBalance ← column row "cache_open_balance"
  let dueDate ← column row "cache_due_date"
  pure ⟨id, nickname, email, zip, identity, language, packages, createdAt, dues, payments,
    openBalance, dueDate⟩

def memberText : Json → Except RowFault String
  | .text s => .ok s
  | _ => .error .wrongKind

def textsOf : Json → Except RowFault (List String)
  | .array items => items.mapM memberText
  | .text s => .ok (s.toList.map String.singleton)
  | .object members => .ok (members.map (·.1))
  | _ => .error .wrongKind

/-- Administrators' information, columns as they came. -/
structure InfoRow where
  attendeeId : Int
  flags : List String
  permissions : List String
  comments : Json
  manualDues : Json
  manualDuesDescription : Json

/-- Reads administrators' information. -/
def InfoRow.of (attendeeId : Int) (row : Json) : Except RowFault InfoRow := do
  let flags ← textsOf (← column row "flags")
  let permissions ← textsOf (← column row "permissions")
  let comments ← column row "admin_comments"
  let manualDues ← column row "manual_dues"
  let description ← column row "manual_dues_description"
  pure ⟨attendeeId, flags, permissions, comments, manualDues, description⟩

/-- The information about an attendee nothing was written about. -/
def InfoRow.blank (attendeeId : Int) : InfoRow :=
  ⟨attendeeId, [], [], .text "", .integer 0, .text ""⟩

/-- A change of status, columns as they came. -/
structure ChangeRow where
  attendeeId : Int
  status : Status
  comment : Json
  createdAt : Json

/-- Reads a change of status. -/
def ChangeRow.of (attendeeId : Int) (row : Json) : Except RowFault ChangeRow := do
  let word ← item row 0
  match word with
  | .text s =>
    match Status.ofName? s with
    | some status =>
      let comment ← item row 1
      let createdAt ← item row 2
      pure ⟨attendeeId, status, comment, createdAt⟩
    | none => .error .unknownValue
  | _ => .error .unknownValue

/-- A count, columns as they came. -/
structure CountRow where
  area : String
  name : String
  pending : Json
  attending : Json

def CountRow.of (area name : String) (row : Json) : Except RowFault CountRow := do
  let pending ← item row 0
  let attending ← item row 1
  pure ⟨area, name, pending, attending⟩

end Registration.Database
