import Registration.Database.Connection
import Registration.Text.Digit
import Registration.Text.Parts

/-!
# Migrations

The schema is brought up to date by the files of a directory whose names end in `.sql`, in the order
of their names, whatever ends their lines. A file that fails ends the run; without the directory the
schema is left as it is.
-/

namespace Registration.Database

/-- A directory of files: its path, and the files by name if it exists. -/
structure Directory where
  path : String
  files : Option (Table String String)

/-- The name belongs to a migration. -/
def isMigration (name : String) : Bool := ['.', 's', 'q', 'l'].isSuffixOf name.toList

/-- The migrations among some files, by name. -/
def migrationsOf (files : Table String String) : List (String × String) :=
  (files.entries.filter fun f => isMigration f.1).mergeSort fun a b => decide (a.1 ≤ b.1)

/-- The same lines, each ended by a line feed alone; a carriage return counts as an end of a line,
with or without a line feed behind it. -/
def unixLines : List Char → List Char
  | '\r' :: '\n' :: rest => '\n' :: unixLines rest
  | '\r' :: rest => '\n' :: unixLines rest
  | c :: rest => c :: unixLines rest
  | [] => []

def runMigration (name sql : String) : Query Unit := do
  try
    Query.execute sql []
  catch
    | .server detail =>
      Query.note .error ("migration " ++ name ++ " failed: " ++ detail)
      throw (.migrationFailed name)
    | e => throw e
  Query.note .info ("migration " ++ name ++ " applied")

def runAll : List (String × String) → Query Unit
  | [] => pure ()
  | f :: rest => do
    runMigration f.1 (String.ofList (unixLines f.2.toList))
    runAll rest

/-- Brings the schema up to date. -/
def migrate (d : Directory) : Query Unit := do
  match d.files with
  | none =>
    Query.note .warning
      ("migrations directory " ++ d.path ++ " not found, schema left unchanged")
  | some files =>
    let migrations := migrationsOf files
    Query.note .info
      ("applying " ++ Text.intText migrations.length ++ " migration(s) from " ++ d.path)
    runAll migrations

/-! ## The schema

The tables that the store keeps its records in: attendees with their cached figures, administrators'
information, status changes and counts. Every statement may be run again without harm.
-/

/-- The lines that create the tables. -/
def schemaLines : List String := [
  "-- Attendee registrations with cached dues projections",
  "CREATE TABLE IF NOT EXISTS attendees (",
  "    id                    BIGSERIAL PRIMARY KEY,",
  "    nickname              VARCHAR(80)  NOT NULL,",
  "    email                 VARCHAR(200) NOT NULL,",
  "    zip                   VARCHAR(40)  NOT NULL,",
  "    identity              VARCHAR(120) NOT NULL DEFAULT '',",
  "    registration_language VARCHAR(32)  NOT NULL DEFAULT 'en-US',",
  "    packages              JSONB        NOT NULL DEFAULT '\x7b\x7d'::jsonb,",
  "    cache_total_dues      BIGINT       NOT NULL DEFAULT 0,",
  "    cache_payment_balance BIGINT       NOT NULL DEFAULT 0,",
  "    cache_open_balance    BIGINT       NOT NULL DEFAULT 0,",
  "    cache_due_date        DATE,",
  "    created_at            TIMESTAMPTZ  NOT NULL DEFAULT NOW(),",
  "    updated_at            TIMESTAMPTZ  NOT NULL DEFAULT NOW(),",
  "    deleted_at            TIMESTAMPTZ,",
  "    CONSTRAINT attendees_nickname_zip_email_key UNIQUE (nickname, zip, email)",
  ");",
  "",
  "CREATE INDEX IF NOT EXISTS attendees_identity_idx ON attendees (identity);",
  "",
  "CREATE TABLE IF NOT EXISTS admin_infos (",
  "    attendee_id             BIGINT PRIMARY KEY REFERENCES attendees (id),",
  "    flags                   TEXT[] NOT NULL DEFAULT '\x7b\x7d',",
  "    permissions             TEXT[] NOT NULL DEFAULT '\x7b\x7d',",
  "    admin_comments          TEXT   NOT NULL DEFAULT '',",
  "    manual_dues             BIGINT NOT NULL DEFAULT 0,",
  "    manual_dues_description TEXT   NOT NULL DEFAULT ''",
  ");",
  "",
  "-- Append-only status history; the initial \"new\" entry is implicit",
  "CREATE TABLE IF NOT EXISTS status_changes (",
  "    id          BIGSERIAL PRIMARY KEY,",
  "    attendee_id BIGINT      NOT NULL REFERENCES attendees (id),",
  "    status      VARCHAR(32) NOT NULL,",
  "    comments    TEXT        NOT NULL DEFAULT '',",
  "    created_at  TIMESTAMPTZ NOT NULL DEFAULT NOW()",
  ");",
  "",
  "CREATE INDEX IF NOT EXISTS status_changes_attendee_id_idx ON status_changes (attendee_id);",
  "",
  "-- Package occupancy, provisioned per configured package",
  "CREATE TABLE IF NOT EXISTS counts (",
  "    area       VARCHAR(32) NOT NULL,",
  "    name       VARCHAR(80) NOT NULL,",
  "    pending    INTEGER     NOT NULL DEFAULT 0,",
  "    attending  INTEGER     NOT NULL DEFAULT 0,",
  "    created_at TIMESTAMPTZ NOT NULL DEFAULT NOW(),",
  "    updated_at TIMESTAMPTZ NOT NULL DEFAULT NOW(),",
  "    PRIMARY KEY (area, name)",
  ");"]

/-- The text that creates the tables. -/
def schemaText : String := String.join (schemaLines.map (· ++ "\n"))

/-- The migrations that come with the program. -/
def shippedMigrations : Directory where
  path := "migrations"
  files := some (.ofList [("001_create_attendee_tables.sql", schemaText)])

end Registration.Database
