import Registration.Database.Migration
import Registration.Database.Statements
import Registration.Journal
import Registration.Service.Exchange
import Registration.Settings.Record

/-!
# Startup and shutdown

A run reads the settings, opens the pool of database connections, brings the schema up to date,
creates a row for every package and hands out the office's services. Whatever happens once the pool
is there, it is closed in the end. Nothing is opened without usable settings.
-/

namespace Registration

/-- A pool of database connections. -/
structure Pool where
  url : String
  minSize : Int
  maxSize : Int
  isOpen : Bool
  deriving DecidableEq

/-- The pool, closed. -/
def Pool.close (p : Pool) : Pool := { p with isOpen := false }

/-- Where status mails go. -/
inductive Notifier where
  /-- To the mail service. -/
  | service (mails : Endpoint)
  /-- Into the journal. -/
  | journal

/-- What the office works with. -/
structure Services where
  policy : Policy
  payments : Endpoint
  notifier : Notifier
  store : Pool

/-- Why the office did not open. -/
inductive StartupError where
  | settings (e : SettingsError)
  | unknownLevel (name : String)
  | query (e : Database.QueryError)
  deriving DecidableEq

/-- What is left of a run: the level of lines that are kept, the pool if there was one, what was
done on the database, and what was handed out. -/
structure Run where
  threshold : Threshold
  pool : Option Pool
  database : Database.Connection
  outcome : Except StartupError Services

namespace Startup

open Registration.Database

/-- The pool that the settings describe. -/
def poolOf (s : Settings) : Pool := ⟨s.databaseUrl, s.poolMinSize, s.poolMaxSize, true⟩

/-- Where status mails go by the settings: into the journal if no mail service is set. -/
def notifierOf (s : Settings) : Notifier :=
  if s.mailServiceUrl = "" then .journal else .service ⟨s.mailServiceUrl, s.apiToken⟩

def packageCodes (s : Settings) : List String := Text.sorted s.packages.keys

/-- Makes sure that every package has a row. -/
def provision : List String → Query Unit
  | [] => pure ()
  | code :: rest => do
    let _ ← createCount ⟨packageArea, code, 0, 0⟩
    provision rest

/-- Chooses where status mails go. -/
def chooseNotifier (s : Settings) : Query Notifier := do
  match notifierOf s with
  | .journal =>
    Query.note .info "No mail service configured, notifications are logged to the console"
    pure .journal
  | n => pure n

/-- Sets everything up on an open pool. -/
def setUp (s : Settings) (pool : Pool) (migrations : Directory) : Query Services := do
  Query.note .info "Running database migrations..."
  migrate migrations
  provision (packageCodes s)
  let notifier ← chooseNotifier s
  Query.note .info "Registration service ready"
  pure ⟨s.policy, ⟨s.paymentServiceUrl, s.apiToken⟩, notifier, pool⟩

/-- Sets everything up and shuts it down again, whether it could be set up or not. -/
def serve (s : Settings) (pool : Pool) (migrations : Directory) : Query Services := do
  Query.note .info "Connecting to database..."
  let shutDown : Query Unit := do
    Query.note .info "Shutting down registration service..."
    Query.note .info "Database connection pool closed"
  let services ← try setUp s pool migrations catch e => do
    shutDown
    throw e
  shutDown
  pure services

/-- The run of the settings in an environment. -/
def run (e : Environment) (migrations : Directory) (database : Connection) : Run :=
  match Settings.read e with
  | .error fault => ⟨.warning, none, database, .error (.settings fault)⟩
  | .ok s =>
    match Threshold.ofName? s.logLevel with
    | none => ⟨.warning, none, database, .error (.unknownLevel s.logLevel)⟩
    | some threshold =>
      let pool := poolOf s
      match (serve s pool migrations).run database with
      | .ok services done => ⟨threshold, some pool.close, done, .ok services⟩
      | .error fault done => ⟨threshold, some pool.close, done, .error (.query fault)⟩

end Startup

end Registration
