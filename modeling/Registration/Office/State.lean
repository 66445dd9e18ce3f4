import Registration.Journal
import Registration.Ledger
import Registration.Mail
import Registration.Store.Records

/-!
# The registration office

The state all work happens on: the store, the ledger, the mails sent, the journal, the outages of
collaborators and the clock. Work that may fail is a `Desk`: a failure ends it, and whatever was
stored, booked or sent before stays.
-/

namespace Registration

/-- What is out of order. A number of appends or listings left lets so many succeed first. -/
structure Outages where
  listing : Option String
  appending : Option String
  appendsLeft : Option Int
  mailing : Option String
  listingsLeft : Option Int := .none
  deriving DecidableEq

namespace Outages

/-- Everything works. -/
def none : Outages := ⟨.none, .none, .none, .none, .none⟩

/-- What is left after one more use, or a failure if the uses are counted and none is left. -/
def take (left : Option Int) (detail : String) : Except Failure (Option Int) :=
  match left with
  | .none => .ok .none
  | some n => if n ≤ 0 then .error (.ledgerUnavailable detail) else .ok (some (n - 1))

end Outages

/-- The day bookings are made on, and the moment entries are stamped with. -/
structure Clock where
  today : Calendar.Date
  now : Timestamp

/-- The state of the office. -/
structure Office where
  store : Store
  ledger : Ledger
  outbox : List Mail
  journal : List LogLine
  outages : Outages
  clock : Clock

namespace Office

/-- The office before the first registration. -/
def opening (clock : Clock) : Office := ⟨.empty, .empty, [], [], .none, clock⟩

end Office

/-- Work that reads and changes the office and may fail part way. -/
abbrev Desk (α : Type) := EStateM Failure Office α

namespace Desk

/-- Fails if the answer is a failure. -/
def require {α : Type} : Except Failure α → Desk α
  | .ok a => pure a
  | .error e => throw e

/-- Writes a line into the journal. -/
def note (level : Level) (text : String) : Desk Unit :=
  modify fun o => { o with journal := o.journal ++ [⟨level, text⟩] }

def store : Desk Store := return (← get).store

def modifyStore (f : Store → Store) : Desk Unit := modify fun o => { o with store := f o.store }

def setCounts (t : CountTable) : Desk Unit := modifyStore fun s => { s with counts := t }

/-! ## The ledger -/

/-- Takes one of the listings left. -/
def takeListing : Desk Unit := do
  let o ← get
  let left ← require (Outages.take o.outages.listingsLeft "listing quota used up")
  set { o with outages := { o.outages with listingsLeft := left } }

/-- The ledger as it can be listed. -/
def listing : Desk Ledger := do
  takeListing
  let o ← get
  match o.outages.listing with
  | some detail => throw (.ledgerUnavailable detail)
  | none => pure o.ledger

/-- The transactions of a debitor, a failure if there are none. -/
def listTransactions (debitor : Int) : Desk (List Transaction) := do
  require ((← listing).list debitor)

/-- The transactions of a debitor, none for an unknown one. -/
def transactionHistory (debitor : Int) : Desk (List Transaction) := do
  return (← listing).history debitor

/-- Takes one of the appends left. -/
def takeAppend : Desk Unit := do
  let o ← get
  let left ← require (Outages.take o.outages.appendsLeft "append quota used up")
  set { o with outages := { o.outages with appendsLeft := left } }

/-- Adds a transaction to the ledger. -/
def appendTransaction (t : Transaction) : Desk Unit := do
  takeAppend
  let o ← get
  match o.outages.appending with
  | some detail => throw (.ledgerUnavailable detail)
  | none =>
    set { o with ledger := o.ledger.append t }
    note .info
      ("add transaction debitor " ++ Text.intText t.debitor ++ " type " ++ t.kind.name ++
        " status " ++ t.state.name ++ " for " ++ Text.intText t.amount.cents ++ " cents " ++
        t.amount.currency)

/-! ## Mails -/

def send (m : Mail) : Desk Unit := do
  let o ← get
  match o.outages.mailing with
  | some detail => throw (.mailUnavailable detail)
  | none => set { o with outbox := o.outbox ++ [m] }

end Desk

end Registration
