import Registration.Calendar
import Registration.Failure
import Registration.Number.Decimal
import Registration.Table

/-!
# The ledger

A transaction charges dues to a debitor or records a payment. Its amount is in cents, signed, with
the VAT rate in percent as it was written. Each debitor has a list of transactions that only grows.
-/

namespace Registration

/-- What a transaction does. -/
inductive TransactionKind where
  | due
  | payment
  deriving DecidableEq, Repr, Inhabited

/-- How far a transaction has come. -/
inductive TransactionState where
  | tentative
  | pending
  | valid
  | deleted
  deriving DecidableEq, Repr, Inhabited

/-- How a transaction was settled; booked dues are internal. -/
inductive PaymentMethod where
  | credit
  | paypal
  | transfer
  | internal
  | gift
  deriving DecidableEq, Repr, Inhabited

/-! ## Written names -/

namespace TransactionKind

/-- The written name of a kind. -/
def name : TransactionKind → String
  | due => "due"
  | payment => "payment"

/-- The kind with a written name. -/
def ofName? (s : String) : Option TransactionKind := [due, payment].find? (·.name == s)

@[simp] theorem ofName?_name (k : TransactionKind) : ofName? k.name = some k := by cases k <;> rfl

end TransactionKind

namespace TransactionState

/-- The written name of a state. -/
def name : TransactionState → String
  | tentative => "tentative"
  | pending => "pending"
  | valid => "valid"
  | deleted => "deleted"

/-- The state with a written name. -/
def ofName? (s : String) : Option TransactionState :=
  [tentative, pending, valid, deleted].find? (·.name == s)

@[simp] theorem ofName?_name (t : TransactionState) : ofName? t.name = some t := by
  cases t <;> rfl

end TransactionState

namespace PaymentMethod

/-- The written name of a method. -/
def name : PaymentMethod → String
  | credit => "credit"
  | paypal => "paypal"
  | transfer => "transfer"
  | internal => "internal"
  | gift => "gift"

/-- The method with a written name. -/
def ofName? (s : String) : Option PaymentMethod :=
  [credit, paypal, transfer, internal, gift].find? (·.name == s)

@[simp] theorem ofName?_name (m : PaymentMethod) : ofName? m.name = some m := by cases m <;> rfl

end PaymentMethod

/-! ## Transactions -/

/-- A signed amount in cents at a VAT rate in percent. -/
structure Amount where
  currency : String
  cents : Int
  rate : Number.Decimal
  deriving DecidableEq

/-- One entry of the ledger. -/
structure Transaction where
  debitor : Int
  kind : TransactionKind
  amount : Amount
  state : TransactionState
  method : PaymentMethod
  comment : String
  effectiveDate : Option Calendar.Date
  dueDate : Option Calendar.Date
  id : Option String
  deriving DecidableEq

namespace Transaction

/-- The transaction charges dues and counts. -/
def isValidDue (t : Transaction) : Bool := t.state = .valid && t.kind = .due

/-- The transaction records a payment and counts. -/
def isValidPayment (t : Transaction) : Bool := t.state = .valid && t.kind = .payment

/-- The transaction announces a payment that does not count yet. -/
def isOpenPayment (t : Transaction) : Bool :=
  (t.state = .tentative || t.state = .pending) && t.kind = .payment

theorem isValidPayment_eq_false_of_isValidDue {t : Transaction} (h : t.isValidDue = true) :
    t.isValidPayment = false := by
  simp_all [isValidDue, isValidPayment]

theorem isOpenPayment_eq_false_of_isValidDue {t : Transaction} (h : t.isValidDue = true) :
    t.isOpenPayment = false := by
  simp_all [isValidDue, isOpenPayment]

end Transaction

/-! ## Accounts

A debitor without transactions is unknown, which counts as an empty history. The ledger also keeps
the transactions that were appended here, as distinct from those that came from elsewhere.
-/

/-- The transactions of all debitors. -/
structure Ledger where
  accounts : Table Int (List Transaction)
  appended : List Transaction

namespace Ledger

/-- The ledger without transactions. -/
def empty : Ledger := ⟨.empty, []⟩

/-- The transactions of a debitor in order; unknown debitors have none. -/
def history (l : Ledger) (debitor : Int) : List Transaction := (l.accounts.get? debitor).getD []

/-- The transactions of a known debitor. -/
def list (l : Ledger) (debitor : Int) : Except Failure (List Transaction) :=
  match l.accounts.get? debitor with
  | some ts => .ok ts
  | none => .error (.debitorNotFound debitor)

/-- Adds a transaction that came from elsewhere. -/
def inject (l : Ledger) (t : Transaction) : Ledger :=
  { l with accounts := l.accounts.insert t.debitor (l.history t.debitor ++ [t]) }

/-- Adds a transaction and keeps it among those appended. -/
def append (l : Ledger) (t : Transaction) : Ledger :=
  { l.inject t with appended := l.appended ++ [t] }

@[simp] theorem history_inject (l : Ledger) (t : Transaction) (debitor : Int) :
    (l.inject t).history debitor =
      if t.debitor = debitor then l.history debitor ++ [t] else l.history debitor := by
  simp only [inject, history, Table.get?_insert]
  split
  · rename_i h; simp [h]
  · rfl

@[simp] theorem history_append (l : Ledger) (t : Transaction) (debitor : Int) :
    (l.append t).history debitor =
      if t.debitor = debitor then l.history debitor ++ [t] else l.history debitor :=
  history_inject l t debitor

end Ledger

end Registration
