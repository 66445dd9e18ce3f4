import Registration.Json.Lenient
import Registration.Json.Reader
import Registration.Ledger
import Registration.Service.Exchange

/-!
# The payment service

Listing and appending transactions over the payment service's interface. A listing that is not found
means an unknown debitor; any other reply that is no success, a reply that cannot be read and a
missing reply mean that the ledger is unavailable. Nothing is tried twice.
-/

/-! ## Transactions as JSON

The service speaks of transactions in JSON objects. `Transaction.body` writes one, leaving out what
is absent, with the VAT rate as a text; `Transaction.ofBody?` reads one, and
`Transaction.listOfReply?` a whole listing. Reading is lenient in the ways of `Json.integer?`,
`Json.decimal?` and `Json.date?`; unknown members are passed over.
-/

namespace Registration.Transaction

open Registration.Number

/-! ### Writing -/

/-- A member that is left out if absent. -/
def optionalMember {α : Type} (key : String) (write : α → Json) : Option α → List (String × Json)
  | some a => [(key, write a)]
  | none => []

/-- The object that an amount is written as. -/
def amountBody (a : Amount) : Json :=
  .object [("currency", .text a.currency), ("gross_cent", .integer a.cents),
    ("vat_rate", .text a.rate.text)]

/-- The object that a transaction is written as. -/
def body (t : Transaction) : Json :=
  .object (
    optionalMember "transaction_identifier" .text t.id ++
    [("debitor_id", .integer t.debitor), ("transaction_type", .text t.kind.name),
      ("method", .text t.method.name), ("amount", amountBody t.amount),
      ("comment", .text t.comment), ("status", .text t.state.name)] ++
    optionalMember "effective_date" (fun d => .text d.iso) t.effectiveDate ++
    optionalMember "due_date" (fun d => .text d.iso) t.dueDate)

/-! ### Reading -/

/-- A member that has to be there. -/
def required {α : Type} (members : List (String × Json)) (key : String) (read : Json → Option α) :
    Option α := (Json.lookup key members).bind read

/-- A member with a default if it is missing. -/
def defaulted {α : Type} (members : List (String × Json)) (key : String) (read : Json → Option α)
    (otherwise : α) : Option α :=
  match Json.lookup key members with
  | some v => read v
  | none => some otherwise

/-- A member that may be missing or null. -/
def nullable {α : Type} (members : List (String × Json)) (key : String) (read : Json → Option α) :
    Option (Option α) :=
  match Json.lookup key members with
  | none | some .null => some none
  | some v => (read v).map some

/-- A VAT rate: a finite decimal, or the parts of one. -/
def rate? (v : Json) : Option Decimal :=
  Json.decimal? Decimal.ofRealPlain v <|> (Json.decimalOfParts? v).filter (·.isFinite)

/-- The amount that an object describes. -/
def amountOfBody? : Json → Option Amount
  | .object members => do
    let currency ← required members "currency" Json.text?
    let cents ← required members "gross_cent" Json.integer?
    let rate ← required members "vat_rate" rate?
    pure ⟨currency, cents, rate⟩
  | _ => none

/-- The transaction that an object describes. -/
def ofBody? : Json → Option Transaction
  | .object members => do
    let id ← nullable members "transaction_identifier" Json.text?
    let debitor ← required members "debitor_id" Json.integer?
    let kind ← required members "transaction_type" fun v => v.text?.bind TransactionKind.ofName?
    let method ←
      defaulted members "method" (fun v => v.text?.bind PaymentMethod.ofName?) .internal
    let amount ← required members "amount" amountOfBody?
    let comment ← defaulted members "comment" Json.text? ""
    let state ← required members "status" fun v => v.text?.bind TransactionState.ofName?
    let effectiveDate ← nullable members "effective_date" Json.date?
    let dueDate ← nullable members "due_date" Json.date?
    pure ⟨debitor, kind, amount, state, method, comment, effectiveDate, dueDate, id⟩
  | _ => none

def listOfBodies? : Json → Option (List Transaction)
  | .array items => items.mapM ofBody?
  | _ => none

/-- How replies are written. -/
def replyDialect : Json.Dialect := ⟨200, false, false⟩

def listOfReply? (reply : String) : Option (List Transaction) :=
  match Json.read replyDialect reply with
  | .ok (.object members) => defaulted members "payload" listOfBodies? []
  | _ => none

end Registration.Transaction

/-! ## Calls -/

namespace Registration.Payments

def transactionsPath : String := "/api/rest/v1/transactions"

/-- The request for a debitor's transactions. -/
def listRequest (e : Endpoint) (debitor : Int) : Except ServiceError Request :=
  e.request "GET" transactionsPath (some ("debitor_id=" ++ Text.intText debitor)) none

def appendRequest (e : Endpoint) (t : Transaction) : Except ServiceError Request :=
  e.request "POST" transactionsPath none (some t.body)

/-- A call without a reply. The journal shows the URL as it was set up. -/
def unreachable {α : Type} (e : Endpoint) (r : Request) (detail : String) : Exchange α :=
  .failing r
    ("payment service request " ++ r.method ++ " " ++ e.base ++ transactionsPath ++ " failed: " ++
      detail)
    (.ledgerUnavailable ("payment service unreachable: " ++ detail))

/-- A call that was answered without success. -/
def refused {α : Type} (r : Request) (action : String) (debitor status : Int) : Exchange α :=
  .failing r
    ("payment service failed to " ++ action ++ " for debitor " ++ Text.intText debitor ++
      ": status " ++ Text.intText status)
    (.ledgerUnavailable ("payment service returned status " ++ Text.intText status))

/-- What a reply to the request for a debitor's transactions means. -/
def listed (debitor : Int) (r : Request) (status : Int) (body : String) :
    Exchange (List Transaction) :=
  if status = 404 then ⟨[r], [], .error (.failed (.debitorNotFound debitor))⟩
  else if 300 ≤ status then refused r "list transactions" debitor status
  else match Transaction.listOfReply? body with
    | some ts => .done r ts
    | none =>
      .failing r ("unparseable transaction list for debitor " ++ Text.intText debitor)
        (.ledgerUnavailable "payment service returned an invalid transaction list")

/-- What a reply to an appended transaction means. -/
def appended (debitor : Int) (r : Request) (status : Int) : Exchange Unit :=
  if 300 ≤ status then refused r "append transaction" debitor status else .done r ()

/-- Lists a debitor's transactions. -/
def list (e : Endpoint) (debitor : Int) (reply : Reply) : Exchange (List Transaction) :=
  .ofReply (listRequest e debitor) reply (listed debitor) (unreachable e)

/-- Appends a transaction. A VAT rate that is no finite number cannot be sent. -/
def append (e : Endpoint) (t : Transaction) (reply : Reply) : Exchange Unit :=
  if t.amount.rate.isFinite then
    .ofReply (appendRequest e t) reply (fun r status _ => appended t.debitor r status)
      (unreachable e)
  else ⟨[], [], .error (.unsendable ["vat_rate"])⟩

end Registration.Payments
