import Registration.Proofs.Json.RoundTrip
import Registration.Proofs.Number.DecimalText
import Registration.Service.Payments

/-!
# Postings read back

What is posted for a transaction can be read again: each member that is written has its reader, and
what is left out is what the reader takes a missing member for (`ofBody?_body`). So a listing that
holds the objects that were posted gives back the transactions, in order (`listing_returns_posted`).
-/

namespace Registration

open Registration.Text

/-! ## Dates -/

namespace Calendar.Date

theorem digits?_paddedDigits (width n : Nat) :
    digits? (paddedDigits width n) = some (n % Number.tenTo width) := by
  obtain ⟨ds, hds, hsmall, hvalue⟩ := exists_paddedDigits width n
  rw [digits?, hds, mapM_asciiDigit? hsmall, Option.map_some, hvalue]

theorem readIso?_isoChars (d : Date) : readIso? d.isoChars = some d := by
  have hvalid := d.valid
  have hdays : daysInMonth d.year d.month ≤ 31 := by
    unfold daysInMonth
    split
    · split <;> decide
    split <;> decide
  have hyear := digits?_paddedDigits 4 d.year
  have hmonth := digits?_paddedDigits 2 d.month
  have hday := digits?_paddedDigits 2 d.day
  have hfour : Number.tenTo 4 = 10000 := rfl
  have htwo : Number.tenTo 2 = 100 := rfl
  rw [Nat.mod_eq_of_lt (by omega)] at hyear hmonth hday
  simp only [paddedDigits, List.nil_append, List.cons_append] at hyear hmonth hday
  simp [isoChars, paddedDigits, readIso?, hyear, hmonth, hday]

end Calendar.Date

namespace Json

theorem date?_iso (d : Calendar.Date) : date? (text d.iso) = some d := by
  have hlength : d.isoChars.length = 10 := by simp [Calendar.Date.isoChars]
  have hwritten := Calendar.Date.readIso?_isoChars d
  rw [date?, dateText?, Calendar.Date.iso, String.toList_ofList,
    List.drop_of_length_le (Nat.le_of_eq hlength), List.take_of_length_le (Nat.le_of_eq hlength),
    hwritten]
  rfl

theorem text?_text (s : String) : text? (text s) = some s := rfl

theorem integer?_integer (n : Int) : integer? (integer n) = some n := rfl

/-! ## Members -/

@[simp] theorem lookup_nil (key : String) : lookup key [] = none := rfl

theorem lookup_append (key : String) (ms ns : List (String × Json)) :
    lookup key (ms ++ ns) = (lookup key ns).or (lookup key ms) := by
  simp [lookup, List.find?_append, Option.map_or]

theorem lookup_cons (key : String) (m : String × Json) (ms : List (String × Json)) :
    lookup key (m :: ms) = (lookup key ms).or (if m.1 = key then some m.2 else none) := by
  rw [← List.singleton_append, lookup_append]
  by_cases h : m.1 = key <;> simp [lookup, h]

end Json

namespace Transaction

open Registration.Number

theorem lookup_optionalMember {α : Type} (key key' : String) (write : α → Json) (a : Option α) :
    Json.lookup key (optionalMember key' write a) = if key' = key then a.map write else none := by
  cases a with
  | none => simp [optionalMember, Json.lookup]
  | some a => simp [optionalMember, Json.lookup]

variable {α : Type} {members : List (String × Json)} {key : String}

theorem required_of_lookup {read : Json → Option α} {v : Json} {a : α}
    (h : Json.lookup key members = some v) (hread : read v = some a) :
    required members key read = some a := by
  rw [required, h, Option.bind_some, hread]

theorem defaulted_of_lookup {read : Json → Option α} {v : Json} {a otherwise : α}
    (h : Json.lookup key members = some v) (hread : read v = some a) :
    defaulted members key read otherwise = some a := by
  rw [defaulted, h]
  exact hread

/-- A member that is left out if absent reads as absent. -/
theorem nullable_of_lookup {read : Json → Option α} {write : α → String} {a : Option α}
    (h : Json.lookup key members = a.map fun a => .text (write a))
    (hread : ∀ a, read (.text (write a)) = some a) : nullable members key read = some a := by
  rw [nullable, h]
  cases a with
  | none => rfl
  | some a => exact congrArg (Option.map some) (hread a)

/-! ## Bodies -/

theorem rate?_text {rate : Decimal} (h : rate.WithinLimits) :
    rate? (.text rate.text) = some rate := by
  rw [rate?, Json.decimal?, Json.decimalText?, Decimal.read?_text h, Option.filter_some,
    if_pos h.isFinite]
  rfl

theorem amountOfBody?_amountBody {a : Amount} (h : a.rate.WithinLimits) :
    amountOfBody? (amountBody a) = some a := by
  rw [amountBody, amountOfBody?]
  generalize hmembers : [("currency", Json.text a.currency), ("gross_cent", Json.integer a.cents),
    ("vat_rate", Json.text a.rate.text)] = members
  have hcurrency : Json.lookup "currency" members = some (.text a.currency) := by
    simp [← hmembers, Json.lookup_cons]
  have hcents : Json.lookup "gross_cent" members = some (.integer a.cents) := by
    simp [← hmembers, Json.lookup_cons]
  have hrate : Json.lookup "vat_rate" members = some (.text a.rate.text) := by
    simp [← hmembers, Json.lookup_cons]
  rw [required_of_lookup hcurrency (Json.text?_text _),
    required_of_lookup hcents (Json.integer?_integer _), required_of_lookup hrate (rate?_text h)]
  rfl

/-- A transaction is read back from the object it is written as, with what was left out absent. -/
theorem ofBody?_body {t : Transaction} (h : t.amount.rate.WithinLimits) :
    ofBody? t.body = some t := by
  rw [body, ofBody?]
  generalize hmembers : optionalMember "transaction_identifier" Json.text t.id ++ _ ++ _ ++ _ =
    members
  have hlookup : ∀ key, Json.lookup key members = _ := fun key => by
    rw [← hmembers, Json.lookup_append, Json.lookup_append, Json.lookup_append]
  have hid : Json.lookup "transaction_identifier" members = t.id.map fun s => .text s := by
    simp [hlookup, Json.lookup_cons, lookup_optionalMember]
  have hdebitor : Json.lookup "debitor_id" members = some (.integer t.debitor) := by
    simp [hlookup, Json.lookup_cons, lookup_optionalMember]
  have hkind : Json.lookup "transaction_type" members = some (.text t.kind.name) := by
    simp [hlookup, Json.lookup_cons, lookup_optionalMember]
  have hmethod : Json.lookup "method" members = some (.text t.method.name) := by
    simp [hlookup, Json.lookup_cons, lookup_optionalMember]
  have hamount : Json.lookup "amount" members = some (amountBody t.amount) := by
    simp [hlookup, Json.lookup_cons, lookup_optionalMember]
  have hcomment : Json.lookup "comment" members = some (.text t.comment) := by
    simp [hlookup, Json.lookup_cons, lookup_optionalMember]
  have hstate : Json.lookup "status" members = some (.text t.state.name) := by
    simp [hlookup, Json.lookup_cons, lookup_optionalMember]
  have heffective : Json.lookup "effective_date" members =
      t.effectiveDate.map fun d => .text d.iso := by
    simp [hlookup, Json.lookup_cons, lookup_optionalMember]
  have hdue : Json.lookup "due_date" members = t.dueDate.map fun d => .text d.iso := by
    simp [hlookup, Json.lookup_cons, lookup_optionalMember]
  rw [nullable_of_lookup hid Json.text?_text,
    required_of_lookup hdebitor (Json.integer?_integer _),
    required_of_lookup hkind (TransactionKind.ofName?_name t.kind),
    defaulted_of_lookup hmethod (PaymentMethod.ofName?_name t.method),
    required_of_lookup hamount (amountOfBody?_amountBody h),
    defaulted_of_lookup hcomment (Json.text?_text _),
    required_of_lookup hstate (TransactionState.ofName?_name t.state),
    nullable_of_lookup heffective Json.date?_iso, nullable_of_lookup hdue Json.date?_iso]
  rfl

theorem listOfBodies?_bodies {ts : List Transaction} (h : ∀ t ∈ ts, t.amount.rate.WithinLimits) :
    listOfBodies? (.array (ts.map body)) = some ts := by
  rw [listOfBodies?]
  induction ts with
  | nil => rfl
  | cons t rest ih =>
    obtain ⟨ht, hrest⟩ := List.forall_mem_cons.mp h
    rw [List.map_cons, List.mapM_cons, ofBody?_body ht, ih hrest]
    rfl

/-! ## Written bodies -/

/-- The whole numbers of the transaction have no more digits than a reader of JSON takes. -/
def HasShortNumbers (t : Transaction) : Prop :=
  (natDigits t.debitor.natAbs).length ≤ Json.maxDigits ∧
    (natDigits t.amount.cents.natAbs).length ≤ Json.maxDigits

theorem legible_body {t : Transaction} (h : t.HasShortNumbers) (d : Json.Dialect) (depth : Nat) :
    Json.Legible d (depth + 2) t.body := by
  have hamount : Json.Legible d (depth + 1) (amountBody t.amount) := by
    refine .object ?_
    simp only [List.forall_mem_cons, List.not_mem_nil, false_imp_iff, implies_true, and_true]
    exact ⟨.text _, .integer h.2, .text _⟩
  have hoptional : ∀ {α : Type} (key : String) (write : α → String) (a : Option α),
      ∀ m ∈ optionalMember key (fun a => .text (write a)) a, Json.Legible d (depth + 1) m.2 := by
    intro α key write a m hm
    cases a with
    | none => cases hm
    | some a => exact List.mem_singleton.mp hm ▸ .text _
  refine .object fun m hm => ?_
  simp only [List.mem_append] at hm
  rcases hm with ((hm | hm) | hm) | hm
  · exact hoptional "transaction_identifier" (fun s => s) t.id m hm
  · revert m
    simp only [List.forall_mem_cons, List.not_mem_nil, false_imp_iff, implies_true, and_true]
    exact ⟨.integer h.1, .text _, .text _, hamount, .text _, .text _⟩
  · exact hoptional _ _ t.effectiveDate m hm
  · exact hoptional _ _ t.dueDate m hm

/-- The reply whose payload holds the given objects. -/
def listing (bodies : List Json) : Json := .object [("payload", .array bodies)]

theorem legible_listing {ts : List Transaction} (h : ∀ t ∈ ts, t.HasShortNumbers)
    (d : Json.Dialect) (depth : Nat) : Json.Legible d (depth + 4) (listing (ts.map body)) := by
  have hbodies : ∀ v ∈ ts.map body, Json.Legible d (depth + 2) v := fun v hv => by
    obtain ⟨t, ht, rfl⟩ := List.mem_map.mp hv
    exact legible_body (h t ht) d depth
  have hpayload : Json.Legible d (depth + 3) (.array (ts.map body)) := .array hbodies
  exact .object fun m hm => List.mem_singleton.mp hm ▸ hpayload

end Transaction

/-! ## Exchanges -/

theorem Endpoint.body_of_request {e : Endpoint} {method path : String} {query : Option String}
    {body : Option Json} {r : Request} (h : e.request method path query body = .ok r) :
    r.body = body := by
  unfold request at h
  split at h
  · cases h
  split at h
  · exact Except.ok.inj h ▸ rfl
  · cases h

/-- A request that can be made is sent once, whatever comes back. -/
theorem Exchange.requests_ofReply {α : Type} {r : Request}
    {answered : Request → Int → String → Exchange α} {unreachable : Request → String → Exchange α}
    (hanswered : ∀ status body, (answered r status body).requests = [r])
    (hunreachable : ∀ detail, (unreachable r detail).requests = [r]) (reply : Reply) :
    (ofReply (.ok r) reply answered unreachable).requests = [r] := by
  cases reply with
  | unreachable detail => exact hunreachable detail
  | answered status body =>
    rw [ofReply]
    split
    · exact hanswered status body
    · rfl

namespace Payments

/-- A transaction with a finite rate is posted if a request can be made at all. -/
theorem append_eq {e : Endpoint} {t : Transaction} {r : Request}
    (hfinite : t.amount.rate.isFinite = true) (hrequest : appendRequest e t = .ok r)
    (reply : Reply) : (append e t reply).requests = [r] ∧ r.body = some t.body := by
  refine ⟨?_, Endpoint.body_of_request hrequest⟩
  rw [append, if_pos hfinite, hrequest]
  refine Exchange.requests_ofReply (fun status _ => ?_) (fun _ => rfl) reply
  rw [appended]
  split <;> rfl

/-- A listing whose text can be read gives the transactions it holds. -/
theorem list_eq {e : Endpoint} {debitor : Int} {r : Request} {reply : String}
    {ts : List Transaction} (hrequest : listRequest e debitor = .ok r)
    (habsolute : r.url.isAbsolute = true) (hread : Transaction.listOfReply? reply = some ts) :
    list e debitor (.answered 200 reply) = .done r ts := by
  rw [list, hrequest, Exchange.ofReply, if_pos habsolute, listed, if_neg (by decide),
    if_neg (by decide), hread]

end Payments

/-- Take transactions with finite VAT rates, whatever their other parts, and whichever of them are
absent. Where a request can be made, appending one posts its object, once. Reading an object whose
payload lists these objects gives the transactions again, in order, and so does the call that lists
them, for any text of the reply that is read as such an object. The text that such an object is
written as is one, if the whole numbers are not longer than those that a reader of JSON takes. -/
theorem listing_returns_posted {ts : List Transaction}
    (hrates : ∀ t ∈ ts, t.amount.rate.WithinLimits) :
    (∀ t ∈ ts, ∀ e r reply, Payments.appendRequest e t = .ok r →
      (Payments.append e t reply).requests = [r] ∧ r.body = some t.body) ∧
    (∀ members, Json.lookup "payload" members = some (.array (ts.map Transaction.body)) →
      Transaction.defaulted members "payload" Transaction.listOfBodies? [] = some ts ∧
      ∀ e debitor r reply, Payments.listRequest e debitor = .ok r → r.url.isAbsolute = true →
        Json.read Transaction.replyDialect reply = .ok (.object members) →
          Payments.list e debitor (.answered 200 reply) = .done r ts) ∧
    ((∀ t ∈ ts, t.HasShortNumbers) →
      Json.read Transaction.replyDialect (Transaction.listing (ts.map Transaction.body)).write =
        .ok (Transaction.listing (ts.map Transaction.body))) := by
  refine ⟨fun t ht e r reply hrequest => ?_, fun members hpayload => ?_, fun hshort => ?_⟩
  · exact Payments.append_eq (hrates t ht).isFinite hrequest reply
  · have hdecoded :
        Transaction.defaulted members "payload" Transaction.listOfBodies? [] = some ts :=
      Transaction.defaulted_of_lookup hpayload (Transaction.listOfBodies?_bodies hrates)
    refine ⟨hdecoded, fun e debitor r reply hrequest habsolute hread => ?_⟩
    refine Payments.list_eq hrequest habsolute ?_
    rw [Transaction.listOfReply?, hread]
    exact hdecoded
  · exact Json.read_write (Transaction.legible_listing hshort Transaction.replyDialect 196)

/-- A payment service. -/
def payHost : Endpoint := ⟨"https://pay.example.org/", "secret"⟩

/-- Dues and a payment, with and without what may be absent. -/
def mixedLedger : List Transaction := [
  ⟨7, .due, ⟨"EUR", 10000, .finite false 19 3⟩, .valid, .internal, "one \"day\"\n",
    Calendar.Date.of? 2024 1 1, Calendar.Date.of? 2024 1 15, some ""⟩,
  ⟨7, .payment, ⟨"€", -10000, .finite true 0 (-2)⟩, .pending, .transfer, "", none, none, none⟩,
  ⟨7, .due, ⟨"EUR", 0, .finite false 1900 (-2)⟩, .deleted, .gift, "", none,
    Calendar.Date.of? 9999 12 31, some "t-3"⟩]

/-- Rates with a power of ten, a sign of zero or zeros at the end are listed as they were posted, and
so are transactions with and without an identifier and dates. -/
theorem mixed_ledger_listed :
    mixedLedger.map (·.amount.rate.text) = ["1.9E+4", "-0.00", "19.00"] ∧
      mixedLedger.map (·.dueDate.map (·.iso)) = [some "2024-01-15", none, some "9999-12-31"] ∧
      ∃ r, Payments.listRequest payHost 7 = .ok r ∧
        Payments.list payHost 7
            (.answered 200 (Transaction.listing (mixedLedger.map Transaction.body)).write) =
          .done r mixedLedger := by
  have hsent : (Payments.listRequest payHost 7).toOption.map (·.url.isAbsolute) = some true := by
    decide +kernel
  obtain ⟨-, hlisted, hwritten⟩ :=
    listing_returns_posted (show ∀ t ∈ mixedLedger, t.amount.rate.WithinLimits by decide +kernel)
  have hshort : ∀ t ∈ mixedLedger, t.HasShortNumbers := by
    unfold Transaction.HasShortNumbers
    decide +kernel
  refine ⟨by decide +kernel, by decide +kernel, ?_⟩
  cases hrequest : Payments.listRequest payHost 7 with
  | error e =>
    rw [hrequest] at hsent
    cases hsent
  | ok r =>
    rw [hrequest] at hsent
    exact ⟨r, rfl, (hlisted _ rfl).2 payHost 7 r _ hrequest (Option.some.inj hsent)
      (hwritten hshort)⟩

end Registration
