import Registration.Proofs.Office.Requests

/-!
# Runs of the office

An event is a request, a transaction that comes into the ledger from elsewhere, an outage that
begins or ends, or the passing of time. `Office.run` lets the events happen one after the other,
whatever each of them comes to. Along every run the store stays `WellKept`, and the ledger keeps to
finite rates if what comes in has them (`wellKept_run`, `finiteLedger_run`).
-/

namespace Registration

/-- A change that is asked of the office. -/
inductive Change where
  | update (actor : Actor) (a : Attendee) (suppress : Bool)
  | updateInfo (actor : Actor) (i : AdminInfo)
  | changeStatus (actor : Actor) (id : Int) (new : Target) (comment override : String)
    (suppress : Bool)

namespace Change

/-- The attendee that the change is about. -/
def attendeeId : Change → Int
  | update _ a _ => a.id
  | updateInfo _ i => i.attendeeId
  | changeStatus _ id .. => id

/-- The work that the change asks for. -/
def perform (p : Policy) : Change → Desk Committed
  | update actor a suppress => Desk.update p actor a suppress
  | updateInfo actor i => Desk.updateInfo p actor i
  | changeStatus actor id new comment override suppress =>
    Desk.changeStatus p actor id new comment override suppress

end Change

/-- Something that happens to the office. -/
inductive Event where
  | register (actor : Actor) (a : Attendee)
  | change (c : Change)
  | inject (t : Transaction)
  | outage (outages : Outages)
  | tick (clock : Clock)

/-- The office after an event, however it ended. -/
def Event.apply (p : Policy) (o : Office) : Event → Office
  | register actor a => (Desk.register p actor a).after o
  | change c => (c.perform p).after o
  | inject t => { o with ledger := o.ledger.inject t }
  | outage outages => { o with outages := outages }
  | tick clock => { o with clock := clock }

namespace Office

/-- The office after events that happen one after the other. -/
def run (p : Policy) (o : Office) (events : List Event) : Office := events.foldl (Event.apply p) o

/-- An office without registrations and transactions, with rows for the counts. -/
def openingWith (counts : CountTable) (clock : Clock) : Office :=
  (opening clock).withCounts counts

/-- What every event of a run preserves holds after the run. -/
theorem run_induction {p : Policy} (Inv : Office → Prop) {events : List Event}
    (hstep : ∀ o, ∀ e ∈ events, Inv o → Inv (e.apply p o)) {o : Office} (ho : Inv o) :
    Inv (o.run p events) := by
  induction events generalizing o with
  | nil => exact ho
  | cons e rest ih =>
    exact ih (fun o f hf => hstep o f (List.mem_cons_of_mem e hf))
      (hstep o e List.mem_cons_self ho)

end Office

/-! ## What a commit leaves -/

section Leaves

variable {p : Policy} {a : Attendee} {old target : Status} {comment override : String}
  {recorded : Desk Unit} {o o' : Office} {answer : Except Failure Committed}

theorem after_recording (ds : List CountDelta) (o : Office) :
    ∃ t, (recording ds).after o = o.withCounts t := by
  have hends : (recording ds).Ends o (fun _ o' => ∃ t, o' = o.withCounts t)
      fun _ o' => ∃ t, o' = o.withCounts t :=
    Desk.ends_bind (Desk.ends_recordAll.mono (fun _ _ h => Desk.ends_pure ⟨_, h.2⟩)
      fun _ _ ⟨_, _, _, _, h⟩ => ⟨_, h⟩)
  exact hends.after_of

theorem after_pure (o : Office) : ∃ t, (pure () : Desk Unit).after o = o.withCounts t :=
  ⟨o.store.counts, rfl⟩

/-- A commit leaves the store as it was, or settled with other counts. -/
theorem CommitEnd.store_eq (h : CommitEnd p a old target comment override recorded o answer o')
    (hrec : ∀ o, ∃ t, recorded.after o = o.withCounts t) :
    o'.store = o.store ∨ ∃ r o₁ t, o.Settles p a old target comment override r o₁ ∧
      o'.store = { o₁.store with counts := t } := by
  cases h with
  | refused _ hposted => exact .inl hposted.store
  | unrecorded hsettles _ _ =>
    obtain ⟨t, ht⟩ := hrec _
    exact .inr ⟨_, _, t, hsettles, by rw [ht]; rfl⟩
  | changed hsettles _ _ hkept =>
    obtain ⟨t, ht⟩ := hrec _
    exact .inr ⟨_, _, t, hsettles, by rw [hkept.store, ht]; rfl⟩
  | unchanged hsettles _ hkept => exact .inr ⟨_, _, _, hsettles, by rw [hkept.store]⟩

/-- A commit books some first part of what it planned. -/
theorem CommitEnd.ledger_eq (h : CommitEnd p a old target comment override recorded o answer o')
    (hrec : ∀ o, ∃ t, recorded.after o = o.withCounts t) :
    ∃ n, o'.ledger =
      o.ledger.appendAll ((o.plannedFor p a target override).transactions.take n) := by
  have hall : ∀ {r o₁}, o.Settles p a old target comment override r o₁ →
      o₁.ledger = o.ledger.appendAll ((o.plannedFor p a target override).transactions.take
        (o.plannedFor p a target override).transactions.length) := fun hs => by
    rw [List.take_length]
    exact hs.ledger
  cases h with
  | refused _ hposted => exact ⟨_, hposted.ledger⟩
  | unrecorded hsettles _ _ =>
    obtain ⟨t, ht⟩ := hrec _
    exact ⟨_, (by rw [ht]; rfl : _ = _).trans (hall hsettles)⟩
  | changed hsettles _ _ hkept =>
    obtain ⟨t, ht⟩ := hrec _
    exact ⟨_, (by rw [hkept.ledger, ht]; rfl : _ = _).trans (hall hsettles)⟩
  | unchanged hsettles _ hkept => exact ⟨_, hkept.ledger.trans (hall hsettles)⟩

/-- A commit of a stored record keeps the store well kept. -/
theorem CommitEnd.wellKept (h : CommitEnd p a old target comment override recorded o answer o')
    (hrec : ∀ o, ∃ t, recorded.after o = o.withCounts t) (hs : o.store.WellKept)
    (ha : a.id < o.store.nextId) (hold : old = o.store.statusOf a.id) : o'.store.WellKept := by
  rcases h.store_eq hrec with hstore | ⟨r, o₁, t, hsettles, hstore⟩
  · exact hstore ▸ hs
  · have hid := hsettles.id_eq
    rw [hstore, hsettles.store]
    exact (hs.settle (hid ▸ ha) (hid ▸ hold)).withCounts t

/-- All rates in the ledger are finite. -/
def Ledger.FiniteRates (l : Ledger) : Prop := ∀ id, Registration.FiniteRates (l.history id)

theorem Ledger.FiniteRates.inject {l : Ledger} (h : l.FiniteRates) {t : Transaction}
    (ht : t.amount.rate.isFinite = true) : (l.inject t).FiniteRates := by
  intro id
  rw [Ledger.history_inject]
  split_ifs
  · exact finiteRates_append.mpr ⟨h id, by simpa [Registration.FiniteRates] using ht⟩
  · exact h id

theorem Ledger.FiniteRates.appendAll {l : Ledger} (h : l.FiniteRates) {ts : List Transaction}
    (hts : Registration.FiniteRates ts) : (l.appendAll ts).FiniteRates := by
  intro id
  rw [Ledger.history_appendAll]
  exact finiteRates_append.mpr ⟨h id, fun t ht => hts t (List.mem_of_mem_filter ht)⟩

/-- A commit books at finite rates. -/
theorem CommitEnd.finiteLedger (h : CommitEnd p a old target comment override recorded o answer o')
    (hrec : ∀ o, ∃ t, recorded.after o = o.withCounts t) (hp : p.FiniteRates)
    (hl : o.ledger.FiniteRates) : o'.ledger.FiniteRates := by
  obtain ⟨n, hledger⟩ := h.ledger_eq hrec
  rw [hledger]
  exact hl.appendAll fun t ht => finiteRates_planned hp (hl a.id) t (List.mem_of_mem_take ht)

end Leaves

/-! ## How changes end -/

section Changes

variable (p : Policy) {o : Office}

theorem updateEnd (o : Office) (actor : Actor) (a : Attendee) (suppress : Bool) :
    UpdateEnd p o a ((Desk.update p actor a suppress).answer o)
      ((Desk.update p actor a suppress).after o) :=
  Desk.Ends.answer_after (R := UpdateEnd p o a) Desk.ends_update

theorem infoEnd (hs : o.store.WellKept) (actor : Actor) (i : AdminInfo) :
    InfoEnd p o i ((Desk.updateInfo p actor i).answer o) ((Desk.updateInfo p actor i).after o) :=
  Desk.Ends.answer_after (R := InfoEnd p o i) (Desk.ends_updateInfo (hs.numbered i.attendeeId))

theorem statusEnd (hs : o.store.WellKept) (actor : Actor) (id : Int) (new : Target)
    (comment override : String) (suppress : Bool) :
    StatusEnd p actor o id new override
      ((Desk.changeStatus p actor id new comment override suppress).answer o)
      ((Desk.changeStatus p actor id new comment override suppress).after o) :=
  Desk.Ends.answer_after (R := StatusEnd p actor o id new override)
    (Desk.ends_changeStatus (hs.numbered id))

theorem registerEnd (o : Office) (actor : Actor) (a : Attendee) :
    RegisterEnd p actor o a ((Desk.register p actor a).after o) :=
  Desk.ends_register.after_of

end Changes

/-! ## What every event preserves -/

section Preserves

variable {p : Policy} {o : Office}

/-- The change keeps the store well kept, and the ledger at finite rates. -/
def Office.Leads (p : Policy) (o o' : Office) : Prop :=
  o'.store.WellKept ∧ (p.FiniteRates → o.ledger.FiniteRates → o'.ledger.FiniteRates)

theorem Office.leads_of_kept {o' : Office} (hs : o.store.WellKept) (h : o.Kept o') :
    o.Leads p o' :=
  ⟨h.store ▸ hs, fun _ hl => h.ledger ▸ hl⟩

/-- A commit from an office that has the ledger of the first one. -/
theorem CommitEnd.leads {a : Attendee} {old target : Status} {comment override : String}
    {recorded : Desk Unit} {o₁ o' : Office} {answer : Except Failure Committed}
    (h : CommitEnd p a old target comment override recorded o₁ answer o')
    (hrec : ∀ o, ∃ t, recorded.after o = o.withCounts t) (hs : o₁.store.WellKept)
    (hledger : o₁.ledger = o.ledger) (ha : a.id < o₁.store.nextId)
    (hold : old = o₁.store.statusOf a.id) : o.Leads p o' :=
  ⟨h.wellKept hrec hs ha hold, fun hp hl => h.finiteLedger hrec hp (hledger ▸ hl)⟩

/-- An edit leaves the status. -/
theorem currentStatus_withRecord {a stored : Attendee} (hs : o.store.WellKept)
    (hstored : o.store.attendees.get? a.id = some stored) (t : CountTable) :
    o.store.currentStatus stored =
      (o.withRecord (Desk.editedRecord stored a) t).store.statusOf
        (Desk.editedRecord stored a).id := by
  rw [Desk.id_editedRecord, Store.currentStatus_eq, hs.numbered a.id _ hstored, Store.statusOf,
    Store.statusOf, Office.changes_withRecord]

theorem UpdateEnd.leads {a : Attendee} {answer : Except Failure Committed} {o' : Office}
    (h : UpdateEnd p o a answer o') (hs : o.store.WellKept) : o.Leads p o' := by
  have hput : ∀ {stored : Attendee}, o.store.attendees.get? a.id = some stored → ∀ t,
      (o.withRecord (Desk.editedRecord stored a) t).store.WellKept := by
    intro stored hget t
    have hgiven : (Desk.editedRecord stored a).id < o.store.nextId := by
      rw [Desk.id_editedRecord]
      exact hs.given a.id _ hget
    exact (hs.putRecord hgiven).withCounts t
  cases h with
  | refused _ hkept => exact Office.leads_of_kept hs hkept
  | unrecorded _ hstored _ _ _ => exact ⟨hput hstored _, fun _ hl => hl⟩
  | committed hstored _ _ hcommit =>
    refine hcommit.leads after_pure (hput hstored _) rfl ?_ ?_
    · rw [Desk.id_editedRecord, Office.nextId_withRecord]
      exact hs.given a.id _ hstored
    · exact currentStatus_withRecord hs hstored _

theorem InfoEnd.leads {i : AdminInfo} {answer : Except Failure Committed} {o' : Office}
    (h : InfoEnd p o i answer o') (hs : o.store.WellKept) : o.Leads p o' := by
  cases h with
  | unknown _ => exact ⟨hs.putInfo i, fun _ hl => hl⟩
  | @committed _ a _ _ hstored hcommit =>
    refine hcommit.leads after_pure (hs.putInfo i) rfl ?_ (Store.currentStatus_eq _ a)
    rw [hs.numbered _ _ hstored]
    exact hs.given _ _ hstored

theorem StatusEnd.leads {actor : Actor} {id : Int} {new : Target} {override : String}
    {answer : Except Failure Committed} {o' : Office}
    (h : StatusEnd p actor o id new override answer o') (hs : o.store.WellKept) : o.Leads p o' := by
  cases h with
  | refused _ hposted =>
    exact Office.leads_of_kept hs ⟨hposted.store, hposted.ledger, hposted.clock⟩
  | @committed _ a _ deltas _ o₁ _ _ hstored _ _ _ _ hposted hcommit =>
    refine hcommit.leads (after_recording deltas) (hposted.store ▸ hs) hposted.ledger ?_ ?_
    · rw [hposted.store, hs.numbered _ _ hstored]
      exact hs.given _ _ hstored
    · rw [hposted.store]
      exact Store.currentStatus_eq _ a

theorem RegisterEnd.leads {actor : Actor} {a : Attendee} {o' : Office}
    (h : RegisterEnd p actor o a o') (hs : o.store.WellKept) : o.Leads p o' := by
  cases h with
  | refused hkept => exact Office.leads_of_kept hs hkept
  | added _ _ _ => exact ⟨(hs.addAttendee _).withCounts _, fun _ hl => hl⟩

theorem Change.leads (hs : o.store.WellKept) (c : Change) : o.Leads p ((c.perform p).after o) := by
  cases c with
  | update actor a suppress => exact (updateEnd p o actor a suppress).leads hs
  | updateInfo actor i => exact (infoEnd p hs actor i).leads hs
  | changeStatus actor id new comment override suppress =>
    exact (statusEnd p hs actor id new comment override suppress).leads hs

/-- What comes into the ledger with the event has a finite rate. -/
def Event.HasFiniteRate : Event → Prop
  | inject t => t.amount.rate.isFinite = true
  | _ => True

/-- A request keeps the store well kept, and the ledger at finite rates if what comes in is. -/
theorem Event.wellKept_apply (hs : o.store.WellKept) (e : Event) :
    (e.apply p o).store.WellKept := by
  cases e with
  | register actor a => exact ((registerEnd p o actor a).leads hs).1
  | change c => exact (c.leads hs).1
  | inject _ => exact hs
  | outage _ => exact hs
  | tick _ => exact hs

theorem Event.finiteLedger_apply (hp : p.FiniteRates) (hs : o.store.WellKept)
    (hl : o.ledger.FiniteRates) {e : Event} (he : e.HasFiniteRate) :
    (e.apply p o).ledger.FiniteRates := by
  cases e with
  | register actor a => exact ((registerEnd p o actor a).leads hs).2 hp hl
  | change c => exact (c.leads hs).2 hp hl
  | inject t => exact hl.inject he
  | outage _ => exact hl
  | tick _ => exact hl

namespace Office

/-- The store is well kept along every run. -/
theorem wellKept_run (hs : o.store.WellKept) (events : List Event) :
    (o.run p events).store.WellKept :=
  run_induction (fun o => o.store.WellKept) (fun _ e _ h => e.wellKept_apply h) hs

/-- What every event of a run preserves in an office that is well kept holds after the run. -/
theorem run_of_wellKept (Inv : Office → Prop) {events : List Event}
    (hstep : ∀ o, ∀ e ∈ events, o.store.WellKept → Inv o → Inv (e.apply p o))
    (hs : o.store.WellKept) (ho : Inv o) : Inv (o.run p events) := by
  have hboth : (o.run p events).store.WellKept ∧ Inv (o.run p events) :=
    run_induction (fun o => o.store.WellKept ∧ Inv o)
      (fun o e he h => ⟨e.wellKept_apply h.1, hstep o e he h.1 h.2⟩) ⟨hs, ho⟩
  exact hboth.2

/-- The ledger keeps to finite rates along every run in which only these come in. -/
theorem finiteLedger_run (hp : p.FiniteRates) (hs : o.store.WellKept) (hl : o.ledger.FiniteRates)
    {events : List Event} (hevents : ∀ e ∈ events, e.HasFiniteRate) :
    (o.run p events).ledger.FiniteRates :=
  run_of_wellKept (fun o => o.ledger.FiniteRates)
    (fun _ e he hs hl => e.finiteLedger_apply hp hs hl (hevents e he)) hs hl

theorem run_append (o : Office) (done rest : List Event) :
    o.run p (done ++ rest) = (o.run p done).run p rest := List.foldl_append

theorem run_concat (o : Office) (done : List Event) (e : Event) :
    o.run p (done ++ [e]) = e.apply p (o.run p done) := run_append o done [e]

/-- What each event preserves unless it breaks it holds all along a run exactly if no event of the
run breaks it. -/
theorem forall_prefix_iff (Inv : Office → Prop) {Breaks : Office → Event → Prop}
    (hstep : ∀ o e, o.store.WellKept → Inv o → (Inv (e.apply p o) ↔ ¬ Breaks o e))
    (hs : o.store.WellKept) (ho : Inv o) (events : List Event) :
    (∀ done, done <+: events → Inv (o.run p done)) ↔
      ∀ done e, done ++ [e] <+: events → ¬ Breaks (o.run p done) e := by
  constructor
  · intro hinv done e hprefix
    have hbefore := hinv done ((List.prefix_append done [e]).trans hprefix)
    have hafter := hinv (done ++ [e]) hprefix
    rw [run_concat] at hafter
    exact (hstep _ e (wellKept_run hs done) hbefore).mp hafter
  · intro hnone done
    induction done using List.reverseRecOn with
    | nil => exact fun _ => ho
    | append_singleton done e ih =>
      intro hprefix
      have hbefore := ih ((List.prefix_append done [e]).trans hprefix)
      rw [run_concat]
      exact (hstep _ e (wellKept_run hs done) hbefore).mpr (hnone done e hprefix)

theorem wellKept_openingWith (counts : CountTable) (clock : Clock) :
    (openingWith counts clock).store.WellKept := Store.wellKept_empty.withCounts counts

theorem finiteLedger_openingWith (counts : CountTable) (clock : Clock) :
    (openingWith counts clock).ledger.FiniteRates := fun _ _ ht => by cases ht

end Office

end Preserves

/-! ## A small event -/

/-- An event with one package, of which there are two. -/
def dayPolicy : Policy where
  packages := .ofList [("day", ⟨10000, .finite false 19 0, 2, 1⟩)]
  currency := "EUR"
  guestFlag := "guest"
  manualDuesRate := .finite false 19 0
  graceCents := 0
  dueDays := 14
  earliestDueDate := none
  latestDueDate := none
  datePattern := "%d.%m.%Y"
  publicUrl := ""
  deskPermission := "regdesk"

theorem dayPolicy_finiteRates : dayPolicy.FiniteRates :=
  ⟨rfl, by decide +kernel⟩

/-- The row of the package, with no place taken. -/
def dayCounts : CountTable := .ofList [((packageArea, "day"), ⟨packageArea, "day", 0, 0⟩)]

/-- A registration for the day. -/
def fox : Attendee where
  id := 1
  nickname := "Fox"
  email := "fox@example.org"
  zip := "12345"
  createdAt := "2024-01-01T00:00:00Z"
  identity := "101"
  language := "en-US"
  packages := .ofList [("day", 1)]
  cachedDues := 0
  cachedPayments := 0
  cachedOpen := 0
  cachedDueDate := none

/-- An administrator. -/
def clerk : Actor := ⟨"1", true, false⟩

/-- A caller without privileges. -/
def visitor (subject : String) : Actor := ⟨subject, false, false⟩

/-- The first day of a year. -/
def newYear : Clock := ⟨⟨2024, 1, 1, by decide⟩, "2024-01-01T00:00:00Z"⟩

/-- A transaction on the first account that comes from elsewhere. -/
def receipt (kind : TransactionKind) (cents : Int) (rate : Nat) : Transaction where
  debitor := 1
  kind := kind
  amount := ⟨"EUR", cents, .finite false rate 0⟩
  state := .valid
  method := .transfer
  comment := ""
  effectiveDate := none
  dueDate := none
  id := none

/-- What has some part has ended normally. -/
theorem exists_of_map_eq_ok {α β : Type} {x : Except Failure α} {f : α → β} {b : β}
    (h : x.map f = .ok b) : ∃ a, x = .ok a := by
  cases x with
  | error e => cases h
  | ok a => exact ⟨a, rfl⟩

end Registration
