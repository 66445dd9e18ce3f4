import Registration.Proofs.Office.Run

/-!
# Histories are legal

The status that is entered is not the one that was asked for but the one that the balances imply
after the dues are booked. Still a history goes on by the rules (`Status.LeadsTo`): what was checked
on the old ledger holds on the new one as far as payments go, since dues alone are booked
(`paymentsOf_planned`). An event adds at most one entry, at the end and by the rule for such an
event (`Event.goesOn_apply`), and from this every history is legal (`history_legal_after_run`).
-/

namespace Registration

/-! ## Which status may follow -/

/-- A history may go on from a status to another one; to being checked in from the payment phase
only, and to being partially paid from the payment phase or from being checked in. -/
structure Status.LeadsTo (s t : Status) : Prop where
  differs : s ≠ t
  checkIn : t = .checkedIn → s ∈ [Status.approved, .partiallyPaid, .paid]
  part : t = .partiallyPaid → s ∈ [Status.approved, .paid, .checkedIn]

/-- What the balances alone can change: one status of the payment phase into another one. -/
structure Status.ShiftsTo (s t : Status) : Prop where
  differs : s ≠ t
  before : s ∈ [Status.approved, .partiallyPaid, .paid]
  after : t ∈ [Status.approved, .partiallyPaid, .paid]

theorem Status.ShiftsTo.leadsTo {s t : Status} (h : s.ShiftsTo t) : s.LeadsTo t where
  differs := h.differs
  checkIn _ := h.before
  part ht := by
    have hbefore := h.before
    have hdiffers := h.differs
    subst ht
    cases s <;> simp_all

/-- Only who has paid something is found to have paid a part. -/
theorem Balances.of_resultingStatus_partiallyPaid {b : Balances} {grace : Int} {s : Status}
    (h : b.resultingStatus grace s = .partiallyPaid) :
    s.isPaymentPhase = true ∧ 0 < b.payments := by
  have hphase : s.isPaymentPhase = true := by
    rw [← b.isPaymentPhase_resultingStatus grace s, h]
    rfl
  refine ⟨hphase, ?_⟩
  by_contra hnone
  rw [resultingStatus, if_pos hphase] at h
  have hpayments : b.payments ≤ 0 := by omega
  split_ifs at h

/-- The balances change nothing outside the payment phase. -/
theorem Balances.eq_of_resultingStatus_checkedIn {b : Balances} {grace : Int} {s : Status}
    (h : b.resultingStatus grace s = .checkedIn) : s = .checkedIn := by
  have hphase : s.isPaymentPhase = false := by
    rw [← b.isPaymentPhase_resultingStatus grace s, h]
    rfl
  rwa [resultingStatus_of_not_paymentPhase hphase] at h

/-- Without a change asked for, the balances shift the status or leave it. -/
theorem Balances.shiftsTo_resultingStatus {b : Balances} {grace : Int} {s : Status}
    (h : b.resultingStatus grace s ≠ s) : s.ShiftsTo (b.resultingStatus grace s) := by
  have hphase : s.isPaymentPhase = true := by
    by_contra hnot
    exact h (resultingStatus_of_not_paymentPhase (Bool.eq_false_iff.mpr hnot))
  refine ⟨h.symm, Status.isPaymentPhase_iff_mem.mp hphase, Status.isPaymentPhase_iff_mem.mp ?_⟩
  rw [b.isPaymentPhase_resultingStatus, hphase]

theorem mem_of_not_needsApproval {s : Status} (h : s.needsApproval = false) :
    s ∈ [Status.approved, .partiallyPaid, .paid, .checkedIn] := by
  cases s <;> first | decide | cases h

/-- What the payments permit leads by the rules to the status that the balances imply. The balances
may be later ones, as long as the payments are the same. -/
theorem leadsTo_of_precondition {p : Policy} {h : List Transaction} {old target : Status}
    {b : Balances} (hallowed : precondition p h old (.status target) = .ok ())
    (hdiffers : target ≠ old) (hpayments : b.payments = paymentsOf h)
    (hnew : b.resultingStatus p.graceCents target ≠ old) :
    old.LeadsTo (b.resultingStatus p.graceCents target) := by
  have hsame : (Balances.ofHistory h).payments = b.payments := hpayments.symm
  have happroved : target = .partiallyPaid ∨ target = .paid ∨ target = .checkedIn →
      old.needsApproval = false := by
    rintro (rfl | rfl | rfl) <;>
    · by_contra hneeds
      simp [precondition, Bool.eq_true_of_not_eq_false hneeds] at hallowed
  refine ⟨hnew.symm, fun hin => ?_, fun hpart => ?_⟩
  · obtain rfl := Balances.eq_of_resultingStatus_checkedIn hin
    have hmem := mem_of_not_needsApproval (happroved (.inr (.inr rfl)))
    cases old <;> simp_all
  · obtain ⟨hphase, hpaid⟩ := Balances.of_resultingStatus_partiallyPaid hpart
    have hneeds : old.needsApproval = false := by
      cases target <;> try cases hphase
      · -- who asks for approval has paid nothing
        simp [precondition, hsame, hpaid] at hallowed
      · exact happroved (.inl rfl)
      · exact happroved (.inr (.inl rfl))
    have hmem := mem_of_not_needsApproval hneeds
    rw [hpart] at hnew
    cases old <;> simp_all

/-! ## How histories go on -/

namespace Store

/-- The statuses of a number from registration on. -/
def statuses (s : Store) (id : Int) : List Status := .new :: (s.changes id).map (·.status)

theorem getLast?_statuses (s : Store) (id : Int) :
    (s.statuses id).getLast? = some (s.statusOf id) := by
  rw [statuses, List.getLast?_cons, List.getLast?_map]
  rfl

/-- Registrations stay, under their numbers and with their moments of creation. -/
def RecordsStay (s s' : Store) : Prop :=
  ∀ id a, s.attendees.get? id = some a →
    ∃ b, s'.attendees.get? id = some b ∧ registrationEntry b = registrationEntry a

/-- Every history stays, or gets one more entry at its end, whose status the rule allows after the
last one. -/
def GoesOn (rule : Status → Status → Prop) (s s' : Store) : Prop :=
  ∀ id, s'.changes id = s.changes id ∨
    ∃ c, s'.changes id = s.changes id ++ [c] ∧ rule (s.statusOf id) c.status

variable {s s' s'' : Store} {rule rule' : Status → Status → Prop}

theorem RecordsStay.refl (s : Store) : s.RecordsStay s := fun _ a ha => ⟨a, ha, rfl⟩

theorem RecordsStay.trans (h : s.RecordsStay s') (k : s'.RecordsStay s'') : s.RecordsStay s'' := by
  intro id a ha
  obtain ⟨b, hb, hentry⟩ := h id a ha
  obtain ⟨c, hc, hentry'⟩ := k id b hb
  exact ⟨c, hc, hentry'.trans hentry⟩

theorem RecordsStay.of_insert {k : Int} {b : Attendee}
    (hrecords : s'.attendees = s.attendees.insert k b)
    (hsame : ∀ a, s.attendees.get? k = some a → registrationEntry b = registrationEntry a) :
    s.RecordsStay s' := by
  intro id a ha
  rw [hrecords, Table.get?_insert]
  split_ifs with hid
  · subst hid
    exact ⟨b, rfl, hsame a ha⟩
  · exact ⟨a, ha, rfl⟩

theorem GoesOn.of_changes (h : ∀ id, s'.changes id = s.changes id) : s.GoesOn rule s' :=
  fun id => .inl (h id)

theorem GoesOn.mono (h : s.GoesOn rule s') (hrule : ∀ a b, rule a b → rule' a b) :
    s.GoesOn rule' s' := by
  intro id
  rcases h id with hsame | ⟨c, hc, hr⟩
  · exact .inl hsame
  · exact .inr ⟨c, hc, hrule _ _ hr⟩

/-- The whole history of a registration goes on as the entries do. -/
theorem history_of_goesOn (hrecords : s.RecordsStay s') (h : s.GoesOn rule s') {id : Int}
    {a : Attendee} (ha : s.attendees.get? id = some a) :
    ∃ b more, s'.attendees.get? id = some b ∧ s'.history b = s.history a ++ more ∧
      (more = [] ∨ ∃ c, more = [c] ∧ rule (s.currentStatus a) c.status) := by
  obtain ⟨b, hb, hentry⟩ := hrecords id a ha
  have hid : b.id = a.id := congrArg StatusChange.attendeeId hentry
  rcases h a.id with hsame | ⟨c, hc, hr⟩
  · refine ⟨b, [], hb, ?_, .inl rfl⟩
    rw [history, history, hentry, hid, hsame, List.append_nil]
  · refine ⟨b, [c], hb, ?_, .inr ⟨c, rfl, ?_⟩⟩
    · rw [history, history, hentry, hid, hc, List.cons_append]
    · rw [currentStatus_eq]
      exact hr

/-- Every history is legal. -/
def LegalHistories (s : Store) : Prop := ∀ id, (s.statuses id).IsChain Status.LeadsTo

theorem LegalHistories.goesOn (hs : s.LegalHistories) (h : s.GoesOn Status.LeadsTo s') :
    s'.LegalHistories := by
  intro id
  rcases h id with hsame | ⟨c, hc, hr⟩
  · rw [statuses, hsame]
    exact hs id
  · have hmore : s'.statuses id = s.statuses id ++ [c.status] := by
      rw [statuses, hc, List.map_append]
      rfl
    rw [hmore]
    refine (hs id).append (List.isChain_singleton _) fun x hx y hy => ?_
    rw [getLast?_statuses, Option.mem_some_iff] at hx
    rw [List.head?_singleton, Option.mem_some_iff] at hy
    exact hx ▸ hy ▸ hr

end Store

/-! ## What an event enters -/

section Events

variable {p : Policy} {o o' : Office}

/-- A commit enters the status that the balances imply, by any rule that this status meets. -/
theorem CommitEnd.goesOn {a : Attendee} {old target : Status} {comment override : String}
    {recorded : Desk Unit} {answer : Except Failure Committed} {rule : Status → Status → Prop}
    (h : CommitEnd p a old target comment override recorded o answer o')
    (hrec : ∀ o, ∃ t, recorded.after o = o.withCounts t) (hold : old = o.store.statusOf a.id)
    (hrule : ∀ b : Balances, b.payments = paymentsOf (o.ledger.history a.id) →
      b.resultingStatus p.graceCents target ≠ old →
        rule old (b.resultingStatus p.graceCents target)) :
    o.store.GoesOn rule o'.store := by
  rcases h.store_eq hrec with hsame | ⟨r, o₁, t, hsettles, hstore⟩
  · exact .of_changes fun id => by rw [hsame]
  intro id
  have hid := hsettles.id_eq
  have hstatus : r.status = (Balances.ofHistory (o₁.ledger.history a.id)).resultingStatus
      p.graceCents target := by rw [hsettles.result]; rfl
  have hpayments : (Balances.ofHistory (o₁.ledger.history a.id)).payments =
      paymentsOf (o.ledger.history a.id) := by
    rw [hsettles.history]
    exact paymentsOf_planned ..
  have hchanges : o'.store.changes id =
      if r.status ≠ old ∧ a.id = id then
        o.store.changes id ++ [⟨a.id, r.status, comment, o.clock.now⟩]
      else o.store.changes id := by
    rw [hstore, ← hid]
    exact (congrArg (·.changes id) hsettles.store).trans (Store.changes_settle ..)
  rw [hchanges]
  split_ifs with hnew
  · obtain ⟨hnew, rfl⟩ := hnew
    refine .inr ⟨_, rfl, ?_⟩
    rw [hstatus] at hnew
    rw [← hold]
    exact hstatus ▸ hrule _ hpayments hnew
  · exact .inl rfl

theorem CommitEnd.recordsStay {a : Attendee} {old target : Status} {comment override : String}
    {recorded : Desk Unit} {answer : Except Failure Committed}
    (h : CommitEnd p a old target comment override recorded o answer o')
    (hrec : ∀ o, ∃ t, recorded.after o = o.withCounts t)
    (hstored : o.store.attendees.get? a.id = some a) : o.store.RecordsStay o'.store := by
  rcases h.store_eq hrec with hsame | ⟨r, o₁, t, hsettles, hstore⟩
  · exact hsame ▸ .refl _
  · have hrecord : r.attendee.id = a.id ∧
        Store.registrationEntry r.attendee = Store.registrationEntry a := by
      rw [hsettles.result]
      exact ⟨rfl, rfl⟩
    refine .of_insert (k := a.id) (b := r.attendee) ?_ fun b hb => ?_
    · rw [hstore, hsettles.store, ← hrecord.1]
      exact Store.attendees_settle ..
    · rw [← Option.some.inj (hstored.symm.trans hb)]
      exact hrecord.2

/-- Edits shift statuses. -/
theorem CommitEnd.shifts {a : Attendee} {old : Status} {comment override : String}
    {answer : Except Failure Committed}
    (h : CommitEnd p a old old comment override (pure ()) o answer o')
    (hold : old = o.store.statusOf a.id) : o.store.GoesOn Status.ShiftsTo o'.store :=
  h.goesOn after_pure hold fun _ _ => Balances.shiftsTo_resultingStatus

theorem UpdateEnd.goesOn {a : Attendee} {answer : Except Failure Committed}
    (h : UpdateEnd p o a answer o') (hs : o.store.WellKept) :
    o.store.RecordsStay o'.store ∧ o.store.GoesOn Status.ShiftsTo o'.store := by
  have hput : ∀ {stored : Attendee} {t : CountTable}, o.store.attendees.get? a.id = some stored →
      o.store.RecordsStay (o.withRecord (Desk.editedRecord stored a) t).store := by
    intro stored t hstored
    refine .of_insert (k := (Desk.editedRecord stored a).id) rfl fun b hb => ?_
    rw [Desk.id_editedRecord] at hb
    obtain rfl := Option.some.inj (hstored.symm.trans hb)
    rw [Store.registrationEntry, Desk.id_editedRecord, ← hs.numbered _ _ hb]
    rfl
  cases h with
  | refused _ hkept => exact hkept.store ▸ ⟨.refl _, .of_changes fun _ => rfl⟩
  | unrecorded _ hstored _ _ _ =>
    exact ⟨hput hstored, .of_changes fun id => Office.changes_withRecord ..⟩
  | @committed _ stored deltas _ _ hstored _ _ hcommit =>
    refine ⟨(hput hstored).trans (hcommit.recordsStay after_pure (Table.get?_insert_self ..)), ?_⟩
    exact hcommit.shifts (currentStatus_withRecord hs hstored _)

theorem InfoEnd.goesOn {i : AdminInfo} {answer : Except Failure Committed}
    (h : InfoEnd p o i answer o') (hs : o.store.WellKept) :
    o.store.RecordsStay o'.store ∧ o.store.GoesOn Status.ShiftsTo o'.store := by
  cases h with
  | unknown _ => exact ⟨.refl _, .of_changes fun _ => rfl⟩
  | @committed _ a _ _ hstored hcommit =>
    rw [← hs.numbered _ a hstored] at hstored
    exact ⟨hcommit.recordsStay after_pure hstored, hcommit.shifts (Store.currentStatus_eq _ a)⟩

theorem StatusEnd.goesOn {actor : Actor} {id : Int} {new : Target} {override : String}
    {answer : Except Failure Committed} (h : StatusEnd p actor o id new override answer o')
    (hs : o.store.WellKept) :
    o.store.RecordsStay o'.store ∧ o.store.GoesOn Status.LeadsTo o'.store := by
  cases h with
  | refused _ hposted => exact hposted.store ▸ ⟨.refl _, .of_changes fun _ => rfl⟩
  | @committed _ a target deltas _ o₁ _ hnew hstored _ hdiffers hallowed _ hposted hcommit =>
    rw [← hs.numbered _ a hstored] at hstored
    subst hnew
    rw [← hposted.store] at hstored hdiffers hallowed hcommit ⊢
    have hledger : o.ledger = o₁.ledger := hposted.ledger.symm
    refine ⟨hcommit.recordsStay (after_recording deltas) hstored, ?_⟩
    refine hcommit.goesOn (after_recording deltas) (Store.currentStatus_eq _ a) ?_
    intro b hb hresult
    rw [← hledger] at hb
    exact leadsTo_of_precondition hallowed hdiffers hb hresult

theorem RegisterEnd.goesOn {actor : Actor} {a : Attendee} (h : RegisterEnd p actor o a o')
    (hs : o.store.WellKept) (rule : Status → Status → Prop) :
    o.store.RecordsStay o'.store ∧ o.store.GoesOn rule o'.store := by
  cases h with
  | refused hkept => exact hkept.store ▸ ⟨.refl _, .of_changes fun _ => rfl⟩
  | added _ _ _ =>
    refine ⟨.of_insert (k := o.store.nextId) rfl fun b hb => ?_, .of_changes fun _ => rfl⟩
    have := hs.given _ _ hb
    omega

/-- The rule by which an event may add to a history: a change of status that is asked for leads by
the rules, edits shift, and nothing else enters a status. -/
def Event.rule : Event → Status → Status → Prop
  | .change (.changeStatus ..) => Status.LeadsTo
  | .change (.update ..) | .change (.updateInfo ..) => Status.ShiftsTo
  | .register .. | .inject _ | .outage _ | .tick _ => fun _ _ => False

theorem Event.leadsTo_of_rule {e : Event} {s t : Status} (h : e.rule s t) : s.LeadsTo t := by
  cases e with
  | change c =>
    cases c with
    | changeStatus actor id new comment override suppress => exact h
    | update actor a suppress => exact Status.ShiftsTo.leadsTo h
    | updateInfo actor i => exact Status.ShiftsTo.leadsTo h
  | register _ _ => exact h.elim
  | inject _ => exact h.elim
  | outage _ => exact h.elim
  | tick _ => exact h.elim

/-- An event keeps the registrations, and their histories go on by its rule. -/
theorem Event.goesOn_apply (hs : o.store.WellKept) (e : Event) :
    o.store.RecordsStay (e.apply p o).store ∧ o.store.GoesOn e.rule (e.apply p o).store := by
  cases e with
  | register actor a => exact (registerEnd p o actor a).goesOn hs _
  | change c =>
    cases c with
    | update actor a suppress => exact (updateEnd p o actor a suppress).goesOn hs
    | updateInfo actor i => exact (infoEnd p hs actor i).goesOn hs
    | changeStatus actor id new comment override suppress =>
      exact (statusEnd p hs actor id new comment override suppress).goesOn hs
  | inject _ => exact ⟨.refl _, .of_changes fun _ => rfl⟩
  | outage _ => exact ⟨.refl _, .of_changes fun _ => rfl⟩
  | tick _ => exact ⟨.refl _, .of_changes fun _ => rfl⟩

/-! ## Runs -/

/-- Legal histories stay legal along every run. -/
theorem legalHistories_run (hs : o.store.WellKept) (hlegal : o.store.LegalHistories)
    (events : List Event) : (o.run p events).store.LegalHistories :=
  Office.run_of_wellKept (fun o => o.store.LegalHistories)
    (fun _ e _ hs hlegal =>
      hlegal.goesOn ((e.goesOn_apply hs).2.mono fun _ _ => e.leadsTo_of_rule)) hs hlegal

theorem legalHistories_openingWith (counts : CountTable) (clock : Clock) :
    (Office.openingWith counts clock).store.LegalHistories := fun _ => List.isChain_singleton _

/-- Take any office that a run of events leads to, from one without registrations, with requests
that end in any way, any outages and any transactions that come in. The history of every
registration starts as new, each status in it leads by the rules to the next one, and the
registration is noted as deleted exactly if the last one says so. Whatever happens next, the
registration stays and its history goes on at its end by at most one entry: after an edit of the
record or of the information about it only from one status of the payment phase to another one, and
after a request for a change of status by the rules. -/
theorem history_legal_after_run {counts : CountTable} {clock : Clock} {events : List Event}
    {id : Int} {a : Attendee}
    (hstored : ((Office.openingWith counts clock).run p events).store.attendees.get? id = some a) :
    let o := (Office.openingWith counts clock).run p events
    let statuses := (o.store.history a).map (·.status)
    statuses.head? = some .new ∧ statuses.IsChain Status.LeadsTo ∧
      (o.store.isDeleted id = true ↔ statuses.getLast? = some .deleted) ∧
      ∀ e : Event, ∃ b more, (e.apply p o).store.attendees.get? id = some b ∧
        (e.apply p o).store.history b = o.store.history a ++ more ∧
        (more = [] ∨ ∃ c, more = [c] ∧ e.rule (o.store.currentStatus a) c.status) := by
  intro o statuses
  have hopen := Office.wellKept_openingWith counts clock
  have hs : o.store.WellKept := Office.wellKept_run hopen events
  have hid : a.id = id := hs.numbered id a hstored
  have hlegal : o.store.LegalHistories :=
    legalHistories_run hopen (legalHistories_openingWith counts clock) events
  refine ⟨rfl, hlegal a.id, ?_, fun e => ?_⟩
  · rw [hs.noted, show statuses = o.store.statuses a.id from rfl, Store.getLast?_statuses, hid,
      Option.some_inj]
  · obtain ⟨hrecords, hgoes⟩ := e.goesOn_apply (p := p) hs
    exact Store.history_of_goesOn hrecords hgoes hstored

/-- Who is approved, pays and is checked in has such a history, and it goes on when the attendee
cancels. -/
theorem history_legal_after_checkIn :
    let o := (Office.openingWith dayCounts newYear).run dayPolicy
      [.register clerk fox, .change (.changeStatus clerk 1 (.status .approved) "" "" false),
        .inject (receipt .payment 10000 0),
        .change (.changeStatus clerk 1 (.status .checkedIn) "" "" false)]
    let e := Event.change (.changeStatus clerk 1 (.status .cancelled) "" "" false)
    ∃ a, o.store.attendees.get? 1 = some a ∧
      (o.store.history a).map (·.status) = [.new, .approved, .checkedIn] ∧
      [Status.new, .approved, .checkedIn].IsChain Status.LeadsTo ∧
      ∃ b more, (e.apply dayPolicy o).store.attendees.get? 1 = some b ∧
        (e.apply dayPolicy o).store.history b = o.store.history a ++ more := by
  intro o e
  have hstatuses : (o.store.attendees.get? 1).map (fun a => (o.store.history a).map (·.status)) =
      some [.new, .approved, .checkedIn] := by decide +kernel
  obtain ⟨a, hstored, ha⟩ := Option.map_eq_some_iff.mp hstatuses
  obtain ⟨-, hchain, -, hnext⟩ := history_legal_after_run hstored
  obtain ⟨b, more, hb, hmore, -⟩ := hnext e
  exact ⟨a, hstored, ha, ha ▸ hchain, b, more, hb, hmore⟩

end Events

end Registration
