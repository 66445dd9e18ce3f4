import Registration.Proofs.Office.Run

/-!
# Records, ledger and status agree

After a change was carried out, the three places that tell about a registration agree
(`Consistent`): the figures of the record are those of the ledger, the dues in the ledger are those
that the status asks for, and a status of the payment phase is the one that the balances imply. This
holds for every change that ends normally, and for one whose mail alone failed, from every office
that a run can lead to (`consistent_after_change`).
-/

namespace Registration

open Number (Decimal)

/-- What the office keeps about an attendee agrees. -/
structure Consistent (p : Policy) (o : Office) (id : Int) (a : Attendee) : Prop where
  stored : o.store.attendees.get? id = some a
  dues : a.cachedDues = (Balances.ofHistory (o.ledger.history id)).dues
  payments : a.cachedPayments = (Balances.ofHistory (o.ledger.history id)).payments
  openPayments : a.cachedOpen = (Balances.ofHistory (o.ledger.history id)).openPayments
  /-- Who attends owes the price of what was chosen, at each rate. -/
  owed : (o.store.currentStatus a).isAttending = true →
    ∃ buckets desired, Buckets.ofHistory (o.ledger.history id) = .ok buckets ∧
      desiredDues p a (o.store.info id) = .ok desired ∧
      ∀ key, buckets.cents key = desired.cents key
  /-- Who is not yet or no longer registered owes nothing, at no rate. -/
  nothing : o.store.currentStatus a ∈ [Status.new, .waiting, .deleted] →
    ∃ buckets, Buckets.ofHistory (o.ledger.history id) = .ok buckets ∧ ∀ key, buckets.cents key = 0
  /-- A status of the payment phase is the one that the balances imply. -/
  implied : (o.store.currentStatus a).isPaymentPhase = true →
    o.store.currentStatus a = (Balances.ofHistory (o.ledger.history id)).resultingStatus
      p.graceCents (o.store.currentStatus a)

/-- The change was carried out: it ended normally, or its mail alone failed. -/
def CarriedOut (answer : Except Failure Committed) : Prop :=
  (∃ c, answer = .ok c) ∨ ∃ detail, answer = .error (.mailUnavailable detail)

theorem not_carriedOut {e : Failure} (h : ∀ detail, e ≠ .mailUnavailable detail) :
    ¬ CarriedOut (.error e) := by
  rintro (⟨c, hc⟩ | ⟨detail, hd⟩)
  · cases hc
  · exact h detail (Except.error.inj hd)

/-! ## Statuses that settle alike -/

theorem Balances.settlement_resultingStatus (b : Balances) (grace : Int) (s : Status) :
    (b.resultingStatus grace s).settlement = s.settlement := by
  refine apply_resultingStatus (fun s t hs ht => ?_) b grace s
  cases s <;> cases hs <;> cases t <;> cases ht <;> rfl

theorem Balances.resultingStatus_congr (b : Balances) (grace : Int) {s t : Status}
    (hs : s.isPaymentPhase = true) (ht : t.isPaymentPhase = true) :
    b.resultingStatus grace s = b.resultingStatus grace t := by
  simp [resultingStatus, hs, ht]

theorem settlement_of_isAttending {s : Status} (h : s.isAttending = true) :
    s.settlement = .adjust := by
  cases s <;> first | rfl | cases h

/-- The dues that are desired do not depend on the figures and marks of a record. -/
theorem desiredDues_refresh (p : Policy) (a : Attendee) (info : AdminInfo) (b : Balances)
    (s : Status) : desiredDues p (a.refresh b s) info = desiredDues p a info := by
  unfold desiredDues heldPackages Attendee.refresh
  rfl

/-! ## After a commit -/

section Commit

variable {p : Policy} {a : Attendee} {old target : Status} {comment override : String}
  {recorded : Desk Unit} {o o₁ : Office} {r : Reconciled}

/-- When all that was planned is booked, the dues are settled. -/
theorem settled_of_complete (hp : p.FiniteRates) {info : AdminInfo} {today : Calendar.Date}
    {h : List Transaction} (hfin : FiniteRates h)
    (hcomplete : (planned p a info target override today h).failure = none) :
    Settled p a info target (h ++ (planned p a info target override today h).transactions) := by
  by_cases hcancel : target = .cancelled
  · rw [hcancel]
    trivial
  cases hplan : bookingPlan p a info target h with
  | error e => simp [planned, hplan] at hcomplete
  | ok plan =>
    have hps : planned p a info target override today h =
        postings p a.id (bookingComment target override) today plan := by rw [planned, hplan]
    rw [hps] at hcomplete ⊢
    rw [← List.append_nil plan] at hplan
    obtain ⟨hh, hnil⟩ := bookingPlan_append hp (forall₂_postings hcomplete)
      ⟨hfin, fun h => absurd h hcancel⟩ hplan
    exact settled_of_bookingPlan_nil hp hh.finite hnil

/-- Carrying out a change makes record, ledger and status agree. -/
theorem Office.Settles.consistent (hsettles : o.Settles p a old target comment override r o₁)
    (hp : p.FiniteRates) (hl : o.ledger.FiniteRates) (hold : old = o.store.statusOf a.id) :
    Consistent p o₁ a.id r.attendee := by
  have hr := hsettles.result
  set h := o₁.ledger.history a.id with hh
  have hid := hsettles.id_eq
  have hrecord : r.attendee = a.refresh (Balances.ofHistory h) target := by rw [hr]; rfl
  have hstatus : r.status = (Balances.ofHistory h).resultingStatus p.graceCents target := by
    rw [hr]
    rfl
  have hcurrent : o₁.store.currentStatus r.attendee = r.status := by
    rw [Store.currentStatus_eq, hsettles.store, Store.statusOf_settle (hid ▸ hold), if_pos rfl]
  have hinfo : o₁.store.info a.id = o.store.info a.id := by
    rw [hsettles.store, Store.info, Store.infos_settle]
    rfl
  have hsettled : Settled p a (o.store.info a.id) target h := by
    rw [hh, hsettles.history]
    exact settled_of_complete hp (hl a.id) hsettles.complete
  have hsame : r.status.settlement = target.settlement := by
    rw [hstatus, Balances.settlement_resultingStatus]
  refine ⟨?_, by rw [hrecord]; rfl, by rw [hrecord]; rfl, by rw [hrecord]; rfl, ?_, ?_, ?_⟩
  · rw [hsettles.store, Store.attendees_settle, hid, Table.get?_insert_self]
  · intro hattending
    rw [hcurrent] at hattending
    rw [Settled, ← hsame, settlement_of_isAttending hattending] at hsettled
    obtain ⟨buckets, desired, hbuckets, hdesired, hcents⟩ := hsettled
    refine ⟨buckets, desired, hbuckets, ?_, hcents⟩
    rw [hinfo, hrecord, desiredDues_refresh, hdesired]
  · intro hout
    rw [hcurrent] at hout
    rw [Settled, ← hsame, (settlement_eq_compensate_iff _).mpr hout] at hsettled
    exact hsettled
  · intro hphase
    rw [hcurrent] at hphase ⊢
    have htarget : target.isPaymentPhase = true := by
      rw [hstatus, Balances.isPaymentPhase_resultingStatus] at hphase
      exact hphase
    rw [Balances.resultingStatus_congr _ _ hphase htarget]
    exact hstatus

/-- Counts, mails and the clock have no part in it. -/
theorem Consistent.of_counts {o' : Office} {id : Int} {t : CountTable} (h : Consistent p o id a)
    (hstore : o'.store = { o.store with counts := t }) (hledger : o'.ledger = o.ledger) :
    Consistent p o' id a := by
  obtain ⟨store, ledger, _, _, _, _⟩ := o'
  subst hstore hledger
  exact ⟨h.stored, h.dues, h.payments, h.openPayments, h.owed, h.nothing, h.implied⟩

/-- A commit that was carried out makes record, ledger and status agree. -/
theorem CommitEnd.consistent {answer : Except Failure Committed} {o' : Office}
    (h : CommitEnd p a old target comment override recorded o answer o')
    (hrec : ∀ o, ∃ t, recorded.after o = o.withCounts t)
    (hmail : ∀ o e, recorded.answer o = .error e → ∀ detail, e ≠ .mailUnavailable detail)
    (hdone : CarriedOut answer) (hp : p.FiniteRates) (hl : o.ledger.FiniteRates)
    (hold : old = o.store.statusOf a.id) : ∃ b, Consistent p o' a.id b := by
  cases h with
  | refused hnot _ => exact absurd hdone (not_carriedOut hnot)
  | @unrecorded _ o₁ _ _ _ hrecorded => exact absurd hdone (not_carriedOut (hmail o₁ _ hrecorded))
  | @changed r o₁ _ _ hsettles _ _ hkept =>
    obtain ⟨t, ht⟩ := hrec o₁
    refine ⟨_, (hsettles.consistent hp hl hold).of_counts (t := t) ?_ ?_⟩
    · rw [hkept.store, ht]
      rfl
    · rw [hkept.ledger, ht]
      rfl
  | @unchanged r o₁ _ _ hsettles _ hkept =>
    exact ⟨_, (hsettles.consistent hp hl hold).of_counts (t := o₁.store.counts) hkept.store
      hkept.ledger⟩

end Commit

/-! ## After every change -/

section Change

variable {p : Policy} {o : Office}

theorem not_mail_of_pure (o : Office) (e : Failure) (h : (pure () : Desk Unit).answer o = .error e)
    (detail : String) : e ≠ .mailUnavailable detail := by cases h

theorem not_mail_of_recording (ds : List CountDelta) (o : Office) (e : Failure)
    (h : (recording ds).answer o = .error e) (detail : String) : e ≠ .mailUnavailable detail := by
  have hends : (recording ds).Ends o (fun _ _ => True)
      fun e _ => ∀ detail, e ≠ .mailUnavailable detail := by
    refine Desk.ends_bind (Desk.ends_recordAll.mono (fun _ _ _ => Desk.ends_pure trivial) ?_)
    rintro e o' ⟨-, ⟨area, name, rfl⟩, -⟩ detail
    exact Failure.noConfusion
  exact hends.of_error h detail

theorem UpdateEnd.consistent {a : Attendee} {answer : Except Failure Committed} {o' : Office}
    (h : UpdateEnd p o a answer o') (hp : p.FiniteRates) (hs : o.store.WellKept)
    (hl : o.ledger.FiniteRates) (hdone : CarriedOut answer) : ∃ b, Consistent p o' a.id b := by
  cases h with
  | refused hnot _ => exact absurd hdone (not_carriedOut hnot)
  | unrecorded hnot _ _ _ _ => exact absurd hdone (not_carriedOut hnot)
  | @committed _ stored _ _ _ hstored _ _ hcommit =>
    have hb := hcommit.consistent after_pure not_mail_of_pure hdone hp hl
      (currentStatus_withRecord hs hstored _)
    rwa [Desk.id_editedRecord] at hb

theorem InfoEnd.consistent {i : AdminInfo} {answer : Except Failure Committed} {o' : Office}
    (h : InfoEnd p o i answer o') (hp : p.FiniteRates) (hs : o.store.WellKept)
    (hl : o.ledger.FiniteRates) (hdone : CarriedOut answer) :
    ∃ b, Consistent p o' i.attendeeId b := by
  cases h with
  | unknown _ => exact absurd hdone (not_carriedOut fun _ => Failure.noConfusion)
  | @committed _ a _ _ hstored hcommit =>
    rw [← hs.numbered _ a hstored]
    exact hcommit.consistent after_pure not_mail_of_pure hdone hp hl (Store.currentStatus_eq _ a)

theorem StatusEnd.consistent {actor : Actor} {id : Int} {new : Target} {override : String}
    {answer : Except Failure Committed} {o' : Office}
    (h : StatusEnd p actor o id new override answer o') (hp : p.FiniteRates)
    (hs : o.store.WellKept) (hl : o.ledger.FiniteRates) (hdone : CarriedOut answer) :
    ∃ b, Consistent p o' id b := by
  cases h with
  | refused hnot _ => exact absurd hdone (not_carriedOut hnot)
  | @committed _ a _ deltas _ o₁ _ _ hstored _ _ _ _ hposted hcommit =>
    rw [← hs.numbered _ a hstored]
    refine hcommit.consistent (after_recording deltas) (not_mail_of_recording deltas) hdone hp ?_ ?_
    · rw [hposted.ledger]
      exact hl
    · rw [hposted.store]
      exact Store.currentStatus_eq _ a

end Change

/-- Take any office that a run of events leads to, from one without registrations, with any requests
that end in any way, any outages and any transactions that come in at finite rates. After every
further change that is carried out, the figures of the attendee's record are those of the ledger;
the dues at each rate are those of what was chosen if the attendee attends, and zero if not; and a
status of the payment phase is the one that the balances imply. -/
theorem consistent_after_change {p : Policy} (hp : p.FiniteRates) (counts : CountTable)
    (clock : Clock) {events : List Event} (hevents : ∀ e ∈ events, e.HasFiniteRate) (c : Change)
    (hdone : CarriedOut ((c.perform p).answer ((Office.openingWith counts clock).run p events))) :
    ∃ a, Consistent p ((c.perform p).after ((Office.openingWith counts clock).run p events))
      c.attendeeId a := by
  have hopen := Office.wellKept_openingWith counts clock
  have hs := Office.wellKept_run hopen (p := p) events
  have hl := Office.finiteLedger_run hp hopen (Office.finiteLedger_openingWith counts clock) hevents
  cases c with
  | update actor a suppress => exact (updateEnd p _ actor a suppress).consistent hp hs hl hdone
  | updateInfo actor i => exact (infoEnd p hs actor i).consistent hp hs hl hdone
  | changeStatus actor id new comment override suppress =>
    exact (statusEnd p hs actor id new comment override suppress).consistent hp hs hl hdone

/-- A registration that was approved and then paid for. -/
def paidEvents : List Event :=
  [.register clerk fox, .change (.changeStatus clerk 1 (.status .approved) "" "" false),
    .inject (receipt .payment 10000 0)]

/-- An edit after the payment is carried out and finds the registration paid. -/
theorem consistent_after_payment :
    let o := (Office.openingWith dayCounts newYear).run dayPolicy paidEvents
    let change := Change.update clerk fox false
    (((change.perform dayPolicy).answer o).map (·.status) = .ok .paid) ∧
      ∃ a, Consistent dayPolicy ((change.perform dayPolicy).after o) 1 a := by
  intro o change
  have hpaid : ((change.perform dayPolicy).answer o).map (·.status) = .ok .paid := by decide +kernel
  have hdone : CarriedOut ((change.perform dayPolicy).answer o) := by
    cases h : (change.perform dayPolicy).answer o with
    | ok c => exact .inl ⟨c, rfl⟩
    | error e => simp [h, Except.map] at hpaid
  have hevents : ∀ e ∈ paidEvents, e.HasFiniteRate := by
    simp [paidEvents, Event.HasFiniteRate, receipt, Decimal.isFinite]
  exact ⟨hpaid,
    consistent_after_change dayPolicy_finiteRates dayCounts newYear hevents change hdone⟩

end Registration
