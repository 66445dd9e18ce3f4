import Registration.Proofs.Office.History
import Registration.Proofs.Office.LedgerGrowth
import Registration.Proofs.Office.RecordSteps

/-!
# Whoever has paid leaves by cancelling

A registration that is new, waiting, cancelled or deleted cannot be moved on while its payments are
above zero. Each status that can be asked for is barred by a rule of its own, cancelling excepted
(`eq_cancelled_of_precondition`); edits move statuses of the payment phase only; and no request
lowers what was paid (`Event.payments_apply`). So as long as nothing comes into the ledger of the
attendee, the status stays or becomes cancelled, and stays so from then on
(`paid_leaves_by_cancelling`).
-/

namespace Registration

/-! ## What the payments bar -/

/-- If the payments add up to something, one of them is not zero. -/
theorem hasValidPayments_of_pos {h : List Transaction} (hpaid : 0 < paymentsOf h) :
    hasValidPayments h = true := by
  induction h with
  | nil => cases hpaid
  | cons t rest ih =>
    rw [hasValidPayments, List.any_cons, Bool.or_eq_true, ← hasValidPayments]
    by_cases ht : t.isValidPayment = true ∧ t.amount.cents ≠ 0
    · exact .inl (by simp [ht.1, ht.2])
    · refine .inr (ih ?_)
      have hnothing : paymentsOf (t :: rest) = paymentsOf rest := by
        unfold paymentsOf
        by_cases hvalid : t.isValidPayment = true
        · have hzero : t.amount.cents = 0 := by
            by_contra hne
            exact ht ⟨hvalid, hne⟩
          rw [List.filter_cons_of_pos hvalid, centsOf_cons, hzero, zero_add]
        · rw [List.filter_cons_of_neg hvalid]
      exact hnothing ▸ hpaid

/-- With payments above zero, the only way on from a status from which payment is reached through
approval is to cancel. -/
theorem eq_cancelled_of_precondition {p : Policy} {h : List Transaction} {old target : Status}
    (hexit : old.needsApproval = true) (hpaid : 0 < paymentsOf h)
    (hallowed : precondition p h old (.status target) = .ok ()) : target = .cancelled := by
  have hpayments : 0 < (Balances.ofHistory h).payments := hpaid
  cases target with
  | new => simp [precondition, hpayments] at hallowed
  | approved => simp [precondition, hpayments] at hallowed
  | waiting => simp [precondition, hpayments] at hallowed
  | partiallyPaid => simp [precondition, hexit] at hallowed
  | paid => simp [precondition, hexit] at hallowed
  | checkedIn => simp [precondition, hexit] at hallowed
  | deleted => simp [precondition, hasValidPayments_of_pos hpaid] at hallowed
  | cancelled => rfl

theorem Status.not_shiftsTo_of_needsApproval {s t : Status} (h : s.needsApproval = true) :
    ¬ s.ShiftsTo t := by
  intro hshifts
  have hbefore := hshifts.before
  cases s <;> simp_all [needsApproval]

/-! ## What an event does to the status and the payments -/

section Events

variable {p : Policy} {o o' : Office} {id : Int}

/-- The status after an event is the one before it or one that the rule allows. -/
theorem Store.GoesOn.statusOf {rule : Status → Status → Prop} {s s' : Store}
    (h : s.GoesOn rule s') (id : Int) :
    s'.statusOf id = s.statusOf id ∨ rule (s.statusOf id) (s'.statusOf id) := by
  rcases h id with hsame | ⟨c, hc, hrule⟩
  · refine .inl ?_
    rw [Store.statusOf, Store.statusOf, hsame]
  · refine .inr ?_
    have hnew : s'.statusOf id = c.status := by
      rw [Store.statusOf, hc, List.getLast?_concat]
      rfl
    rwa [hnew]

/-- Edits leave the status. -/
theorem Store.GoesOn.statusOf_eq {s s' : Store} (h : s.GoesOn Status.ShiftsTo s')
    (hexit : (s.statusOf id).needsApproval = true) : s'.statusOf id = s.statusOf id :=
  (h.statusOf id).resolve_right (Status.not_shiftsTo_of_needsApproval hexit)

/-- A change of status leaves the status or cancels. -/
theorem StatusEnd.statusOf {actor : Actor} {j : Int} {new : Target} {override : String}
    {answer : Except Failure Committed} (h : StatusEnd p actor o j new override answer o')
    (hs : o.store.WellKept) (hexit : (o.store.statusOf id).needsApproval = true)
    (hpaid : 0 < paymentsOf (o.ledger.history id)) :
    o'.store.statusOf id = o.store.statusOf id ∨ o'.store.statusOf id = .cancelled := by
  by_cases hid : j = id
  swap
  · exact .inl (h.sameAt hs fun heq => absurd heq hid).status
  subst hid
  cases h with
  | refused _ hposted => exact .inl (by rw [hposted.store])
  | @committed _ a target deltas _ o₁ _ hnew hstored _ _ hallowed _ hposted hcommit =>
    have hnumber : a.id = j := hs.numbered j a hstored
    rw [Store.currentStatus_eq, hnumber] at hallowed hcommit
    subst hnew
    obtain rfl := eq_cancelled_of_precondition hexit hpaid hallowed
    have hold : o.store.statusOf j = o₁.store.statusOf a.id := by rw [hposted.store, hnumber]
    have hgoes : o₁.store.GoesOn (fun _ t => t = .cancelled) o'.store :=
      hcommit.goesOn (after_recording deltas) hold fun _ _ _ => rfl
    rw [hposted.store] at hgoes
    exact hgoes.statusOf j

/-- While the payments are above zero, an event leaves a status from which payment is reached
through approval, or cancels. -/
theorem Event.statusOf_apply (hs : o.store.WellKept)
    (hexit : (o.store.statusOf id).needsApproval = true)
    (hpaid : 0 < paymentsOf (o.ledger.history id)) (e : Event) :
    (e.apply p o).store.statusOf id = o.store.statusOf id ∨
      (e.apply p o).store.statusOf id = .cancelled := by
  cases e with
  | register actor x =>
    have hnothing := ((registerEnd p o actor x).goesOn hs fun _ _ => False).2
    exact .inl ((hnothing.statusOf id).resolve_right not_false)
  | change c =>
    cases c with
    | update actor x suppress =>
      exact .inl (((updateEnd p o actor x suppress).goesOn hs).2.statusOf_eq hexit)
    | updateInfo actor i => exact .inl (((infoEnd p hs actor i).goesOn hs).2.statusOf_eq hexit)
    | changeStatus actor j new comment override suppress =>
      exact (statusEnd p hs actor j new comment override suppress).statusOf hs hexit hpaid
  | inject _ => exact .inl rfl
  | outage _ => exact .inl rfl
  | tick _ => exact .inl rfl

/-- An event leaves what was paid, unless it brings something into the ledger of the attendee. -/
theorem Event.payments_apply (hs : o.store.WellKept) {e : Event}
    (hquiet : ∀ t, e = .inject t → t.debitor ≠ id) :
    paymentsOf ((e.apply p o).ledger.history id) = paymentsOf (o.ledger.history id) := by
  cases e with
  | register actor x => exact congrArg (paymentsOf <| ·.history id) (registerEnd p o actor x).ledger
  | change c =>
    have hgains : o.Gains p c.attendeeId ((c.perform p).after o) := c.gains (hs.numbered _)
    obtain ⟨added, hadded, -, hdues, -⟩ := hgains.history id
    change paymentsOf (((c.perform p).after o).ledger.history id) = _
    rw [hadded, paymentsOf_append_dues fun t ht => (hdues t ht).isValidDue]
  | inject t =>
    change paymentsOf ((o.ledger.inject t).history id) = _
    rw [Ledger.history_inject, if_neg (hquiet t rfl)]
  | outage _ => rfl
  | tick _ => rfl

end Events

/-! ## Runs -/

/-- The registration is stored, has the given status or is cancelled, and has paid. -/
structure Office.PaidAt (o : Office) (id : Int) (s : Status) : Prop where
  stored : ∃ a, o.store.attendees.get? id = some a
  status : o.store.statusOf id = s ∨ o.store.statusOf id = .cancelled
  paid : 0 < paymentsOf (o.ledger.history id)

section Runs

variable {p : Policy} {o : Office} {id : Int} {s : Status}

theorem Event.paidAt_apply (hs : o.store.WellKept) (hexit : s.needsApproval = true)
    (h : o.PaidAt id s) {e : Event} (hquiet : ∀ t, e = .inject t → t.debitor ≠ id) :
    (e.apply p o).PaidAt id s := by
  obtain ⟨⟨a, ha⟩, hstatus, hpaid⟩ := h
  have houtside : (o.store.statusOf id).needsApproval = true := by
    rcases hstatus with hstatus | hstatus
    · rw [hstatus, hexit]
    · rw [hstatus]
      rfl
  obtain ⟨b, hb, -⟩ := (e.goesOn_apply (p := p) hs).1 id a ha
  refine ⟨⟨b, hb⟩, ?_, ?_⟩
  · rcases e.statusOf_apply (p := p) hs houtside hpaid with hsame | hcancelled
    · rwa [hsame]
    · exact .inr hcancelled
  · rwa [Event.payments_apply hs hquiet]

theorem Office.paidAt_run (hs : o.store.WellKept) (hexit : s.needsApproval = true)
    (h : o.PaidAt id s) {events : List Event} (hquiet : ∀ t, .inject t ∈ events → t.debitor ≠ id) :
    (o.run p events).PaidAt id s :=
  run_of_wellKept (fun o => o.PaidAt id s)
    (fun _ _ he hs hpaid => Event.paidAt_apply hs hexit hpaid fun t ht => hquiet t (ht ▸ he)) hs h

end Runs

/-- Take any office whose store is well kept, as it is after every run, and a registration in it
that is new, waiting, cancelled or deleted and whose valid payments add up to something above zero.
Let any events happen, requests of any callers that end in any way, outages and transactions that
come in, but none for this attendee. Then the registration is still stored, its status is what it
was or cancelled, and if it was cancelled at any moment in between, it is cancelled. -/
theorem paid_leaves_by_cancelling {p : Policy} {o : Office} (hs : o.store.WellKept) {id : Int}
    {a : Attendee} (hstored : o.store.attendees.get? id = some a)
    (hexit : o.store.currentStatus a ∈ [Status.new, .waiting, .cancelled, .deleted])
    (hpaid : 0 < paymentsOf (o.ledger.history id)) {events : List Event}
    (hquiet : ∀ t, .inject t ∈ events → t.debitor ≠ id) :
    ∃ b, (o.run p events).store.attendees.get? id = some b ∧
      ((o.run p events).store.currentStatus b = o.store.currentStatus a ∨
        (o.run p events).store.currentStatus b = .cancelled) ∧
      ∀ done c, done <+: events → (o.run p done).store.attendees.get? id = some c →
        (o.run p done).store.currentStatus c = .cancelled →
          (o.run p events).store.currentStatus b = .cancelled := by
  have hstart : o.PaidAt id (o.store.currentStatus a) := by
    refine ⟨⟨a, hstored⟩, .inl ?_, hpaid⟩
    rw [Store.currentStatus_eq, hs.numbered id a hstored]
  have houtside : (o.store.currentStatus a).needsApproval = true := by
    cases hold : o.store.currentStatus a <;> simp_all [Status.needsApproval]
  have hend := Office.paidAt_run (p := p) hs houtside hstart hquiet
  obtain ⟨b, hb⟩ := hend.stored
  have hnow : (o.run p events).store.currentStatus b = (o.run p events).store.statusOf id := by
    rw [Store.currentStatus_eq, (Office.wellKept_run hs events).numbered id b hb]
  refine ⟨b, hb, ?_, ?_⟩
  · rw [hnow]
    exact hend.status
  rintro done c ⟨rest, rfl⟩ hc hcancelled
  -- what is cancelled at some moment starts a run of its own
  have hsDone : (o.run p done).store.WellKept := Office.wellKept_run hs done
  have hbetween := Office.paidAt_run (p := p) hs houtside hstart fun t ht =>
    hquiet t (List.mem_append_left rest ht)
  rw [Store.currentStatus_eq, hsDone.numbered id c hc] at hcancelled
  have hlater := Office.paidAt_run (p := p) hsDone (s := .cancelled) rfl
    ⟨hbetween.stored, .inl hcancelled, hbetween.paid⟩ fun t ht =>
      hquiet t (List.mem_append_right done ht)
  rw [hnow, Office.run_append]
  exact or_self_iff.mp hlater.status

/-- A new registration has been paid in advance. Approving, deleting and checking it in are refused,
and an edit leaves it new; it can be cancelled, and is not let in again. -/
theorem paid_in_advance_leaves :
    let request := fun s => Event.change (.changeStatus clerk 1 (.status s) "" "" false)
    let before := [request .approved, request .deleted, request .checkedIn,
      .change (.update clerk { fox with packages := .ofList [("day", 2)] } false)]
    let after := [request .cancelled, request .approved, request .new]
    let o := (Office.openingWith dayCounts newYear).run dayPolicy
      [.register clerk fox, .inject (receipt .payment 5000 0)]
    (o.run dayPolicy before).store.statusOf 1 = .new ∧
      ∃ b, (o.run dayPolicy (before ++ after)).store.attendees.get? 1 = some b ∧
        (o.run dayPolicy (before ++ after)).store.currentStatus b = .cancelled := by
  intro request before after o
  have hs : o.store.WellKept := Office.wellKept_run (Office.wellKept_openingWith _ _) _
  have hfacts : (o.store.attendees.get? 1).map (fun a => o.store.currentStatus a) = some .new := by
    decide +kernel
  obtain ⟨a, hstored, hnew⟩ := Option.map_eq_some_iff.mp hfacts
  have hexit : o.store.currentStatus a ∈ [Status.new, .waiting, .cancelled, .deleted] := by
    rw [hnew]
    decide
  have hquiet : ∀ t, Event.inject t ∈ before ++ after → t.debitor ≠ 1 := by
    simp [before, after, request]
  have hcancelled : ((o.run dayPolicy (before ++ [request .cancelled])).store.attendees.get? 1).map
      (fun c => (o.run dayPolicy (before ++ [request .cancelled])).store.currentStatus c) =
        some .cancelled := by decide +kernel
  obtain ⟨c, hc, hgone⟩ := Option.map_eq_some_iff.mp hcancelled
  obtain ⟨b, hb, -, hstays⟩ :=
    paid_leaves_by_cancelling hs hstored hexit (by decide +kernel) hquiet
  exact ⟨by decide +kernel, b, hb,
    hstays (before ++ [request .cancelled]) c ⟨[request .approved, request .new], rfl⟩ hc hgone⟩

end Registration
