import Registration.Proofs.Office.Run

/-!
# Resuming a reconciliation

A reconciliation that the ledger cuts off has appended a first part of what it planned. The plan
continues itself on the longer history (`planned_append`), so a second run with the same inputs
appends exactly the rest and comes to what one run would have come to (`reconcile_resumes`). After a
complete run nothing is left to be booked.
-/

namespace Registration

/-- The office with other outages. -/
def Office.withOutages (o : Office) (outages : Outages) : Office := { o with outages := outages }

/-- What a reconciliation came to, whatever was booked on the way. -/
def Reconciled.figures (r : Reconciled) : Attendee × Status × Bool × Balances :=
  (r.attendee, r.status, r.changed, r.balances)

/-- The answer of a reconciliation that appends all its postings to a history. -/
def Postings.answer (ps : Postings) (p : Policy) (a : Attendee) (s : Status)
    (history : List Transaction) : Except Failure Reconciled :=
  match ps.failure with
  | some e => .error e
  | none => .ok (concluded p a s (history ++ ps.transactions) ps.transactions.length)

variable {p : Policy} {a : Attendee} {info : AdminInfo} {s : Status} {override : String}
  {today : Calendar.Date} {o : Office}

theorem Postings.answer_drop (ps : Postings) (h : List Transaction) (n : ℕ) :
    ((⟨ps.transactions.drop n, ps.failure⟩ : Postings).answer p a s
        (h ++ ps.transactions.take n)).map Reconciled.figures =
      (ps.answer p a s h).map Reconciled.figures := by
  obtain ⟨ts, failure⟩ := ps
  cases failure with
  | some e => rfl
  | none =>
    simp only [Postings.answer, List.append_assoc, List.take_append_drop]
    rfl

namespace Desk

variable (p a info s override today) in
/-- While everything works, a reconciliation appends what is planned and answers accordingly. -/
theorem reconcile_of_working (hw : o.outages = .none) :
    let ps := planned p a info s override today (o.ledger.history a.id)
    o.Posted ps.transactions ((reconcile p a info s override today).after o) ∧
      (reconcile p a info s override today).answer o =
        ps.answer p a s (o.ledger.history a.id) := by
  intro ps
  have hends := ends_reconcile p a info s override today o
  cases hr : (reconcile p a info s override today).answer o with
  | ok r =>
    obtain ⟨hnone, hposted, rfl⟩ := hends.of_ok hr
    refine ⟨hposted, ?_⟩
    rw [Postings.answer, show ps.failure = none from hnone, hposted.ledger,
      Ledger.history_appendAll_self fun t => debitor_of_mem_planned]
  | error e =>
    rcases hends.of_error hr with ⟨hfail, hposted⟩ | ⟨hcut, -⟩
    · refine ⟨hposted, ?_⟩
      rw [Postings.answer, show ps.failure = some e from hfail]
    · exact absurd hw hcut.outage

/-- While everything works, a plan that can be posted and shown is carried out. -/
theorem reconcile_of_plan {plan : List Booking} (hw : o.outages = .none)
    (hplan : bookingPlan p a info s (o.ledger.history a.id) = .ok plan)
    (hcomplete : (postings p a.id (bookingComment s override) today plan).failure = none) :
    let ts := (postings p a.id (bookingComment s override) today plan).transactions
    o.Posted ts ((reconcile p a info s override today).after o) ∧
      (reconcile p a info s override today).answer o =
        .ok (concluded p a s (o.ledger.history a.id ++ ts) ts.length) := by
  have hplanned : planned p a info s override today (o.ledger.history a.id) =
      postings p a.id (bookingComment s override) today plan := by rw [planned, hplan]
  obtain ⟨hposted, hanswer⟩ := reconcile_of_working p a info s override today hw
  rw [hplanned] at hposted hanswer
  refine ⟨hposted, hanswer.trans ?_⟩
  rw [Postings.answer, hcomplete]

/-- A run that was cut off is completed by a second run. -/
theorem resumed_of_cut (hp : p.FiniteRates) (hh : Resumable s (o.ledger.history a.id)) {n : ℕ}
    (hn : (planned p a info s override today (o.ledger.history a.id)).CutAt n) {cut : Office}
    (hcut : cut.ledger = o.ledger.appendAll
      ((planned p a info s override today (o.ledger.history a.id)).transactions.take n)) :
    let work := reconcile p a info s override today
    (work.after (cut.withOutages .none)).ledger = (work.after (o.withOutages .none)).ledger ∧
      (work.answer (cut.withOutages .none)).map Reconciled.figures =
        (work.answer (o.withOutages .none)).map Reconciled.figures := by
  intro work
  set h := o.ledger.history a.id
  set ps := planned p a info s override today h
  obtain ⟨hwhole, hanswer⟩ :
      (o.withOutages .none).Posted ps.transactions _ ∧ _ = ps.answer p a s h :=
    reconcile_of_working p a info s override today rfl
  have hhist : cut.ledger.history a.id = h ++ ps.transactions.take n := by
    rw [hcut, Ledger.history_appendAll_self fun t ht =>
      debitor_of_mem_planned (List.mem_of_mem_take ht)]
  -- the second run finds the longer history and plans the rest
  have hrest : planned p a info s override today (cut.ledger.history a.id) =
      ⟨ps.transactions.drop n, ps.failure⟩ := hhist ▸ planned_append hp hh hn
  obtain ⟨hsecond, hanswer'⟩ : (cut.withOutages .none).Posted
      (planned p a info s override today (cut.ledger.history a.id)).transactions _ ∧ _ :=
    reconcile_of_working p a info s override today rfl
  rw [hrest] at hsecond
  constructor
  · calc (work.after (cut.withOutages .none)).ledger
        = cut.ledger.appendAll (ps.transactions.drop n) := hsecond.ledger
      _ = o.ledger.appendAll ps.transactions := by
        rw [hcut, ← Ledger.appendAll_append, List.take_append_drop]
      _ = (work.after (o.withOutages .none)).ledger := hwhole.ledger.symm
  · rw [hanswer, hanswer']
    change (Postings.answer (planned p a info s override today (cut.ledger.history a.id)) p a s
      (cut.ledger.history a.id)).map _ = _
    rw [hrest, hhist]
    exact ps.answer_drop h n

/-- A complete run leaves nothing to be booked. -/
theorem nothing_left (hp : p.FiniteRates) (hh : Resumable s (o.ledger.history a.id))
    {r : Reconciled} (hr : (reconcile p a info s override today).answer (o.withOutages .none) = .ok r) :
    let work := reconcile p a info s override today
    let done := work.after (o.withOutages .none)
    (work.after (done.withOutages .none)).ledger = done.ledger ∧
      work.answer (done.withOutages .none) = .ok { r with booked := 0 } := by
  intro work done
  set h := o.ledger.history a.id
  set ps := planned p a info s override today h
  obtain ⟨hwhole, hanswer⟩ :
      (o.withOutages .none).Posted ps.transactions done ∧ _ = ps.answer p a s h :=
    reconcile_of_working p a info s override today rfl
  have hnone : ps.failure = none := by
    rw [hr, Postings.answer] at hanswer
    cases hf : ps.failure with
    | none => rfl
    | some e => simp [hf] at hanswer
  have hr' : r = concluded p a s (h ++ ps.transactions) ps.transactions.length := by
    rw [hr, Postings.answer, hnone] at hanswer
    exact Except.ok.inj hanswer
  have hhist : done.ledger.history a.id = h ++ ps.transactions := by
    rw [hwhole.ledger, Ledger.history_appendAll_self fun t => debitor_of_mem_planned]
    rfl
  have hrest : planned p a info s override today (done.ledger.history a.id) = ⟨[], none⟩ := by
    have hall := planned_append hp hh (n := ps.transactions.length) (.inr (.inr ⟨rfl, hnone⟩))
    rw [List.take_length, List.drop_length] at hall
    rw [hhist, hall, hnone]
  obtain ⟨hsecond, hanswer'⟩ : (done.withOutages .none).Posted
      (planned p a info s override today (done.ledger.history a.id)).transactions _ ∧ _ :=
    reconcile_of_working p a info s override today rfl
  rw [hrest] at hsecond
  refine ⟨hsecond.ledger, ?_⟩
  rw [hanswer']
  change Postings.answer (planned p a info s override today (done.ledger.history a.id)) p a s
    (done.ledger.history a.id) = _
  rw [hrest, hhist, Postings.answer, List.append_nil, hr']
  rfl

end Desk

/-- A reconciliation that the ledger cuts off can be run again. Take any outages under which a run
ends because the ledger is unavailable, such as a quota of any number of appends: a second run on
the office it leaves behind, with the same inputs and a working ledger, makes the ledger that one
uninterrupted run makes, in the same order, and comes to the same attendee, status and balances or
to the same failure. A run that was complete books nothing when it is repeated. -/
theorem reconcile_resumes (hp : p.FiniteRates) (hfin : FiniteRates (o.ledger.history a.id))
    (hcover : s = .cancelled →
      0 ≤ paymentsOf (o.ledger.history a.id) + refundsOf (o.ledger.history a.id)) :
    let work := Desk.reconcile p a info s override today
    let whole := work.after (o.withOutages .none)
    (∀ outages detail,
      work.answer (o.withOutages outages) = .error (.ledgerUnavailable detail) →
      let cut := work.after (o.withOutages outages)
      (work.after (cut.withOutages .none)).ledger = whole.ledger ∧
        (work.answer (cut.withOutages .none)).map Reconciled.figures =
          (work.answer (o.withOutages .none)).map Reconciled.figures) ∧
    ∀ r, work.answer (o.withOutages .none) = .ok r →
      (work.after (whole.withOutages .none)).ledger = whole.ledger ∧
        work.answer (whole.withOutages .none) = .ok { r with booked := 0 } := by
  intro work whole
  have hh : Resumable s (o.ledger.history a.id) := ⟨hfin, hcover⟩
  constructor
  · intro outages detail hanswer cut
    rcases (Desk.ends_reconcile p a info s override today _).of_error hanswer with
      ⟨hfail, -⟩ | ⟨-, n, hn, hposted⟩
    · cases isUnrepresentable_of_planned hfail
    · exact Desk.resumed_of_cut hp hh hn hposted.ledger
  · intro r hr
    exact Desk.nothing_left hp hh hr

/-! ## A run that is cut off -/

/-- An office in which dues are owed at two rates. -/
def twoDuesOffice : Office :=
  { Office.opening newYear with
    ledger := (Ledger.empty.inject (receipt .due 10000 19)).inject (receipt .due 5000 7) }

/-- Taking back two dues with a quota of one append stops after the first; the second run completes
the list. -/
theorem reconcile_resumes_after_one :
    let work := Desk.reconcile dayPolicy fox (.blank 1) .waiting "" newYear.today
    let quota : Outages := { Outages.none with appendsLeft := some 1 }
    let cut := work.after (twoDuesOffice.withOutages quota)
    let whole := work.after (twoDuesOffice.withOutages .none)
    work.answer (twoDuesOffice.withOutages quota) =
        .error (.ledgerUnavailable "append quota used up") ∧
      (cut.ledger.history 1).map (·.amount.cents) = [10000, 5000, -10000] ∧
      (whole.ledger.history 1).map (·.amount.cents) = [10000, 5000, -10000, -5000] ∧
      (work.after (cut.withOutages .none)).ledger = whole.ledger := by
  intro work quota cut whole
  have hcut : work.answer (twoDuesOffice.withOutages quota) =
      .error (.ledgerUnavailable "append quota used up") := by decide +kernel
  have hfin : FiniteRates (twoDuesOffice.ledger.history fox.id) := by
    unfold FiniteRates
    decide +kernel
  exact ⟨hcut, by decide +kernel, by decide +kernel,
    ((reconcile_resumes dayPolicy_finiteRates hfin (by decide)).1 quota _ hcut).1⟩

end Registration
