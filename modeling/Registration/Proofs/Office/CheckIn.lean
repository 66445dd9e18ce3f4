import Registration.Proofs.Dues.Totals
import Registration.Proofs.Office.Run

/-!
# What is owed at check-in

Checking in asks for payments that cover the dues on the ledger as it is. The dues are then brought
in line with what the attendee has chosen, and being checked in is not reconsidered afterwards. So
the payments cover the dues after the check-in exactly if they cover what is asked for
(`checkIn_covered_iff`). If the dues on the ledger are not up to date, because their booking had
failed before, somebody is checked in who owes (`not_covered_after_lost_booking`).
-/

namespace Registration

/-! ## What a plan makes of the dues -/

/-- When all that was planned for a status that adjusts dues is booked, the dues are what is asked
for. -/
theorem duesOf_planned {p : Policy} {a : Attendee} {info : AdminInfo} {s : Status}
    {override : String} {today : Calendar.Date} {h : List Transaction} (hs : s.settlement = .adjust)
    (hcomplete : (planned p a info s override today h).failure = none) :
    ∃ desired, desiredDues p a info = .ok desired ∧
      duesOf (h ++ (planned p a info s override today h).transactions) = desired.total := by
  cases hplan : bookingPlan p a info s h with
  | error e => simp [planned, hplan] at hcomplete
  | ok plan =>
    have hps : planned p a info s override today h =
        postings p a.id (bookingComment s override) today plan := by rw [planned, hplan]
    rw [hps] at hcomplete ⊢
    rw [bookingPlan_eq_ok_iff, hs] at hplan
    obtain ⟨current, hcurrent, desired, hdesired, hadjustment⟩ := hplan
    refine ⟨desired, hdesired, ?_⟩
    have hbooked := duesOf_of_posted (forall₂_postings hcomplete)
    have hsum := Buckets.sum_adjustment (Buckets.distinct_ofHistory hcurrent)
      (Buckets.distinct_desiredDues hdesired) hadjustment
    have hbefore := Buckets.total_ofHistory hcurrent
    rw [duesOf_append]
    omega

/-! ## Requests that end normally -/

section Changes

variable {p : Policy} {o o' : Office} {c : Committed}

/-- A commit that ends normally has booked all that was planned. -/
theorem CommitEnd.complete_of_ok {a : Attendee} {old target : Status} {comment override : String}
    {recorded : Desk Unit} (h : CommitEnd p a old target comment override recorded o (.ok c) o')
    (hrec : ∀ o, ∃ t, recorded.after o = o.withCounts t) :
    (o.plannedFor p a target override).failure = none ∧
      o'.ledger.history a.id =
        o.ledger.history a.id ++ (o.plannedFor p a target override).transactions := by
  cases h with
  | @changed r o₁ _ _ hsettles _ _ hkept =>
    obtain ⟨t, ht⟩ := hrec o₁
    refine ⟨hsettles.complete, ?_⟩
    rw [hkept.ledger, ht]
    exact hsettles.history
  | unchanged hsettles _ hkept =>
    refine ⟨hsettles.complete, ?_⟩
    rw [hkept.ledger]
    exact hsettles.history

theorem covered_of_precondition {h : List Transaction} {old : Status}
    (hallowed : precondition p h old (.status .checkedIn) = .ok ()) : duesOf h ≤ paymentsOf h := by
  unfold precondition at hallowed
  dsimp only at hallowed
  split_ifs at hallowed with _ hshort
  exact not_lt.mp hshort

/-- A check-in that ends normally found the dues covered, left the payments, and has brought the
dues to what is asked for. -/
theorem StatusEnd.checkedIn {actor : Actor} {id : Int} {override : String}
    (h : StatusEnd p actor o id (.status .checkedIn) override (.ok c) o') (hs : o.store.WellKept) :
    duesOf (o.ledger.history id) ≤ paymentsOf (o.ledger.history id) ∧
      paymentsOf (o'.ledger.history id) = paymentsOf (o.ledger.history id) ∧
      ∃ a desired, o.store.attendees.get? id = some a ∧
        desiredDues p a (o.store.info id) = .ok desired ∧
        duesOf (o'.ledger.history id) = desired.total := by
  cases h with
  | @committed _ a target deltas _ o₁ _ hnew hstored _ _ hallowed _ hposted hcommit =>
    obtain rfl := Target.status.inj hnew
    have hid := hs.numbered id a hstored
    subst hid
    obtain ⟨hcomplete, hhistory⟩ := hcommit.complete_of_ok (after_recording deltas)
    -- what was checked before the commit has changed neither the store nor the ledger
    have hledger : o₁.ledger.history a.id = o.ledger.history a.id := by rw [hposted.ledger]; rfl
    obtain ⟨desired, hdesired, hdues⟩ := duesOf_planned rfl hcomplete
    rw [hposted.store] at hdesired
    refine ⟨covered_of_precondition hallowed, ?_, a, desired, hstored, hdesired, ?_⟩
    · rw [hhistory, ← hledger]
      exact paymentsOf_planned ..
    · rw [hhistory]
      exact hdues

end Changes

/-- Take any office that a run of events leads to, from one without registrations, with requests
that end in any way, any outages and any transactions that come in, and any check-in there that ends
normally. It found the payments to cover the dues, with no tolerance. It leaves the payments and
brings the dues to the total that the record and the information about it ask for. So afterwards the
payments cover the dues exactly if they cover that total, and always if the dues amounted to it
before. -/
theorem checkIn_covered_iff {p : Policy} {counts : CountTable} {clock : Clock} {events : List Event}
    {actor : Actor} {id : Int} {comment override : String} {suppress : Bool} {c : Committed}
    (hok : (Desk.changeStatus p actor id (.status .checkedIn) comment override suppress).answer
      ((Office.openingWith counts clock).run p events) = .ok c) :
    let o := (Office.openingWith counts clock).run p events
    let o' := (Desk.changeStatus p actor id (.status .checkedIn) comment override suppress).after o
    let before := Balances.ofHistory (o.ledger.history id)
    let after := Balances.ofHistory (o'.ledger.history id)
    before.dues ≤ before.payments ∧ after.payments = before.payments ∧
      ∃ a desired, o.store.attendees.get? id = some a ∧
        desiredDues p a (o.store.info id) = .ok desired ∧ after.dues = desired.total ∧
        (after.dues ≤ after.payments ↔ desired.total ≤ before.payments) ∧
        (desired.total ≤ before.dues → after.dues ≤ after.payments) := by
  intro o o' before after
  have hopen := Office.wellKept_openingWith counts clock
  have hs : o.store.WellKept := Office.wellKept_run hopen events
  have hend := statusEnd p hs actor id (.status .checkedIn) comment override suppress
  rw [hok] at hend
  obtain ⟨hcovered, hpayments, a, desired, hstored, hdesired, hdues⟩ := hend.checkedIn hs
  replace hcovered : before.dues ≤ before.payments := hcovered
  replace hpayments : after.payments = before.payments := hpayments
  replace hdues : after.dues = desired.total := hdues
  refine ⟨hcovered, hpayments, a, desired, hstored, hdesired, hdues, ?_, fun hup => ?_⟩
  · rw [hdues, hpayments]
  · omega

/-- Who was approved and has paid for the day is checked in and owes nothing more. -/
theorem checkIn_covered_after_payment :
    let o := (Office.openingWith dayCounts newYear).run dayPolicy
      [.register clerk fox, .change (.changeStatus clerk 1 (.status .approved) "" "" false),
        .inject (receipt .payment 10000 0)]
    let work := Desk.changeStatus dayPolicy clerk 1 (.status .checkedIn) "" "" false
    let history := (work.after o).ledger.history 1
    (∃ c, work.answer o = .ok c) ∧ duesOf history ≤ paymentsOf history := by
  intro o work history
  have hdone : (work.answer o).map (·.status) = .ok .checkedIn := by decide +kernel
  cases h : work.answer o with
  | error e => simp [h, Except.map] at hdone
  | ok c =>
    have hall : ((o.store.attendees.get? 1).map fun a =>
        (desiredDues dayPolicy a (o.store.info 1)).map (·.total)) = some (.ok 10000) := by
      decide +kernel
    have hpaid : paymentsOf (o.ledger.history 1) = 10000 := by decide +kernel
    obtain ⟨-, -, a, desired, hstored, hdesired, -, hiff, -⟩ := checkIn_covered_iff h
    replace hstored : o.store.attendees.get? 1 = some a := hstored
    replace hdesired : desiredDues dayPolicy a (o.store.info 1) = .ok desired := hdesired
    have htotal : desired.total = 10000 := by
      rw [hstored, Option.map_some, hdesired] at hall
      exact Except.ok.inj (Option.some.inj hall)
    refine ⟨⟨c, rfl⟩, hiff.mpr ?_⟩
    change desired.total ≤ paymentsOf (o.ledger.history 1)
    omega

/-- A fee that was noted while its booking failed is booked by the check-in itself: the attendee is
checked in and owes the fee. -/
theorem not_covered_after_lost_booking :
    let o := (Office.openingWith dayCounts newYear).run dayPolicy
      [.register clerk { fox with packages := .empty },
        .change (.changeStatus clerk 1 (.status .approved) "" "" false),
        .outage { Outages.none with appending := some "down" },
        .change (.updateInfo clerk ⟨1, [], [], "", 5000, "late fee"⟩), .outage .none]
    let work := Desk.changeStatus dayPolicy clerk 1 (.status .checkedIn) "" "" false
    let history := (work.after o).ledger.history 1
    (∃ c, work.answer o = .ok c) ∧ ¬ duesOf history ≤ paymentsOf history := by
  intro o work history
  have hdone : (work.answer o).map (·.status) = .ok .checkedIn := by decide +kernel
  refine ⟨?_, by decide +kernel⟩
  cases h : work.answer o with
  | error e => simp [h, Except.map] at hdone
  | ok c => exact ⟨c, rfl⟩

end Registration
