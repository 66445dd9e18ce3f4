import Registration.Proofs.Dues.Voiding
import Registration.Proofs.Office.Cancellation

/-!
# Voiding unpaid dues

A cancellation takes back what payments and refunds do not cover of the dues, where the earliest
dues are covered first (`unpaid_dues_voided_in_order`). The first due that it takes something from
is the one that the due date comes from (`voiding_starts_at_due_date`).

Cancelling again has nothing left to take back, unless payments were paid back beyond all payments
and refunds. No due is taken back beyond its amount, so what is lacking then is left to the next
cancellation, which takes the same dues back once more (`cancelled_again_iff`).
-/

namespace Registration

variable {p : Policy} {a : Attendee} {info : AdminInfo} {override : String}
  {today : Calendar.Date} {o : Office}

section Postings

variable {id : Int} {comment : String} {h : List Transaction}

/-- What is taken back has no due date, so it can be posted if its rate has a key. -/
theorem exists_posting_of_mem_cancellation {b : Booking} (hb : b ∈ cancellation h) :
    (∃ t, b.posting p id comment today = .ok t) ↔ HasKey b.rate := by
  have hneg : b.cents < 0 := neg_of_mem_voidUncovered hb
  have hdate : b.dueDate p today = .ok none := by
    rw [Booking.dueDate, if_neg hneg.le.not_gt]
    rfl
  rw [Booking.exists_posting_iff, and_iff_left ⟨none, hdate⟩]

theorem complete_cancellation_iff :
    (postings p id comment today (cancellation h)).failure = none ↔
      ∀ b ∈ cancellation h, HasKey b.rate ∧ ∃ m, p.moneyText b.cents = .ok m := by
  rw [complete_postings_iff]
  exact forall₂_congr fun b hb => and_congr_left' (exists_posting_of_mem_cancellation hb)

end Postings

namespace Desk

variable (p a info override today o) in
/-- However a cancellation ends, it has posted the first of its voids. -/
theorem exists_voided :
    ∃ ts, ((reconcile p a info .cancelled override today).after o).ledger.history a.id =
        o.ledger.history a.id ++ ts ∧
      List.Forall₂ Booking.IsPostedAs
        ((cancellation (o.ledger.history a.id)).take ts.length) ts := by
  obtain ⟨n, hposted⟩ := exists_posted_reconcile p a info .cancelled override today o
  have hhist : ((reconcile p a info .cancelled override today).after o).ledger.history a.id =
      o.ledger.history a.id ++ (planned p a info .cancelled override today
        (o.ledger.history a.id)).transactions.take n := by
    rw [hposted.ledger, Ledger.history_appendAll_self fun t ht =>
      debitor_of_mem_planned (List.mem_of_mem_take ht)]
  exact ⟨_, hhist, forall₂_take_postings _ n⟩

/-- While everything works, a cancellation ends normally exactly if what it voids can be posted and
shown. -/
theorem cancelled_iff (hw : o.outages = .none) :
    (∃ r, (reconcile p a info .cancelled override today).answer o = .ok r) ↔
      ∀ b ∈ cancellation (o.ledger.history a.id),
        HasKey b.rate ∧ ∃ m, p.moneyText b.cents = .ok m := by
  rw [← complete_cancellation_iff]
  constructor
  · rintro ⟨r, hr⟩
    obtain ⟨plan, ts, hplan, hps, -⟩ := posted_of_reconciled hr
    obtain rfl : cancellation (o.ledger.history a.id) = plan := Except.ok.inj hplan
    rw [hps]
  · intro hcomplete
    have hplan : bookingPlan p a info .cancelled (o.ledger.history a.id) =
        .ok (cancellation (o.ledger.history a.id)) := rfl
    obtain ⟨-, hanswer⟩ := reconcile_of_plan hw hplan hcomplete
    exact ⟨_, hanswer⟩

/-- A cancellation with nothing to void leaves the history. -/
theorem history_of_nothing_voided (hnone : cancellation (o.ledger.history a.id) = []) :
    ((reconcile p a info .cancelled override today).after o).ledger.history a.id =
      o.ledger.history a.id := by
  obtain ⟨ts, hafter, hpost⟩ := exists_voided p a info override today o
  rw [hnone, List.take_nil] at hpost
  cases hpost
  rw [hafter, List.append_nil]

/-- While everything works, a cancellation leaves the ledger exactly if it has nothing to void. -/
theorem ledger_of_cancelled_iff (hw : o.outages = .none)
    (hkeys : ∀ b ∈ cancellation (o.ledger.history a.id), HasKey b.rate) :
    ((reconcile p a info .cancelled override today).after o).ledger = o.ledger ↔
      cancellation (o.ledger.history a.id) = [] := by
  obtain ⟨hposted, -⟩ := reconcile_of_working p a info .cancelled override today hw
  constructor
  · intro hsame
    have hhist : o.ledger.history a.id = o.ledger.history a.id ++
        (planned p a info .cancelled override today (o.ledger.history a.id)).transactions := by
      rw [← Ledger.history_appendAll_self fun t => debitor_of_mem_planned, ← hposted.ledger, hsame]
    have hempty : (postings p a.id (bookingComment .cancelled override) today
        (cancellation (o.ledger.history a.id))).transactions = [] :=
      List.self_eq_append_right.mp hhist
    cases hplan : cancellation (o.ledger.history a.id) with
    | nil => rfl
    | cons b rest =>
      have hb : b ∈ cancellation (o.ledger.history a.id) := hplan ▸ List.mem_cons_self
      obtain ⟨t, ht⟩ := (exists_posting_of_mem_cancellation hb).mpr (hkeys b hb)
      rw [hplan] at hempty
      exact absurd hempty (postings_ne_nil ht)
  · intro hnone
    have hempty : (planned p a info .cancelled override today
        (o.ledger.history a.id)).transactions = [] := by
      change (postings p a.id _ today (cancellation (o.ledger.history a.id))).transactions = []
      rw [hnone]
      rfl
    rw [hposted.ledger, hempty, Ledger.appendAll_nil]

end Desk

/-! ## Earliest dues first -/

/-- Take any office and any attendee for whom payments and refunds do not come to less than nothing,
and add up the positive valid dues in order. A cancellation books for every due that the sum up to
it is above payments and refunds one booking under its VAT key, which takes back this excess but no
more than the due, in that order, and nothing else. Cut off, it has booked the first of these. When
it ends normally, the dues come to what they were or to the payments, whichever is less, so no more
is owed than was paid. While everything works it ends normally, unless a rate has no key or an
amount no text. -/
theorem unpaid_dues_voided_in_order
    (hcover : 0 ≤ paymentsOf (o.ledger.history a.id) + refundsOf (o.ledger.history a.id)) :
    let before := o.ledger.history a.id
    let work := Desk.reconcile p a info .cancelled override today
    let after := (work.after o).ledger.history a.id
    let voids := voidsBeyond (paymentsOf before + refundsOf before) (positiveDues before)
    (∃ ts, after = before ++ ts ∧ List.Forall₂ Booking.IsPostedAs (voids.take ts.length) ts) ∧
    (∀ r, work.answer o = .ok r →
      (∃ ts, after = before ++ ts ∧ List.Forall₂ Booking.IsPostedAs voids ts) ∧
      r.booked = voids.length ∧ r.balances = Balances.ofHistory after ∧
      duesOf after = min (duesOf before) (paymentsOf before) ∧ duesOf after ≤ paymentsOf after) ∧
    (o.outages = .none → ((∃ r, work.answer o = .ok r) ↔
      ∀ b ∈ voids, HasKey b.rate ∧ ∃ m, p.moneyText b.cents = .ok m)) := by
  intro before work after voids
  have hvoids : cancellation before = voids := cancellation_eq before
  rw [← hvoids]
  refine ⟨Desk.exists_voided p a info override today o, fun r hdone => ?_, Desk.cancelled_iff⟩
  obtain ⟨ts, hafter, hpost, hbooked, hbalances⟩ := Desk.voided_of_cancelled hdone
  replace hafter : after = before ++ ts := hafter
  have hdues : duesOf (before ++ ts) = min (duesOf before) (paymentsOf before) := by
    rw [duesOf_of_covered hpost hcover, min_comm]
  have hpaid : paymentsOf (before ++ ts) = paymentsOf before :=
    paymentsOf_append_dues (isValidDue_of_posted hpost) before
  rw [hafter]
  refine ⟨⟨ts, rfl, hpost⟩, hbooked, hbalances, hdues, ?_⟩
  rw [hdues, hpaid]
  exact min_le_right _ _

/-- Payments and a refund of the first due cover that due and a part of the second one. The rest of
the second due is voided at its rate. -/
theorem voided_beside_refund :
    let o := { twoDuesOffice with
      ledger := (twoDuesOffice.ledger.inject (receipt .due (-2000) 19)).inject
        (receipt .payment 9000 0) }
    let work := Desk.reconcile dayPolicy fox (.blank 1) .cancelled "" newYear.today
    ∃ t, (work.after o).ledger.history 1 = o.ledger.history 1 ++ [t] ∧ t.amount.cents = -4000 ∧
      rateKey (.finite false 7 0) = .ok t.amount.rate ∧
      duesOf ((work.after o).ledger.history 1) = 9000 := by
  intro o work
  have hcover : 0 ≤ paymentsOf (o.ledger.history fox.id) + refundsOf (o.ledger.history fox.id) := by
    decide +kernel
  have hdone : (work.answer o).map (·.booked) = .ok 1 := by decide +kernel
  obtain ⟨r, hr⟩ := exists_of_map_eq_ok hdone
  obtain ⟨⟨ts, hafter, hpost⟩, -, -, hdues, -⟩ := (unpaid_dues_voided_in_order hcover).2.1 r hr
  have hvoids : voidsBeyond (paymentsOf (o.ledger.history fox.id) +
      refundsOf (o.ledger.history fox.id)) (positiveDues (o.ledger.history fox.id)) =
      [⟨-4000, .finite false 7 0⟩] := by decide +kernel
  rw [hvoids] at hpost
  obtain ⟨t, us, hposted, hus, rfl⟩ := List.forall₂_cons_left_iff.mp hpost
  obtain rfl := List.forall₂_nil_left_iff.mp hus
  exact ⟨t, hafter, hposted.cents, hposted.key, hdues.trans (by decide +kernel)⟩

/-! ## Cancelling twice -/

variable {b : Attendee} {info' : AdminInfo} {override' : String} {today' : Calendar.Date}
  {o' : Office}

/-- Take any cancellation that ends normally and another one of the same attendee, with any other
inputs, on the ledger that it leaves while everything works. The other one leaves the ledger exactly
if payments and refunds did not come to less than nothing before the first one, or if there were no
positive dues. Then it ends normally, books nothing and shows the same balances. Otherwise it takes
back what was lacking, up to the sum of the positive dues. -/
theorem cancelled_again_iff {r : Reconciled}
    (hdone : (Desk.reconcile p a info .cancelled override today).answer o = .ok r)
    (hid : b.id = a.id) (hw : o'.outages = .none)
    (hledger : o'.ledger = ((Desk.reconcile p a info .cancelled override today).after o).ledger) :
    let before := o.ledger.history a.id
    let available := paymentsOf before + refundsOf before
    let again := Desk.reconcile p b info' .cancelled override' today'
    ((again.after o').ledger = o'.ledger ↔ 0 ≤ available ∨ positiveDues before = []) ∧
    ((again.after o').ledger = o'.ledger → ∃ r', again.answer o' = .ok r' ∧ r'.booked = 0 ∧
      r'.balances = r.balances) ∧
    (available < 0 → ∀ r', again.answer o' = .ok r' →
      r'.balances.dues = r.balances.dues - min (-available) (centsOf (positiveDues before))) := by
  intro before available again
  obtain ⟨ts, hafter, hpost, -, hbalances⟩ := Desk.voided_of_cancelled hdone
  have hhist : o'.ledger.history b.id = before ++ ts := by rw [hledger, hid, hafter]
  have hkeys : ∀ v ∈ cancellation (o'.ledger.history b.id), HasKey v.rate :=
    hhist ▸ fun v hv => hasKey_of_mem_cancellation hpost hv
  have hsame : (again.after o').ledger = o'.ledger ↔ cancellation (o'.ledger.history b.id) = [] :=
    Desk.ledger_of_cancelled_iff hw hkeys
  refine ⟨?_, fun hleft => ?_, fun hlacking r' hr' => ?_⟩
  · rw [hsame, hhist]
    exact cancellation_of_cancelled_eq_nil_iff hpost
  · have hnone := hsame.mp hleft
    obtain ⟨r', hr'⟩ : ∃ r', again.answer o' = .ok r' :=
      (Desk.cancelled_iff hw).mpr (hnone ▸ List.forall_mem_nil _)
    obtain ⟨us, -, hpost', hbooked, hbalances'⟩ := Desk.voided_of_cancelled hr'
    rw [hnone] at hpost' hbooked
    cases hpost'
    exact ⟨r', hr', hbooked, by rw [hbalances', hbalances, hhist, List.append_nil]⟩
  · obtain ⟨us, -, hpost', -, hbalances'⟩ := Desk.voided_of_cancelled hr'
    rw [hhist] at hpost' hbalances'
    have hdues : duesOf (before ++ ts ++ us) =
        duesOf (before ++ ts) - min (-available) (centsOf (positiveDues before)) := by
      rw [duesOf_append (before ++ ts) us, duesOf_eq_bookedAt hpost',
        bookedAt_of_cancelled hpost hlacking]
      rfl
    rw [hbalances', hbalances]
    exact hdues

/-- A payment is paid back with more than it was. The first cancellation takes the due back, a
second one takes back what was paid in excess. -/
theorem voided_again_after_excess_refund :
    let o := { Office.opening newYear with
      ledger := ((Ledger.empty.inject (receipt .due 10000 19)).inject
        (receipt .payment 5000 0)).inject (receipt .payment (-8000) 0) }
    let work := Desk.reconcile dayPolicy fox (.blank 1) .cancelled "" newYear.today
    let done := work.after o
    FiniteRates (o.ledger.history 1) ∧
      (work.answer o).map (fun r => (r.booked, r.balances.dues)) = .ok (1, 0) ∧
      (work.answer done).map (fun r => (r.booked, r.balances.dues)) = .ok (1, -3000) ∧
      ((work.after done).ledger.history 1).map (·.amount.cents) =
        [10000, 5000, -8000, -10000, -3000] := by
  intro o work done
  have hfin : FiniteRates (o.ledger.history 1) := by
    unfold FiniteRates
    decide +kernel
  exact ⟨hfin, by decide +kernel, by decide +kernel, by decide +kernel⟩

/-- Somebody who has paid for one due and some of another cancels twice. The second time, with the
record as the first one left it, nothing is voided. -/
theorem voided_once_after_partial_payment :
    let o := { twoDuesOffice with ledger := twoDuesOffice.ledger.inject (receipt .payment 12000 0) }
    let work := fun a => Desk.reconcile dayPolicy a (.blank 1) .cancelled "" newYear.today
    ∃ r r', (work fox).answer o = .ok r ∧ r.booked = 1 ∧
      (work r.attendee).answer ((work fox).after o) = .ok r' ∧ r'.booked = 0 ∧
      r'.balances = r.balances ∧
      ((work r.attendee).after ((work fox).after o)).ledger = ((work fox).after o).ledger := by
  intro o work
  have hbooked : ((work fox).answer o).map (fun r => (r.booked, r.attendee.id)) =
      .ok (1, fox.id) := by decide +kernel
  obtain ⟨r, hr⟩ := exists_of_map_eq_ok hbooked
  rw [hr] at hbooked
  obtain ⟨hone, hid⟩ := Prod.mk.inj (Except.ok.inj hbooked)
  have hw : ((work fox).after o).outages = .none := by decide +kernel
  obtain ⟨hiff, hsame, -⟩ := cancelled_again_iff (b := r.attendee) hr hid hw rfl
  have hleft := hiff.mpr (.inl (by decide +kernel))
  obtain ⟨r', hr', hnone, hbalances⟩ := hsame hleft
  exact ⟨r, r', hr, hone, hr', hnone, hbalances, hleft⟩

/-! ## The due date -/

/-- Take any office and any attendee without negative valid dues, whose valid payments do not come
to less than nothing. A cancellation leaves the history if the payments reach the dues, and if it
ends normally, it books nothing exactly then. Otherwise its first booking takes something from the
very due that the due date comes from, if that due has one. The dues before it fit into the payments
and stay, and the dues after it are taken back whole. -/
theorem voiding_starts_at_due_date (hnone : NoRefunds (o.ledger.history a.id))
    (hpaid : 0 ≤ paymentsOf (o.ledger.history a.id)) :
    let before := o.ledger.history a.id
    let work := Desk.reconcile p a info .cancelled override today
    let after := (work.after o).ledger.history a.id
    (duesOf before ≤ paymentsOf before → after = before) ∧
    (∀ r, work.answer o = .ok r → (r.booked = 0 ↔ duesOf before ≤ paymentsOf before)) ∧
    (paymentsOf before < duesOf before → ∃ earlier t later,
      validDues before = earlier ++ t :: later ∧
      firstUncovered (paymentsOf before) 0 (validDues before) = some t ∧
      (∀ d, t.dueDate = some d → (Balances.ofHistory before).dueDate = some d) ∧
      centsOf earlier ≤ paymentsOf before ∧
      paymentsOf before < centsOf earlier + t.amount.cents ∧
      let voids := t.takenBack (centsOf earlier + t.amount.cents - paymentsOf before) ::
        (later.filter (0 < ·.amount.cents)).map fun u => u.takenBack u.amount.cents
      (∃ ts, after = before ++ ts ∧ List.Forall₂ Booking.IsPostedAs (voids.take ts.length) ts) ∧
      ∀ r, work.answer o = .ok r →
        ∃ ts, after = before ++ ts ∧ List.Forall₂ Booking.IsPostedAs voids ts) := by
  intro before work after
  have hnothing : cancellation before = [] ↔ duesOf before ≤ paymentsOf before :=
    cancellation_eq_nil_iff_of_noRefunds hnone hpaid
  refine ⟨fun hcovered => ?_, fun r hdone => ?_, fun hunpaid => ?_⟩
  · exact Desk.history_of_nothing_voided (hnothing.mpr hcovered)
  · obtain ⟨ts, -, -, hbooked, -⟩ := Desk.voided_of_cancelled hdone
    rw [hbooked, List.length_eq_zero_iff]
    exact hnothing
  · obtain ⟨earlier, t, later, hsplit, hfirst, hdate, hfits, hover, hvoids⟩ :=
      exists_first_voided hnone hpaid hunpaid
    refine ⟨earlier, t, later, hsplit, hfirst, hdate, hfits, hover, ?_, fun r hdone => ?_⟩
    · rw [← hvoids]
      exact Desk.exists_voided p a info override today o
    · rw [← hvoids]
      exact Desk.posted_of_cancelled hdone

/-- The first of two dues is paid and some of the second one. The second one gives the due date, and
the rest of it is voided. -/
theorem voided_from_second_due :
    let first := { receipt .due 10000 19 with dueDate := some ⟨2024, 1, 15, by decide⟩ }
    let second := { receipt .due 5000 7 with dueDate := some ⟨2024, 3, 15, by decide⟩ }
    let o := { Office.opening newYear with
      ledger := ((Ledger.empty.inject first).inject second).inject (receipt .payment 12000 0) }
    let work := Desk.reconcile dayPolicy fox (.blank 1) .cancelled "" newYear.today
    (Balances.ofHistory (o.ledger.history 1)).dueDate = second.dueDate ∧
      ∃ t, (work.after o).ledger.history 1 = o.ledger.history 1 ++ [t] ∧
        t.amount.cents = -3000 := by
  intro first second o work
  have hnone : NoRefunds (o.ledger.history fox.id) := by
    unfold NoRefunds
    decide +kernel
  have hdone : (work.answer o).map (·.booked) = .ok 1 := by decide +kernel
  obtain ⟨r, hr⟩ := exists_of_map_eq_ok hdone
  obtain ⟨-, -, hunpaid⟩ := voiding_starts_at_due_date hnone (by decide +kernel)
  obtain ⟨earlier, t, later, hsplit, hfirst, hdate, -, hover, -, hvoids⟩ :=
    hunpaid (by decide +kernel)
  have hsecond : firstUncovered (paymentsOf (o.ledger.history fox.id)) 0
      (validDues (o.ledger.history fox.id)) = some second := by decide +kernel
  obtain rfl : second = t := Option.some.inj (hsecond.symm.trans hfirst)
  have hdues : validDues (o.ledger.history fox.id) = [first, second] := by decide +kernel
  have hparts : earlier = [first] ∧ later = [] := by
    replace hsplit : [first, second] = earlier ++ second :: later := hdues.symm.trans hsplit
    rcases earlier with _ | ⟨x, _ | ⟨y, rest⟩⟩
    · exact absurd hover (by decide +kernel)
    · obtain ⟨hfirst, hlater⟩ := List.cons.inj hsplit
      exact ⟨congrArg ([·]) hfirst.symm, (List.cons.inj hlater).2.symm⟩
    · have hlength := congrArg List.length hsplit
      simp only [List.cons_append, List.length_cons, List.length_append, List.length_nil] at hlength
      omega
  obtain ⟨rfl, rfl⟩ := hparts
  obtain ⟨ts, hafter, hpost⟩ := hvoids r hr
  obtain ⟨u, us, hposted, hus, rfl⟩ := List.forall₂_cons_left_iff.mp hpost
  obtain rfl := List.forall₂_nil_left_iff.mp hus
  exact ⟨hdate _ rfl, u, hafter, hposted.cents⟩

end Registration
