import Registration.Proofs.Dues.Cancellation
import Registration.Proofs.Office.Resume

/-!
# Cancelling with several VAT rates

What a cancellation makes of the ledger, rate by rate. In all it leaves what was paid, and no bucket
grows. A bucket that was not overdrawn stays so exactly if the dues under its key that are covered
make up for the refunds under it (`buckets_after_cancellation`). Since the payments and the refunds
of all rates are one pool for the dues of all rates, this may fail: who drops a package before
cancelling can end up with a credit at the rate of that package, and owe as much at another rate
(`overdrawn_after_dropped_package`).
-/

namespace Registration

open Number (Decimal)

section Whole

variable {p : Policy} {a : Attendee} {info : AdminInfo} {override : String}
  {today : Calendar.Date} {o : Office}

/-- A cancellation that ends normally has posted all that it voids and shows the figures of the
history it has made. -/
theorem Desk.voided_of_cancelled {r : Reconciled}
    (hdone : (Desk.reconcile p a info .cancelled override today).answer o = .ok r) :
    ∃ ts, ((Desk.reconcile p a info .cancelled override today).after o).ledger.history a.id =
        o.ledger.history a.id ++ ts ∧
      List.Forall₂ Booking.IsPostedAs (cancellation (o.ledger.history a.id)) ts ∧
      r.booked = (cancellation (o.ledger.history a.id)).length ∧
      r.balances = Balances.ofHistory (o.ledger.history a.id ++ ts) := by
  obtain ⟨plan, ts, hplan, hps, -, hafter, rfl⟩ := Desk.posted_of_reconciled hdone
  obtain rfl : cancellation (o.ledger.history a.id) = plan := Except.ok.inj hplan
  have hpost := forall₂_of_postings hps
  exact ⟨ts, hafter, hpost, hpost.length_eq.symm, rfl⟩

theorem Desk.posted_of_cancelled {r : Reconciled}
    (hdone : (Desk.reconcile p a info .cancelled override today).answer o = .ok r) :
    ∃ ts, ((Desk.reconcile p a info .cancelled override today).after o).ledger.history a.id =
        o.ledger.history a.id ++ ts ∧
      List.Forall₂ Booking.IsPostedAs (cancellation (o.ledger.history a.id)) ts := by
  obtain ⟨ts, hafter, hpost, -⟩ := Desk.voided_of_cancelled hdone
  exact ⟨ts, hafter, hpost⟩

/-- Take any office, any attendee with a ledger history at finite VAT rates in which no rate is
overdrawn and the valid payments are not negative, and any cancellation that ends normally. Under
each key it leaves what is covered of the dues there, with payments and refunds of all rates
covering the dues of all rates in order, less what was refunded under the key; this is never more
than was owed. In all it leaves what was paid, up to what was owed. So no rate is overdrawn
afterwards exactly if under each key the covered dues make up for the refunds, which they do in a
history without refunds and in one with a single rate. Without payments, no rate is overdrawn
exactly if every rate is settled. -/
theorem buckets_after_cancellation {r : Reconciled} {B : Buckets}
    (hdone : (Desk.reconcile p a info .cancelled override today).answer o = .ok r)
    (hfin : FiniteRates (o.ledger.history a.id))
    (hB : Buckets.ofHistory (o.ledger.history a.id) = .ok B) (howed : ∀ key, 0 ≤ B.cents key)
    (hpaid : 0 ≤ paymentsOf (o.ledger.history a.id)) :
    let before := o.ledger.history a.id
    let after := ((Desk.reconcile p a info .cancelled override today).after o).ledger.history a.id
    let covered := fun key => coveredAt (withKey key) (coverage before) (validDues before)
    let refunded := fun key => refundedAt (withKey key) (validDues before)
    ∃ C, Buckets.ofHistory after = .ok C ∧
      (∀ key, C.cents key = covered key - refunded key ∧ C.cents key ≤ B.cents key) ∧
      C.total = min (paymentsOf before) B.total ∧
      ((∀ key, 0 ≤ C.cents key) ↔ ∀ key, refunded key ≤ covered key) ∧
      (NoRefunds before ∨ OneRate before → ∀ key, 0 ≤ C.cents key) ∧
      (paymentsOf before = 0 → ((∀ key, 0 ≤ C.cents key) ↔ ∀ key, C.cents key = 0)) := by
  intro before after covered refunded
  obtain ⟨ts, hafter, hpost⟩ := Desk.posted_of_cancelled hdone
  replace hafter : after = before ++ ts := hafter
  obtain ⟨C, hC, hcents⟩ := cents_of_cancelled hpost hfin hB
  replace hcents : ∀ key, C.cents key = covered key - refunded key := hcents
  have hiff : (∀ key, 0 ≤ C.cents key) ↔ ∀ key, refunded key ≤ covered key := by
    refine forall_congr' fun key => ?_
    rw [hcents, sub_nonneg]
  have htotal : C.total = min (paymentsOf before) B.total := by
    rw [Buckets.total_ofHistory hC, Buckets.total_ofHistory hB]
    exact duesOf_of_cancelled hpost hpaid
  refine ⟨C, hafter ▸ hC, fun key => ⟨hcents key, ?_⟩, htotal, hiff, fun hplain => ?_,
    fun hnothing => ⟨fun hnonneg key => ?_, fun hzero key => (hzero key).ge⟩⟩
  · have hcharged : covered key ≤ chargedAt (withKey key) (validDues before) :=
      coveredAt_le (withKey key) (coverage before) (validDues before)
    rw [hcents, Buckets.cents_ofHistory hB, centsAt_eq]
    exact sub_le_sub_right hcharged _
  · refine hiff.mpr fun key => ?_
    rcases hplain with hnone | hone
    · exact (refundedAt_of_noRefunds hnone _).trans_le (coveredAt_nonneg ..)
    · exact refundedAt_le_of_oneRate hone hpaid (Buckets.cents_ofHistory hB key ▸ howed key)
  · -- without payments the buckets add up to nothing
    have hposted : FiniteRates ts := finiteRates_of_posted hpost (isFinite_of_mem_cancellation hfin)
    have hproper : Buckets.Proper C.entries :=
      Buckets.proper_ofHistory (finiteRates_append.mpr ⟨hfin, hposted⟩) hC
    have hnotless : 0 ≤ B.total := Buckets.total_nonneg (Buckets.proper_ofHistory hfin hB) howed
    exact Buckets.cents_eq_zero hproper hnonneg (by omega) key

end Whole

/-! ## Two rates -/

/-- Somebody who owes at two rates has paid for one of the dues and some of the other. The rest of
the other is voided at its rate. -/
theorem buckets_after_partial_payment :
    let o := { twoDuesOffice with ledger := twoDuesOffice.ledger.inject (receipt .payment 12000 0) }
    let work := Desk.reconcile dayPolicy fox (.blank 1) .cancelled "" newYear.today
    let rate := fun n => Decimal.finite false n 0
    ∃ C, Buckets.ofHistory ((work.after o).ledger.history 1) = .ok C ∧ C.total = 12000 ∧
      C.cents (rate 19) = 10000 ∧ C.cents (rate 7) = 2000 ∧ ∀ key, 0 ≤ C.cents key := by
  intro o work rate
  have hfin : FiniteRates (o.ledger.history fox.id) := by
    unfold FiniteRates
    decide +kernel
  have hdone : (work.answer o).map (·.booked) = .ok 1 := by decide +kernel
  obtain ⟨r, hr⟩ := exists_of_map_eq_ok hdone
  have hB : Buckets.ofHistory (o.ledger.history fox.id) =
      .ok ⟨[(.finite false 19000000 (-6), 10000), (.finite false 7000000 (-6), 5000)]⟩ := by
    decide +kernel
  have hnone : NoRefunds (o.ledger.history fox.id) := by
    unfold NoRefunds
    decide +kernel
  obtain ⟨C, hC, hcents, htotal, -, hplain, -⟩ :=
    buckets_after_cancellation hr hfin hB (Buckets.cents_nonneg (by decide +kernel))
      (by decide +kernel)
  refine ⟨C, hC, htotal.trans (by decide +kernel), ?_, ?_, hplain (.inl hnone)⟩
  · rw [(hcents (rate 19)).1]
    decide +kernel
  · rw [(hcents (rate 7)).1]
    decide +kernel

/-- Somebody with the ledger of one who had packages at two rates and has dropped the one at 19
percent, which took its dues back, cancels without having paid anything. No rate is overdrawn
before; the cancellation leaves a credit at 19 percent, and the dues at 7 percent stay. -/
theorem overdrawn_after_dropped_package :
    let o := (Office.openingWith dayCounts newYear).run dayPolicy
      [.register clerk { fox with packages := .empty },
        .change (.changeStatus clerk 1 (.status .approved) "" "" false),
        .inject (receipt .due 10000 7), .inject (receipt .due 10000 19),
        .inject (receipt .due (-10000) 19)]
    let work := Desk.changeStatus dayPolicy clerk 1 (.status .cancelled) "" "" false
    let before := o.ledger.history 1
    let after := (work.after o).ledger.history 1
    let rate := fun n => Decimal.finite false n 0
    FiniteRates before ∧ paymentsOf before = 0 ∧
      (∃ B, Buckets.ofHistory before = .ok B ∧ ∀ key, 0 ≤ B.cents key) ∧
      (∃ c, work.answer o = .ok c) ∧
      ∃ C, Buckets.ofHistory after = .ok C ∧ C.cents (rate 19) = -10000 ∧
        C.cents (rate 7) = 10000 := by
  intro o work before after rate
  have hfin : FiniteRates before := by
    unfold FiniteRates
    decide +kernel
  have hB : Buckets.ofHistory before =
      .ok ⟨[(.finite false 7000000 (-6), 10000), (.finite false 19000000 (-6), 0)]⟩ := by
    decide +kernel
  have hC : Buckets.ofHistory after =
      .ok ⟨[(.finite false 7000000 (-6), 10000), (.finite false 19000000 (-6), -10000)]⟩ := by
    decide +kernel
  have hdone : (work.answer o).map (·.status) = .ok .cancelled := by decide +kernel
  exact ⟨hfin, by decide +kernel, ⟨_, hB, Buckets.cents_nonneg (by decide +kernel)⟩,
    exists_of_map_eq_ok hdone, _, hC, by decide +kernel, by decide +kernel⟩

end Registration
