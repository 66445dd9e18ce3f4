import Registration.Proofs.Dues.Targets
import Registration.Proofs.Office.Resume

/-!
# Reconciling buckets to their targets

A reconciliation to any status but cancelled charges, for each VAT key whose bucket is not at its
target, one due of just what lacks, and nothing else (`Buckets.MovedBy`). It leaves every bucket at
its target and shows the sum of the targets as the dues of the record. The packages of the record
and the transactions of the ledger may stand in any order: another order is reconciled as well, and
by the same amounts (`reconciled_to_targets`).
-/

namespace Registration

open Number (Decimal)

section Reconciled

variable {p : Policy} {a : Attendee} {info : AdminInfo} {s : Status} {override : String}
  {today : Calendar.Date} {o : Office}

/-- Whether a booking can be posted and shown depends on its amount and on whether its rate has a
key. -/
theorem complete_of_same_amounts {id : Int} {comment : String} {plan plan' : List Booking}
    (hkeys : ∀ b ∈ plan', IsRateKey b.rate)
    (hsame : ∀ key, amountsAt key plan' = amountsAt key plan)
    (h : (postings p id comment today plan).failure = none) :
    (postings p id comment today plan').failure = none := by
  rw [complete_postings_iff] at h ⊢
  intro b' hb'
  have hkey := hkeys b' hb'
  have hmem : b'.cents ∈ amountsAt b'.rate plan' := by
    refine List.mem_map_of_mem (List.mem_filter.mpr ⟨hb', ?_⟩)
    rw [withKey_of_rateKey hkey.2, hkey.sameValue_self]
  rw [hsame] at hmem
  obtain ⟨b, hb, hcents⟩ := List.mem_map.mp hmem
  obtain ⟨hposting, hmoney⟩ := h b (List.mem_of_mem_filter hb)
  obtain ⟨-, hdue⟩ := Booking.exists_posting_iff.mp hposting
  unfold Booking.dueDate at hdue
  rw [hcents] at hdue hmoney
  exact ⟨Booking.exists_posting_iff.mpr ⟨⟨_, hkey.2⟩, hdue⟩, hmoney⟩

/-- Packages and transactions in other orders are reconciled as well while everything works, and
charge the amounts of the plan. -/
theorem Desk.reconciled_of_perm {packages : Table String Int} {h : List Transaction}
    {plan : List Booking} (hp : p.FiniteRates) (hfin : FiniteRates h) (hs : s ≠ .cancelled)
    (hplan : bookingPlan p a info s h = .ok plan)
    (hcomplete : (postings p a.id (bookingComment s override) today plan).failure = none)
    (hpackages : packages.entries.Perm a.packages.entries)
    (hperm : (o.ledger.history a.id).Perm h) (hw : o.outages = .none) :
    let work := Desk.reconcile p (a.withPackages packages) info s override today
    (∃ r, work.answer o = .ok r) ∧ ∃ ts, (work.after o).ledger = o.ledger.appendAll ts ∧
      ∀ key, chargesAt key ts = amountsAt key plan := by
  intro work
  have hfin' : FiniteRates (o.ledger.history a.id) := fun t ht => hfin t (hperm.mem_iff.mp ht)
  obtain ⟨plan', hplan'⟩ := exists_plan_of_perm hp hfin hperm hpackages hplan
  have hkeys := isRateKey_of_mem_bookingPlan hp hfin' hs hplan'
  have hamounts := amountsAt_of_perm hp hfin hs hperm hpackages hplan hplan'
  have hcomplete' := complete_of_same_amounts hkeys hamounts hcomplete
  obtain ⟨hposted, hanswer⟩ :=
    Desk.reconcile_of_plan (a := a.withPackages packages) hw hplan' hcomplete'
  refine ⟨⟨_, hanswer⟩, _, hposted.ledger, fun key => ?_⟩
  have hcharges := chargesAt_of_posted (forall₂_postings hcomplete') fun b hb => (hkeys b hb).1
  exact (hcharges key).trans (hamounts key)

/-- Take any policy and any ledger history with finite VAT rates, and a reconciliation to any status
but cancelled that ends normally. It adds dues only: for each key whose bucket is not at its target
one of what lacks, for the others none. Afterwards every bucket is at its target, and the record
shows the sum of the targets. The same packages in another order, on a ledger with the same
transactions in another order, are reconciled as well while everything works, by the same
amounts. -/
theorem reconciled_to_targets (hp : p.FiniteRates) (hfin : FiniteRates (o.ledger.history a.id))
    (hs : s ≠ .cancelled) {r : Reconciled}
    (hdone : (Desk.reconcile p a info s override today).answer o = .ok r) :
    let before := o.ledger.history a.id
    let after := (Desk.reconcile p a info s override today).after o
    let target := targetAt p a info s
    ∃ B C ts, Buckets.ofHistory before = .ok B ∧ B.MovedBy target ts ∧
      after.ledger = o.ledger.appendAll ts ∧ after.ledger.history a.id = before ++ ts ∧
      Buckets.ofHistory (before ++ ts) = .ok C ∧ (∀ key, C.cents key = target key) ∧
      (∃ keys, Exhausts keys target) ∧
      (∀ keys, Exhausts keys target → r.attendee.cachedDues = (keys.map target).sum) ∧
      ∀ (packages : Table String Int) (o' : Office), packages.entries.Perm a.packages.entries →
        (o'.ledger.history a.id).Perm before → o'.outages = .none →
        let work := Desk.reconcile p (a.withPackages packages) info s override today
        (∃ r', work.answer o' = .ok r') ∧ ∃ ts', (work.after o').ledger = o'.ledger.appendAll ts' ∧
          ∀ key, chargesAt key ts' = chargesAt key ts := by
  intro before after target
  obtain ⟨plan, ts, hplan, hps, hposted, hhist, hr⟩ := Desk.posted_of_reconciled hdone
  have hpost := forall₂_of_postings hps
  have hfinplan := isFinite_of_mem_bookingPlan hp hfin hplan
  obtain ⟨B, hB, hmoved⟩ := movedBy_of_posted hp hfin hs hplan hpost
  obtain ⟨C, hC, hcents⟩ := Buckets.cents_of_moved hB hmoved
  have htarget : C.cents = target := funext hcents
  have hfinall : FiniteRates (before ++ ts) :=
    finiteRates_append.mpr ⟨hfin, finiteRates_of_posted hpost hfinplan⟩
  have hproper : Buckets.Proper C.entries := Buckets.proper_ofHistory hfinall hC
  have hdues : r.attendee.cachedDues = C.total := by
    rw [Buckets.total_ofHistory hC, hr]
    rfl
  refine ⟨B, C, ts, hB, hmoved, hposted.ledger, hhist, hC, hcents,
    ⟨C.entries.map (·.1), ?_⟩, fun keys hkeys => ?_, fun packages o' hpackages hperm hw => ?_⟩
  · exact htarget ▸ Buckets.exhausts_keys hproper.distinct
  · rw [← htarget] at hkeys ⊢
    rw [hdues, Buckets.total_of_exhausts hproper hkeys]
  · have hcomplete : (postings p a.id (bookingComment s override) today plan).failure = none := by
      rw [hps]
    obtain ⟨hok, ts', hledger, hcharges⟩ :=
      Desk.reconciled_of_perm hp hfin hs hplan hcomplete hpackages hperm hw
    refine ⟨hok, ts', hledger, fun key => ?_⟩
    rw [hcharges, chargesAt_of_posted hpost hfinplan]

end Reconciled

/-! ## A late fee -/

/-- Somebody who holds the day at 19 percent and has dropped a package at 7 percent gets a late fee.
The fee is charged under the key of the day, the dropped package is taken back under its own key,
also if the two dues came in the other order. Who was charged for one day and holds two is charged
for the second one with the fee; a guest is left with the fee alone, and who goes to the waiting list
with nothing. -/
theorem reconciled_to_late_fee :
    let info := { AdminInfo.blank 1 with manualDues := 2500 }
    let work := Desk.reconcile dayPolicy fox info .approved "" newYear.today
    let swapped := { twoDuesOffice with
      ledger := (Ledger.empty.inject (receipt .due 5000 7)).inject (receipt .due 10000 19) }
    let rate := fun n => Decimal.finite false n 0
    let oneDue := { twoDuesOffice with ledger := Ledger.empty.inject (receipt .due 10000 19) }
    let charges := fun (days : Int) (info : AdminInfo) (s : Status) (cents : Int) =>
      let work := Desk.reconcile dayPolicy (fox.withPackages (.ofList [("day", days)])) info s ""
        newYear.today
      ∃ r ts, work.answer oneDue = .ok r ∧
        (work.after oneDue).ledger.history 1 = oneDue.ledger.history 1 ++ ts ∧
        chargesAt (rate 19) ts = [cents]
    (∃ r ts, work.answer twoDuesOffice = .ok r ∧ r.attendee.cachedDues = 12500 ∧
      (work.after twoDuesOffice).ledger.history 1 = twoDuesOffice.ledger.history 1 ++ ts ∧
      chargesAt (rate 19) ts = [2500] ∧ chargesAt (rate 7) ts = [-5000] ∧
      ∃ ts', (work.after swapped).ledger = swapped.ledger.appendAll ts' ∧
        chargesAt (rate 19) ts' = [2500] ∧ chargesAt (rate 7) ts' = [-5000]) ∧
    charges 2 info .approved 12500 ∧ charges 1 { info with flags := ["guest"] } .approved (-7500) ∧
      charges 1 info .waiting (-10000) := by
  intro info work swapped rate oneDue charges
  have hcharges : ∀ days info s cents,
      ((Desk.reconcile dayPolicy (fox.withPackages (.ofList [("day", days)])) info s ""
        newYear.today).answer oneDue).map (fun _ => ()) = .ok () → s ≠ .cancelled →
      cents ≠ 0 → targetAt dayPolicy (fox.withPackages (.ofList [("day", days)])) info s (rate 19) =
        10000 + cents → charges days info s cents := by
    intro days info s cents hok hs hcents htarget
    obtain ⟨r, hanswer⟩ := exists_of_map_eq_ok hok
    have hfin : FiniteRates (oneDue.ledger.history 1) := by
      unfold FiniteRates
      decide +kernel
    have hbuckets : Buckets.ofHistory (oneDue.ledger.history 1) =
        .ok ⟨[(.finite false 19000000 (-6), 10000)]⟩ := by decide +kernel
    obtain ⟨B, C, ts, hB, hmoved, -, hhist, -⟩ :=
      reconciled_to_targets dayPolicy_finiteRates hfin hs hanswer
    obtain rfl := Except.ok.inj (hbuckets.symm.trans hB)
    have hthere : Buckets.cents ⟨[(.finite false 19000000 (-6), 10000)]⟩ (rate 19) = 10000 := by
      decide +kernel
    refine ⟨r, ts, hanswer, hhist, ?_⟩
    rw [hmoved.charges, hthere, htarget, if_neg (by omega), add_sub_cancel_left]
  have hpair : charges 2 info .approved 12500 :=
    hcharges _ _ _ _ (by decide +kernel) (by decide) (by decide) (by decide +kernel)
  have hguest : charges 1 { info with flags := ["guest"] } .approved (-7500) :=
    hcharges _ _ _ _ (by decide +kernel) (by decide) (by decide) (by decide +kernel)
  have hwaiting : charges 1 info .waiting (-10000) :=
    hcharges _ _ _ _ (by decide +kernel) (by decide) (by decide) (by decide +kernel)
  have hfin : FiniteRates (twoDuesOffice.ledger.history fox.id) := by
    unfold FiniteRates
    decide +kernel
  have hbuckets : Buckets.ofHistory (twoDuesOffice.ledger.history fox.id) =
      .ok ⟨[(.finite false 19000000 (-6), 10000), (.finite false 7000000 (-6), 5000)]⟩ := by
    decide +kernel
  have hdesired : desiredDues dayPolicy fox info =
      .ok ⟨[(.finite false 19000000 (-6), 12500)]⟩ := by decide +kernel
  have hsorted : Buckets.sorted
      [(.finite false 19000000 (-6), 2500), (.finite false 7000000 (-6), -5000)] =
      .ok [(.finite false 7000000 (-6), -5000), (.finite false 19000000 (-6), 2500)] := by cbv
  have hplan : bookingPlan dayPolicy fox info .approved (twoDuesOffice.ledger.history fox.id) =
      .ok [⟨-5000, .finite false 7000000 (-6)⟩, ⟨2500, .finite false 19000000 (-6)⟩] :=
    bookingPlan_eq_ok_iff.mpr ⟨_, hbuckets, _, hdesired, bind_of_eq_ok hsorted _⟩
  have hcomplete : (postings dayPolicy fox.id (bookingComment .approved "") newYear.today
      [⟨-5000, .finite false 7000000 (-6)⟩, ⟨2500, .finite false 19000000 (-6)⟩]).failure = none := by
    decide +kernel
  obtain ⟨-, hanswer⟩ := Desk.reconcile_of_plan rfl hplan hcomplete
  have hperm : (swapped.ledger.history fox.id).Perm (twoDuesOffice.ledger.history fox.id) :=
    List.Perm.swap _ _ _
  obtain ⟨B, C, ts, hB, hmoved, -, hhist, -, -, -, -, hother⟩ :=
    reconciled_to_targets dayPolicy_finiteRates hfin (by decide) hanswer
  obtain rfl := Except.ok.inj (hbuckets.symm.trans hB)
  have hday : chargesAt (rate 19) ts = [2500] :=
    (hmoved.charges (rate 19)).trans (by decide +kernel)
  have hdropped : chargesAt (rate 7) ts = [-5000] :=
    (hmoved.charges (rate 7)).trans (by decide +kernel)
  obtain ⟨-, ts', hledger, hsame⟩ := hother fox.packages swapped (.refl _) hperm rfl
  exact ⟨⟨_, ts, hanswer, by decide +kernel, hhist, hday, hdropped, ts', hledger,
    (hsame _).trans hday, (hsame _).trans hdropped⟩, hpair, hguest, hwaiting⟩

end Registration
