import Registration.Proofs.Dues.Totals

/-!
# What a cancellation leaves at each VAT rate

A cancellation lets the payments, and the refunds of all rates, cover the dues in order. What is not
covered of a due is voided at the rate of that due. So under a key there is left what is covered of
the dues with that key, less what was refunded with it (`cents_of_cancelled`). The total is what was
paid, up to what was owed (`duesOf_of_cancelled`). But a refund with one key may cover dues with
another, and then more is voided under the first key than is owed there. Histories without refunds,
and histories with one rate, are not open to this (`refundedAt_of_noRefunds`,
`refundedAt_le_of_oneRate`).

The figures are taken over the transactions whose rate passes a test: `withKey key`, or `anyRate`
for the totals.
-/

namespace Registration

open Number (Decimal)

/-! ## Cents at some rates -/

/-- The rate has the key. -/
def withKey (key rate : Decimal) : Bool :=
  match rateKey rate with
  | .ok k => k.sameValue key
  | .error _ => false

theorem withKey_of_rateKey {rate k : Decimal} (h : rateKey rate = .ok k) (key : Decimal) :
    withKey key rate = k.sameValue key := by
  rw [withKey, h]

section Cents

variable (rates : Decimal → Bool)

/-- What the positive dues at some rates charge. -/
def chargedAt (dues : List Transaction) : Int := centsAt rates (dues.filter (0 < ·.amount.cents))

/-- What the negative dues at some rates give back. -/
def refundedAt (dues : List Transaction) : Int := -centsAt rates (dues.filter (·.amount.cents < 0))

/-- The cents of the bookings of a plan at some rates. -/
def bookedAt (plan : List Booking) : Int := ((plan.filter fun b => rates b.rate).map (·.cents)).sum

theorem centsAt_cons (t : Transaction) (ts : List Transaction) :
    centsAt rates (t :: ts) =
      (if rates t.amount.rate then t.amount.cents else 0) + centsAt rates ts := by
  unfold centsAt
  by_cases h : rates t.amount.rate = true <;> simp [h]

theorem bookedAt_cons (b : Booking) (plan : List Booking) :
    bookedAt rates (b :: plan) = (if rates b.rate then b.cents else 0) + bookedAt rates plan := by
  unfold bookedAt
  by_cases h : rates b.rate = true <;> simp [h]

theorem chargedAt_cons (t : Transaction) (ts : List Transaction) :
    chargedAt rates (t :: ts) =
      (if rates t.amount.rate then max t.amount.cents 0 else 0) + chargedAt rates ts := by
  unfold chargedAt
  by_cases hpos : 0 < t.amount.cents
  · rw [List.filter_cons_of_pos (by simpa using hpos), centsAt_cons, max_eq_left hpos.le]
  · rw [List.filter_cons_of_neg (by simpa using hpos), max_eq_right (not_lt.mp hpos), ite_self,
      zero_add]

theorem refundedAt_cons (t : Transaction) (ts : List Transaction) :
    refundedAt rates (t :: ts) =
      (if rates t.amount.rate then max (-t.amount.cents) 0 else 0) + refundedAt rates ts := by
  unfold refundedAt
  by_cases hneg : t.amount.cents < 0
  · rw [List.filter_cons_of_pos (by simpa using hneg), centsAt_cons,
      max_eq_left (by omega : 0 ≤ -t.amount.cents)]
    split_ifs <;> omega
  · rw [List.filter_cons_of_neg (by simpa using hneg),
      max_eq_right (by omega : -t.amount.cents ≤ 0), ite_self, zero_add]

theorem refundedAt_nonneg (dues : List Transaction) : 0 ≤ refundedAt rates dues := by
  induction dues with
  | nil => exact le_rfl
  | cons t ts ih =>
    rw [refundedAt_cons]
    split_ifs <;> omega

/-- What is owed is what was charged less what was refunded. -/
theorem centsAt_eq (dues : List Transaction) :
    centsAt rates dues = chargedAt rates dues - refundedAt rates dues := by
  induction dues with
  | nil => rfl
  | cons t ts ih =>
    rw [centsAt_cons, chargedAt_cons, refundedAt_cons, ih]
    split_ifs <;> omega

variable {rates}

theorem centsAt_of_forall_not {ts : List Transaction}
    (hnone : ∀ t ∈ ts, rates t.amount.rate = false) : centsAt rates ts = 0 := by
  have hempty : (ts.filter fun t => rates t.amount.rate) = [] :=
    List.filter_eq_nil_iff.mpr fun t ht => by simp [hnone t ht]
  rw [centsAt, hempty]
  rfl

/-- Where all dues have the rates, the refunds at them are all refunds. -/
theorem refundedAt_of_forall {h : List Transaction}
    (hall : ∀ t ∈ validDues h, rates t.amount.rate = true) :
    refundedAt rates (validDues h) = refundsOf h := by
  rw [refundedAt, centsAt_of_forall fun t ht => hall t (List.mem_of_mem_filter ht)]
  rfl

theorem refundedAt_anyRate (h : List Transaction) :
    refundedAt anyRate (validDues h) = refundsOf h :=
  refundedAt_of_forall fun _ _ => rfl

end Cents

/-! ## Buckets and postings -/

/-- Postings at finite rates are dues under keys. -/
theorem isRateKey_of_posted {plan : List Booking} {ts : List Transaction}
    (hpost : List.Forall₂ Booking.IsPostedAs plan ts)
    (hfin : ∀ b ∈ plan, b.rate.isFinite = true) :
    ∀ t ∈ ts, t.isValidDue = true ∧ IsRateKey t.amount.rate := by
  intro t ht
  obtain ⟨b, hb, hbt⟩ := exists_booking_of_posted hpost t ht
  exact ⟨hbt.due, isRateKey_of_rateKey (hfin b hb) hbt.key⟩

theorem finiteRates_of_posted {plan : List Booking} {ts : List Transaction}
    (hpost : List.Forall₂ Booking.IsPostedAs plan ts)
    (hfin : ∀ b ∈ plan, b.rate.isFinite = true) : FiniteRates ts :=
  fun t ht => (isRateKey_of_posted hpost hfin t ht).2.1

namespace Buckets

theorem cents_foldlM_addDue {h : List Transaction} {B C : Buckets}
    (hC : h.foldlM addDue B = .ok C) (key : Decimal) :
    C.cents key = B.cents key + centsAt (withKey key) (validDues h) := by
  have hadd : ∀ (B : Buckets) rate k n, rateKey rate = .ok k →
      (B.add k n).cents key = B.cents key + if withKey key rate then n else 0 :=
    fun B _ k n hk => by rw [cents_add, withKey_of_rateKey hk]
  exact measure_foldlM_addDue (·.cents key) (withKey key) hadd hC

/-- The bucket of a key holds the valid dues that fall under it. -/
theorem cents_ofHistory {h : List Transaction} {B : Buckets} (hB : ofHistory h = .ok B)
    (key : Decimal) : B.cents key = centsAt (withKey key) (validDues h) := by
  have hsum := cents_foldlM_addDue hB key
  rwa [cents_empty, zero_add] at hsum

/-- Postings at finite rates add what is booked to each bucket. -/
theorem cents_of_posted {plan : List Booking} {ts : List Transaction}
    (hpost : List.Forall₂ Booking.IsPostedAs plan ts) (hfin : ∀ b ∈ plan, b.rate.isFinite = true)
    {h : List Transaction} {B : Buckets} (hB : ofHistory h = .ok B) :
    ∃ C, ofHistory (h ++ ts) = .ok C ∧
      ∀ key, C.cents key = B.cents key + bookedAt (withKey key) plan := by
  induction hpost generalizing h B with
  | nil =>
    refine ⟨B, by rw [List.append_nil, hB], fun key => ?_⟩
    exact (add_zero _).symm
  | @cons b t plan ts hb _ ih =>
    have hkey : IsRateKey t.amount.rate :=
      isRateKey_of_rateKey (hfin b List.mem_cons_self) hb.key
    have hstep := ofHistory_concat hB hb.due hkey.2
    obtain ⟨C, hC, hcents⟩ := ih (fun c hc => hfin c (List.mem_cons_of_mem b hc)) hstep
    refine ⟨C, by rw [List.append_cons, hC], fun key => ?_⟩
    rw [hcents, cents_add, bookedAt_cons, withKey_of_rateKey hb.key, hb.cents, add_assoc]

end Buckets

/-! ## Covering dues in order -/

section Covering

variable (rates : Decimal → Bool)

/-- What is covered of the dues at some rates when the available cents cover all dues in order. -/
def coveredAt : Int → List Transaction → Int
  | _, [] => 0
  | available, t :: rest =>
    if t.amount.cents ≤ 0 then coveredAt available rest
    else (if rates t.amount.rate then min t.amount.cents (max available 0) else 0) +
      coveredAt (max (available - t.amount.cents) 0) rest

/-- What is voided at some rates is what is charged there and not covered. -/
theorem bookedAt_voidUncovered (available : Int) (dues : List Transaction) :
    bookedAt rates (voidUncovered available dues) =
      coveredAt rates available dues - chargedAt rates dues := by
  induction dues generalizing available with
  | nil => rfl
  | cons t ts ih =>
    rw [chargedAt_cons, coveredAt, voidUncovered]
    by_cases hneg : t.amount.cents ≤ 0
    · rw [if_pos hneg, if_pos hneg, max_eq_right hneg, ite_self, zero_add, ih]
    rw [if_neg hneg, if_neg hneg, max_eq_left (not_le.mp hneg).le]
    by_cases hcover : t.amount.cents ≤ available
    · -- nothing of this due is voided
      have hleft : max (available - t.amount.cents) 0 = available - t.amount.cents := by omega
      rw [if_pos hcover, ih, hleft]
      split_ifs <;> omega
    · have hleft : max (available - t.amount.cents) 0 = 0 := by omega
      rw [if_neg hcover, bookedAt_cons, ih, hleft]
      dsimp only
      split_ifs <;> omega

theorem coveredAt_nonneg (available : Int) (dues : List Transaction) :
    0 ≤ coveredAt rates available dues := by
  induction dues generalizing available with
  | nil => exact le_rfl
  | cons t ts ih =>
    rw [coveredAt]
    split_ifs with hneg hrate
    · exact ih available
    · have hrest := ih (max (available - t.amount.cents) 0)
      omega
    · have hrest := ih (max (available - t.amount.cents) 0)
      omega

theorem coveredAt_le (available : Int) (dues : List Transaction) :
    coveredAt rates available dues ≤ chargedAt rates dues := by
  induction dues generalizing available with
  | nil => exact le_rfl
  | cons t ts ih =>
    rw [coveredAt, chargedAt_cons]
    by_cases hneg : t.amount.cents ≤ 0
    · rw [if_pos hneg, max_eq_right hneg, ite_self, zero_add]
      exact ih available
    · have hrest := ih (max (available - t.amount.cents) 0)
      rw [if_neg hneg]
      split_ifs <;> omega

/-- Where all dues have the rates, they are covered as far as the available cents go. -/
theorem coveredAt_of_forall {rates : Decimal → Bool} {dues : List Transaction}
    (hall : ∀ t ∈ dues, rates t.amount.rate = true) (available : Int) :
    coveredAt rates available dues = min (max available 0) (chargedAt rates dues) := by
  induction dues generalizing available with
  | nil => exact (min_eq_right (le_max_right available 0)).symm
  | cons t ts ih =>
    have hrest : ∀ u ∈ ts, rates u.amount.rate = true :=
      fun u hu => hall u (List.mem_cons_of_mem t hu)
    have hcharged : 0 ≤ chargedAt rates ts :=
      (coveredAt_nonneg rates 0 ts).trans (coveredAt_le rates 0 ts)
    rw [coveredAt, chargedAt_cons, if_pos (hall t List.mem_cons_self),
      if_pos (hall t List.mem_cons_self)]
    by_cases hneg : t.amount.cents ≤ 0
    · rw [if_pos hneg, ih hrest, max_eq_right hneg, zero_add]
    · rw [if_neg hneg, ih hrest]
      omega

end Covering

/-! ## After a cancellation -/

theorem coverage_nonneg {h : List Transaction} (hpaid : 0 ≤ paymentsOf h) : 0 ≤ coverage h :=
  add_nonneg hpaid (refundedAt_anyRate h ▸ refundedAt_nonneg anyRate (validDues h))

section Cancelled

variable {h ts : List Transaction} {B : Buckets}

theorem isFinite_of_mem_cancellation (hfin : FiniteRates h) :
    ∀ b ∈ cancellation h, b.rate.isFinite = true := by
  intro b hb
  obtain ⟨t, ht, hrate⟩ := exists_of_mem_voidUncovered hb
  exact hrate ▸ hfin t (List.mem_of_mem_filter ht)

/-- What is left at some rates when a cancellation has booked what it voids there. -/
theorem centsAt_add_bookedAt (rates : Decimal → Bool) (h : List Transaction) :
    centsAt rates (validDues h) + bookedAt rates (cancellation h) =
      coveredAt rates (coverage h) (validDues h) - refundedAt rates (validDues h) := by
  have howed := centsAt_eq rates (validDues h)
  have hvoided : bookedAt rates (cancellation h) =
      coveredAt rates (coverage h) (validDues h) - chargedAt rates (validDues h) :=
    bookedAt_voidUncovered rates (coverage h) (validDues h)
  omega

/-- After a cancellation there is left under each key what is covered of the dues with it, less what
was refunded with it. -/
theorem cents_of_cancelled (hpost : List.Forall₂ Booking.IsPostedAs (cancellation h) ts)
    (hfin : FiniteRates h) (hB : Buckets.ofHistory h = .ok B) :
    ∃ C, Buckets.ofHistory (h ++ ts) = .ok C ∧ ∀ key, C.cents key =
      coveredAt (withKey key) (coverage h) (validDues h) -
        refundedAt (withKey key) (validDues h) := by
  obtain ⟨C, hC, hcents⟩ :=
    Buckets.cents_of_posted hpost (isFinite_of_mem_cancellation hfin) hB
  refine ⟨C, hC, fun key => ?_⟩
  rw [hcents, Buckets.cents_ofHistory hB]
  exact centsAt_add_bookedAt (withKey key) h

/-- What a cancellation takes back: of what was charged, all that is not covered. -/
theorem bookedAt_cancellation (h : List Transaction) :
    bookedAt anyRate (cancellation h) =
      min (max (coverage h) 0) (chargedAt anyRate (validDues h)) -
        chargedAt anyRate (validDues h) := by
  rw [← coveredAt_of_forall fun _ _ => rfl]
  exact bookedAt_voidUncovered anyRate (coverage h) (validDues h)

/-- A plan charges what it books at all rates. -/
theorem duesOf_eq_bookedAt {plan : List Booking}
    (hpost : List.Forall₂ Booking.IsPostedAs plan ts) : duesOf ts = bookedAt anyRate plan := by
  have hevery : (plan.filter fun b => anyRate b.rate) = plan :=
    List.filter_eq_self.mpr fun _ _ => rfl
  rw [duesOf_of_posted hpost, bookedAt, hevery]

/-- All dues are what was charged less what was refunded. -/
theorem duesOf_eq (h : List Transaction) :
    duesOf h = chargedAt anyRate (validDues h) - refundsOf h := by
  have howed : centsAt anyRate (validDues h) = duesOf h := centsAt_of_forall fun _ _ => rfl
  rw [← howed, ← refundedAt_anyRate, centsAt_eq]

/-- Where refunds make up for negative payments, a cancellation leaves what was paid, up to what
was owed. -/
theorem duesOf_of_covered (hpost : List.Forall₂ Booking.IsPostedAs (cancellation h) ts)
    (hcover : 0 ≤ coverage h) : duesOf (h ++ ts) = min (paymentsOf h) (duesOf h) := by
  have hvoided := bookedAt_cancellation h
  have howed := duesOf_eq h
  have hcoverage : coverage h = paymentsOf h + refundsOf h := rfl
  rw [duesOf_append, duesOf_eq_bookedAt hpost]
  omega

/-- After a cancellation there is left in all what was paid, up to what was owed. -/
theorem duesOf_of_cancelled (hpost : List.Forall₂ Booking.IsPostedAs (cancellation h) ts)
    (hpaid : 0 ≤ paymentsOf h) : duesOf (h ++ ts) = min (paymentsOf h) (duesOf h) :=
  duesOf_of_covered hpost (coverage_nonneg hpaid)

end Cancelled

/-! ## Histories in which refunds are covered at their rate -/

/-- No valid due is negative. -/
def NoRefunds (h : List Transaction) : Prop := ∀ t ∈ validDues h, 0 ≤ t.amount.cents

/-- All valid dues have one key. -/
def OneRate (h : List Transaction) : Prop :=
  ∃ k, ∀ t ∈ validDues h, rateKey t.amount.rate = .ok k

theorem refundedAt_of_noRefunds {h : List Transaction} (hnone : NoRefunds h)
    (rates : Decimal → Bool) : refundedAt rates (validDues h) = 0 := by
  have hempty : (validDues h).filter (·.amount.cents < 0) = [] := by
    refine List.filter_eq_nil_iff.mpr fun t ht => ?_
    simpa using hnone t ht
  rw [refundedAt, hempty]
  rfl

/-- With one rate, what covers a refund is owed at that rate. -/
theorem refundedAt_le_of_oneRate {h : List Transaction} (hone : OneRate h)
    (hpaid : 0 ≤ paymentsOf h) {key : Decimal} (howed : 0 ≤ centsAt (withKey key) (validDues h)) :
    refundedAt (withKey key) (validDues h) ≤
      coveredAt (withKey key) (coverage h) (validDues h) := by
  obtain ⟨k, hk⟩ := hone
  have hrates : ∀ t ∈ validDues h, withKey key t.amount.rate = k.sameValue key :=
    fun t ht => withKey_of_rateKey (hk t ht) key
  cases hkey : k.sameValue key with
  | true =>
    have hall : ∀ t ∈ validDues h, withKey key t.amount.rate = true :=
      fun t ht => (hrates t ht).trans hkey
    have hrefunds : refundedAt (withKey key) (validDues h) = refundsOf h :=
      refundedAt_of_forall hall
    have hcoverage : coverage h = paymentsOf h + refundsOf h := rfl
    rw [centsAt_eq] at howed
    have hcover := coverage_nonneg hpaid
    rw [coveredAt_of_forall hall]
    omega
  | false =>
    have hnone : refundedAt (withKey key) (validDues h) = 0 := by
      rw [refundedAt, centsAt_of_forall_not fun t ht =>
        (hrates t (List.mem_of_mem_filter ht)).trans hkey, neg_zero]
    rw [hnone]
    exact coveredAt_nonneg (withKey key) (coverage h) (validDues h)

/-! ## Buckets that add up to nothing -/

namespace Buckets

theorem cents_of_mem {B : Buckets} (hB : Proper B.entries) {e : Decimal × Int}
    (he : e ∈ B.entries) : B.cents e.1 = e.2 := by
  obtain ⟨es⟩ := B
  change centsIn e.1 es = e.2
  induction es with
  | nil => cases he
  | cons f rest ih =>
    obtain ⟨hkey, hhead, hrest⟩ := proper_cons.mp hB
    rcases List.mem_cons.mp he with rfl | he
    · rw [centsIn, if_pos hkey.sameValue_self]
    · rw [centsIn, if_neg (by simp [hhead e he])]
      exact ih hrest he

theorem cents_nonneg {B : Buckets} (hB : ∀ e ∈ B.entries, 0 ≤ e.2) (key : Decimal) :
    0 ≤ B.cents key := by
  obtain ⟨es⟩ := B
  change 0 ≤ centsIn key es
  induction es with
  | nil => exact le_rfl
  | cons e rest ih =>
    rw [centsIn]
    split_ifs
    · exact hB e List.mem_cons_self
    · exact ih fun f hf => hB f (List.mem_cons_of_mem e hf)

theorem nonneg_of_mem {B : Buckets} (hB : Proper B.entries) (hcents : ∀ key, 0 ≤ B.cents key) :
    ∀ n ∈ B.entries.map (·.2), 0 ≤ n := by
  refine List.forall_mem_map.mpr fun e he => ?_
  rw [← cents_of_mem hB he]
  exact hcents e.1

theorem total_nonneg {B : Buckets} (hB : Proper B.entries) (hcents : ∀ key, 0 ≤ B.cents key) :
    0 ≤ B.total := by
  rw [total_eq_sum]
  exact List.sum_nonneg (nonneg_of_mem hB hcents)

/-- Buckets of which none is negative and that add up to nothing are all empty. -/
theorem cents_eq_zero {B : Buckets} (hB : Proper B.entries) (hcents : ∀ key, 0 ≤ B.cents key)
    (htotal : B.total = 0) (key : Decimal) : B.cents key = 0 := by
  rw [total_eq_sum] at htotal
  have hempty : nonzero B.entries = [] := by
    refine List.filter_eq_nil_iff.mpr fun e he => ?_
    have hzero : e.2 = 0 := List.all_zero_of_le_zero_le_of_sum_eq_zero (nonneg_of_mem hB hcents)
      htotal (List.mem_map_of_mem he)
    simp [hzero]
  exact centsIn_of_nonzero_nil hempty key

end Buckets

end Registration
