import Registration.Proofs.Dues.Cancellation

/-!
# Which dues a cancellation voids

A cancellation drains what is available over the positive dues, one after the other. Seen from the
sums of these dues that is a threshold: it voids what lies above the available cents
(`cancellation_eq`), and it voids nothing exactly if there is enough for all positive dues
(`cancellation_eq_nil_iff`).

What is voided is available to the next cancellation, so that the positive dues are covered then.
Only where less than nothing was available is this much lacking again, and the next cancellation
voids it (`coverage_of_cancelled`, `cancellation_of_cancelled_eq_nil_iff`).

In histories without refunds the first due that is voided is the one that gives the due date
(`exists_first_voided`): the dues before it fit into the payments, with it they no longer do.
-/

namespace Registration

/-- Takes cents of a due back at its rate. -/
def Transaction.takenBack (t : Transaction) (cents : Int) : Booking := ⟨-cents, t.amount.rate⟩

/-- The positive valid dues of a history, in order. -/
def positiveDues (history : List Transaction) : List Transaction :=
  (validDues history).filter (0 < ·.amount.cents)

/-- The sum of the dues up to a place, with the one there. -/
def owedUpTo (dues : List Transaction) (place : ℕ) : Int := centsOf (dues.take (place + 1))

/-- What lies above the available cents when dues are added up: of every due that the sum up to it
is above them, this excess, but no more than the due. -/
def voidsBeyond (available : Int) (dues : List Transaction) : List Booking :=
  (dues.zipIdx.filter fun x => available < owedUpTo dues x.2).map fun x =>
    x.1.takenBack (min x.1.amount.cents (owedUpTo dues x.2 - available))

/-! ## Draining is a threshold -/

section Draining

variable {dues : List Transaction}

theorem voidsBeyond_cons (available : Int) (t : Transaction) (dues : List Transaction) :
    voidsBeyond available (t :: dues) =
      (if available < t.amount.cents then
        [t.takenBack (min t.amount.cents (t.amount.cents - available))] else []) ++
      voidsBeyond (available - t.amount.cents) dues := by
  have hhead : owedUpTo (t :: dues) 0 = t.amount.cents := by simp [owedUpTo]
  have htail : ∀ place, owedUpTo (t :: dues) (place + 1) = t.amount.cents + owedUpTo dues place :=
    fun _ => rfl
  have habove : ∀ place, available < t.amount.cents + owedUpTo dues place ↔
      available - t.amount.cents < owedUpTo dues place := by
    intro place
    omega
  have hexcess : ∀ place, t.amount.cents + owedUpTo dues place - available =
      owedUpTo dues place - (available - t.amount.cents) := by
    intro place
    omega
  unfold voidsBeyond
  rw [List.zipIdx_cons, zero_add, List.zipIdx_succ, List.filter_cons, List.filter_map]
  by_cases hfirst : available < t.amount.cents
  · simp only [hhead, htail, habove, hexcess, hfirst, decide_true, if_true, Function.comp_def,
      List.map_cons, List.map_map, List.singleton_append]
  · simp only [hhead, htail, habove, hexcess, hfirst, decide_false, if_false, Bool.false_eq_true,
      Function.comp_def, List.map_map, List.nil_append]

/-- Where nothing is available, all dues are voided. -/
theorem voidsBeyond_of_nonpos (hpos : ∀ t ∈ dues, 0 < t.amount.cents) {available : Int}
    (hnothing : available ≤ 0) :
    voidsBeyond available dues = dues.map fun t => t.takenBack t.amount.cents := by
  induction dues generalizing available with
  | nil => rfl
  | cons t ts ih =>
    obtain ⟨ht, hts⟩ := List.forall_mem_cons.mp hpos
    have hwhole : min t.amount.cents (t.amount.cents - available) = t.amount.cents := by omega
    rw [voidsBeyond_cons, if_pos (by omega), hwhole, ih hts (by omega)]
    rfl

theorem voidUncovered_eq_voidsBeyond (hpos : ∀ t ∈ dues, 0 < t.amount.cents) (available : Int) :
    voidUncovered available dues = voidsBeyond available dues := by
  induction dues generalizing available with
  | nil => rfl
  | cons t ts ih =>
    obtain ⟨ht, hts⟩ := List.forall_mem_cons.mp hpos
    rw [voidUncovered, if_neg (by omega), voidsBeyond_cons]
    by_cases hcover : t.amount.cents ≤ available
    · rw [if_pos hcover, if_neg (by omega), ih hts, List.nil_append]
    · -- the excess of this due uses up what is available, so the later dues are voided whole
      have hexcess : t.amount.cents - max available 0 =
          min t.amount.cents (t.amount.cents - available) := by omega
      have hrest : voidUncovered 0 ts = voidsBeyond (available - t.amount.cents) ts := by
        rw [ih hts, voidsBeyond_of_nonpos hts le_rfl, voidsBeyond_of_nonpos hts (by omega)]
      rw [if_neg hcover, if_pos (by omega), hexcess, hrest]
      rfl

/-- Dues that are not positive are passed over. -/
theorem voidUncovered_filter (available : Int) (dues : List Transaction) :
    voidUncovered available (dues.filter (0 < ·.amount.cents)) = voidUncovered available dues := by
  induction dues generalizing available with
  | nil => rfl
  | cons t ts ih =>
    by_cases hpos : 0 < t.amount.cents
    · rw [List.filter_cons_of_pos (by simpa using hpos)]
      simp only [voidUncovered, ih]
    · rw [List.filter_cons_of_neg (by simpa using hpos), voidUncovered, if_pos (by omega), ih]

theorem centsOf_nonneg (hnonneg : ∀ t ∈ dues, 0 ≤ t.amount.cents) : 0 ≤ centsOf dues := by
  induction dues with
  | nil => exact le_rfl
  | cons t ts ih =>
    obtain ⟨ht, hts⟩ := List.forall_mem_cons.mp hnonneg
    exact add_nonneg ht (ih hts)

/-- Nothing is voided exactly if all dues fit in. -/
theorem voidsBeyond_eq_nil_iff (hpos : ∀ t ∈ dues, 0 < t.amount.cents) {available : Int} :
    voidsBeyond available dues = [] ↔ dues = [] ∨ centsOf dues ≤ available := by
  induction dues generalizing available with
  | nil => exact ⟨fun _ => .inl rfl, fun _ => rfl⟩
  | cons t ts ih =>
    obtain ⟨ht, hts⟩ := List.forall_mem_cons.mp hpos
    have hsum : 0 ≤ centsOf ts := centsOf_nonneg fun u hu => (hts u hu).le
    rw [voidsBeyond_cons, List.append_eq_nil_iff, ih hts, centsOf_cons]
    constructor
    · rintro ⟨hfirst, rfl | hrest⟩
      · exact .inr (by simpa using hfirst)
      · exact .inr (by omega)
    · rintro (hempty | hfits)
      · cases hempty
      · exact ⟨if_neg (by omega), .inr (by omega)⟩

end Draining

/-! ## The plan of a cancellation -/

section Cancellation

variable {h ts : List Transaction}

theorem pos_of_mem_positiveDues : ∀ t ∈ positiveDues h, 0 < t.amount.cents :=
  fun _ ht => by simpa using (List.mem_filter.mp ht).2

theorem centsOf_positiveDues_nonneg (h : List Transaction) : 0 ≤ centsOf (positiveDues h) :=
  centsOf_nonneg fun t ht => (pos_of_mem_positiveDues t ht).le

/-- A cancellation voids what lies above the coverage when the positive dues are added up. -/
theorem cancellation_eq (h : List Transaction) :
    cancellation h = voidsBeyond (coverage h) (positiveDues h) := by
  rw [← voidUncovered_eq_voidsBeyond pos_of_mem_positiveDues, positiveDues, voidUncovered_filter]
  rfl

theorem cancellation_eq_nil_iff :
    cancellation h = [] ↔ positiveDues h = [] ∨ centsOf (positiveDues h) ≤ coverage h := by
  rw [cancellation_eq, voidsBeyond_eq_nil_iff pos_of_mem_positiveDues]

theorem chargedAt_anyRate (h : List Transaction) :
    chargedAt anyRate (validDues h) = centsOf (positiveDues h) :=
  centsAt_of_forall fun _ _ => rfl

/-! ## The next cancellation -/

/-- What is taken back of dues leaves the positive dues as they are and adds to the coverage. -/
theorem positiveDues_of_posted {plan : List Booking}
    (hpost : List.Forall₂ Booking.IsPostedAs plan ts) (hneg : ∀ b ∈ plan, b.cents < 0)
    (h : List Transaction) :
    positiveDues (h ++ ts) = positiveDues h ∧
      coverage (h ++ ts) = coverage h - bookedAt anyRate plan := by
  induction hpost generalizing h with
  | nil =>
    rw [List.append_nil]
    exact ⟨rfl, (sub_zero _).symm⟩
  | @cons b t plan ts hb _ ih =>
    obtain ⟨hbneg, hneg⟩ := List.forall_mem_cons.mp hneg
    have htneg : t.amount.cents < 0 := hb.cents ▸ hbneg
    obtain ⟨hdues, hcoverage⟩ := ih hneg (h ++ [t])
    have hsame : positiveDues (h ++ [t]) = positiveDues h := by
      simp [positiveDues, validDues, hb.due, htneg.le]
    have hone := coverage_concat (h := h) hb.due htneg.le
    have hrate : bookedAt anyRate (b :: plan) = b.cents + bookedAt anyRate plan :=
      bookedAt_cons anyRate b plan
    rw [List.append_cons]
    refine ⟨hdues.trans hsame, ?_⟩
    rw [hcoverage, hone, hrate, hb.cents]
    omega

variable (hpost : List.Forall₂ Booking.IsPostedAs (cancellation h) ts)
include hpost

theorem positiveDues_of_cancelled : positiveDues (h ++ ts) = positiveDues h :=
  (positiveDues_of_posted hpost (fun _ => neg_of_mem_voidUncovered) h).1

/-- After a cancellation all positive dues are covered, unless there was less than nothing to begin
with: this much is lacking then. -/
theorem coverage_of_cancelled :
    coverage (h ++ ts) = max (centsOf (positiveDues h)) (coverage h) + min (coverage h) 0 := by
  have hnonneg := centsOf_positiveDues_nonneg h
  rw [(positiveDues_of_posted hpost (fun _ => neg_of_mem_voidUncovered) h).2,
    bookedAt_cancellation, chargedAt_anyRate]
  omega

/-- A cancellation leaves nothing to the next one exactly if there was not less than nothing
available, or nothing to be voided. -/
theorem cancellation_of_cancelled_eq_nil_iff :
    cancellation (h ++ ts) = [] ↔ 0 ≤ coverage h ∨ positiveDues h = [] := by
  have hnonneg := centsOf_positiveDues_nonneg h
  rw [cancellation_eq_nil_iff, positiveDues_of_cancelled hpost, coverage_of_cancelled hpost]
  constructor
  · rintro (hempty | hfits)
    · exact .inr hempty
    · exact .inl (by omega)
  · rintro (hcover | hempty)
    · exact .inr (by omega)
    · exact .inl hempty

/-- What the next cancellation voids is at rates that have been posted. -/
theorem hasKey_of_mem_cancellation {b : Booking} (hb : b ∈ cancellation (h ++ ts)) :
    HasKey b.rate := by
  have hlacking : coverage h ≤ 0 := by
    by_contra hcover
    have hnone := (cancellation_of_cancelled_eq_nil_iff hpost).mpr (.inl (by omega))
    rw [hnone] at hb
    cases hb
  have hwhole : cancellation h = (positiveDues h).map fun t => t.takenBack t.amount.cents := by
    rw [cancellation_eq, voidsBeyond_of_nonpos pos_of_mem_positiveDues hlacking]
  rw [cancellation_eq, positiveDues_of_cancelled hpost,
    ← voidUncovered_eq_voidsBeyond pos_of_mem_positiveDues] at hb
  obtain ⟨t, ht, hrate⟩ := exists_of_mem_voidUncovered hb
  have hmem : t.takenBack t.amount.cents ∈ cancellation h :=
    hwhole ▸ List.mem_map_of_mem ht
  exact hrate ▸ hasKey_of_posted hpost _ hmem

/-- Where less than nothing was available, the next cancellation takes back as much as was lacking,
up to all positive dues once more. -/
theorem bookedAt_of_cancelled (hlacking : coverage h < 0) :
    bookedAt anyRate (cancellation (h ++ ts)) =
      -min (-coverage h) (centsOf (positiveDues h)) := by
  have hnonneg := centsOf_positiveDues_nonneg h
  rw [bookedAt_cancellation, chargedAt_anyRate, positiveDues_of_cancelled hpost,
    coverage_of_cancelled hpost]
  omega

end Cancellation

/-! ## The first due that is voided -/

/-- Sums that go above the payments do so at some due, the first that is not covered. -/
theorem exists_firstUncovered {payments sum : Int} {dues : List Transaction}
    (hbelow : sum ≤ payments) (habove : payments < sum + centsOf dues) :
    ∃ earlier t later, dues = earlier ++ t :: later ∧ firstUncovered payments sum dues = some t ∧
      sum + centsOf earlier ≤ payments ∧ payments < sum + centsOf earlier + t.amount.cents := by
  induction dues generalizing sum with
  | nil => exact absurd habove (by simpa using hbelow)
  | cons t ts ih =>
    rw [centsOf_cons] at habove
    unfold firstUncovered
    by_cases hfirst : payments < sum + t.amount.cents
    · rw [if_pos hfirst]
      exact ⟨[], t, ts, rfl, rfl, by simpa using hbelow, by simpa using hfirst⟩
    · have hbelow : sum + t.amount.cents ≤ payments := not_lt.mp hfirst
      obtain ⟨earlier, u, later, hsplit, hu, hfits, hover⟩ := ih hbelow (by omega)
      rw [if_neg hfirst]
      refine ⟨t :: earlier, u, later, by rw [hsplit, List.cons_append], hu, ?_, ?_⟩
      · rw [centsOf_cons]
        omega
      · rw [centsOf_cons]
        omega

/-- Dues that fit into what is available are passed over. -/
theorem voidUncovered_append {earlier : List Transaction} {available : Int}
    (hnonneg : ∀ t ∈ earlier, 0 ≤ t.amount.cents) (hfits : centsOf earlier ≤ available)
    (later : List Transaction) :
    voidUncovered available (earlier ++ later) =
      voidUncovered (available - centsOf earlier) later := by
  induction earlier generalizing available with
  | nil => rw [centsOf_nil, sub_zero, List.nil_append]
  | cons t ts ih =>
    obtain ⟨ht, hts⟩ := List.forall_mem_cons.mp hnonneg
    have hsum := centsOf_nonneg hts
    rw [centsOf_cons] at hfits ⊢
    rw [List.cons_append, voidUncovered]
    by_cases hzero : t.amount.cents ≤ 0
    · rw [if_pos hzero, ih hts (by omega)]
      congr 1
      omega
    · rw [if_neg hzero, if_pos (by omega), ih hts (by omega)]
      congr 1
      omega

section NoRefunds

variable {h : List Transaction} (hnone : NoRefunds h)
include hnone

theorem refundsOf_of_noRefunds : refundsOf h = 0 := by
  rw [← refundedAt_anyRate, refundedAt_of_noRefunds hnone]

theorem coverage_of_noRefunds : coverage h = paymentsOf h := by
  rw [coverage, refundsOf_of_noRefunds hnone, add_zero]

/-- A cancellation has nothing to void exactly if the payments reach the dues. -/
theorem cancellation_eq_nil_iff_of_noRefunds (hpaid : 0 ≤ paymentsOf h) :
    cancellation h = [] ↔ duesOf h ≤ paymentsOf h := by
  rw [cancellation_eq_nil_iff, coverage_of_noRefunds hnone, duesOf_eq, chargedAt_anyRate,
    refundsOf_of_noRefunds hnone, sub_zero]
  constructor
  · rintro (hempty | hfits)
    · rwa [hempty]
    · exact hfits
  · exact .inr

/-- Where the payments do not reach the dues, the first due that is voided is the one that gives
the due date. The dues before it fit into the payments; of it the excess is voided, and the dues
after it are voided whole. -/
theorem exists_first_voided (hpaid : 0 ≤ paymentsOf h) (hunpaid : paymentsOf h < duesOf h) :
    ∃ earlier t later, validDues h = earlier ++ t :: later ∧
      firstUncovered (paymentsOf h) 0 (validDues h) = some t ∧
      (∀ d, t.dueDate = some d → dueDateOf h = some d) ∧
      centsOf earlier ≤ paymentsOf h ∧ paymentsOf h < centsOf earlier + t.amount.cents ∧
      cancellation h = t.takenBack (centsOf earlier + t.amount.cents - paymentsOf h) ::
        (later.filter (0 < ·.amount.cents)).map fun u => u.takenBack u.amount.cents := by
  have habove : paymentsOf h < 0 + centsOf (validDues h) := by rwa [zero_add]
  obtain ⟨earlier, t, later, hsplit, hfirst, hfits, hover⟩ := exists_firstUncovered hpaid habove
  rw [zero_add] at hfits hover
  refine ⟨earlier, t, later, hsplit, hfirst, fun d hd => ?_, hfits, hover, ?_⟩
  · simp [dueDateOf, hfirst, hd]
  · have hearlier : ∀ u ∈ earlier, 0 ≤ u.amount.cents :=
      fun u hu => hnone u (hsplit ▸ List.mem_append_left _ hu)
    have hlater : ∀ u ∈ later.filter (0 < ·.amount.cents), 0 < u.amount.cents :=
      fun u hu => by simpa using (List.mem_filter.mp hu).2
    have hexcess : t.amount.cents - max (paymentsOf h - centsOf earlier) 0 =
        centsOf earlier + t.amount.cents - paymentsOf h := by omega
    change voidUncovered (coverage h) (validDues h) = _
    rw [coverage_of_noRefunds hnone, hsplit, voidUncovered_append hearlier hfits, voidUncovered,
      if_neg (by omega), if_neg (by omega), hexcess, ← voidUncovered_filter,
      voidUncovered_eq_voidsBeyond hlater, voidsBeyond_of_nonpos hlater le_rfl]
    rfl

end NoRefunds

end Registration
