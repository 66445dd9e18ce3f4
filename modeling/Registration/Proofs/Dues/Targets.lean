import Registration.Proofs.Dues.Cancellation

/-!
# What each bucket should come to

`targetAt` tells what a status asks for under a key, read off the policy, the packages chosen and
the manual dues, without any buckets. Desired buckets hold just that (`cents_desiredDues`), and a plan
lists one booking for each key whose bucket is not there yet, of what it lacks (`amountsAt_plan`).
Posted, the plan leaves every bucket at its target (`cents_of_moved`).

None of this looks at the order of the packages or of the transactions: the targets and the cents
that there are stay the same when these are rearranged, and a plan there still is
(`targetAt_of_perm`, `centsAt_of_perm`, `exists_plan_of_perm`).
-/

namespace Registration

open Number (Decimal)

/-! ## Rates that have keys -/

/-- Steps that do not look at the buckets succeed together if each of them does. -/
theorem exists_foldlM_iff {β : Type} {f : Buckets → β → Except Failure Buckets} {P : β → Prop}
    (hf : ∀ B x, (∃ C, f B x = .ok C) ↔ P x) (xs : List β) (B : Buckets) :
    (∃ C, xs.foldlM f B = .ok C) ↔ ∀ x ∈ xs, P x := by
  induction xs generalizing B with
  | nil =>
    constructor
    · rintro - x hx
      cases hx
    · exact fun _ => ⟨B, rfl⟩
  | cons x rest ih =>
    rw [List.forall_mem_cons, ← hf B x]
    constructor
    · rintro ⟨C, hC⟩
      obtain ⟨M, hM, hC⟩ := bind_eq_ok_iff.mp hC
      exact ⟨⟨M, hM⟩, (ih M).mp ⟨C, hC⟩⟩
    · rintro ⟨⟨M, hM⟩, hrest⟩
      obtain ⟨C, hC⟩ := (ih M).mpr hrest
      exact ⟨C, bind_eq_ok_iff.mpr ⟨M, hM, hC⟩⟩

theorem exists_add_iff (rate : Decimal) (f : Decimal → Buckets) :
    (∃ C, (do pure (f (← rateKey rate)) : Except Failure Buckets) = .ok C) ↔ HasKey rate := by
  unfold HasKey
  constructor
  · rintro ⟨C, hC⟩
    obtain ⟨key, hkey, -⟩ := bind_eq_ok_iff.mp hC
    exact ⟨key, hkey⟩
  · rintro ⟨key, hkey⟩
    exact ⟨f key, bind_eq_ok_iff.mpr ⟨key, hkey, rfl⟩⟩

theorem exists_addPackage_iff (B : Buckets) (e : PackageConfig × Int) :
    (∃ C, B.addPackage e = .ok C) ↔ HasKey e.1.rate :=
  exists_add_iff e.1.rate fun key => B.add key (e.1.price * e.2)

theorem exists_addDue_iff (B : Buckets) (t : Transaction) :
    (∃ C, B.addDue t = .ok C) ↔ (t.isValidDue = true → HasKey t.amount.rate) := by
  unfold Buckets.addDue
  split
  · rename_i hdue
    rw [forall_prop_of_true hdue]
    exact exists_add_iff t.amount.rate fun key => B.add key t.amount.cents
  · rename_i hdue
    exact ⟨fun _ h => absurd h hdue, fun _ => ⟨B, rfl⟩⟩

/-! ## Targets -/

/-- What one entry of the packages chosen costs under a key: the price of each unit, if there are
units of it and the package is configured with the key. -/
def priceAt (p : Policy) (key : Decimal) (chosen : String × Int) : Int :=
  match p.packages.get? chosen.1 with
  | some conf => if 0 < chosen.2 ∧ withKey key conf.rate = true then conf.price * chosen.2 else 0
  | none => 0

/-- What is owed under a key: the manual dues and, except by guests, the packages chosen. -/
def owedAt (p : Policy) (a : Attendee) (info : AdminInfo) (key : Decimal) : Int :=
  (if withKey key p.manualDuesRate then info.manualDues else 0) +
    if p.guestFlag ∈ info.flags then 0 else (a.packages.entries.map (priceAt p key)).sum

/-- What a status asks for under a key: nothing for those that take dues back, else all that is
owed. -/
def targetAt (p : Policy) (a : Attendee) (info : AdminInfo) (s : Status) (key : Decimal) : Int :=
  if s ∈ [Status.new, .waiting, .deleted] then 0 else owedAt p a info key

/-- The packages held cost what all entries do: the others cost nothing. -/
theorem sum_heldPackages (p : Policy) (a : Attendee) (key : Decimal) :
    ((heldPackages p a).map fun e => if withKey key e.1.rate then e.1.price * e.2 else 0).sum =
      (a.packages.entries.map (priceAt p key)).sum := by
  unfold heldPackages
  induction a.packages.entries with
  | nil => rfl
  | cons e rest ih =>
    rw [List.map_cons, List.sum_cons, ← ih]
    unfold priceAt
    by_cases hunits : e.2 ≤ 0
    · cases hconf : p.packages.get? e.1 <;> simp [hunits, not_lt.mpr hunits]
    · cases hconf : p.packages.get? e.1 <;> simp [hunits, hconf, not_le.mp hunits]

namespace Buckets

theorem cents_manualDues {p : Policy} {info : AdminInfo} {M : Buckets}
    (hM : manualDues p info = .ok M) (key : Decimal) :
    M.cents key = if withKey key p.manualDuesRate then info.manualDues else 0 := by
  unfold manualDues at hM
  split at hM
  · rename_i hzero
    rw [← pure_eq_ok_iff.mp hM, hzero, ite_self]
    rfl
  · obtain ⟨k, hk, hM⟩ := bind_eq_ok_iff.mp hM
    obtain rfl := pure_eq_ok_iff.mp hM
    rw [cents_add, cents_empty, zero_add, withKey_of_rateKey hk]

theorem cents_foldlM_addPackage {held : List (PackageConfig × Int)} {B C : Buckets}
    (hC : held.foldlM addPackage B = .ok C) (key : Decimal) :
    C.cents key = B.cents key +
      (held.map fun e => if withKey key e.1.rate then e.1.price * e.2 else 0).sum := by
  refine measure_foldlM (m := (·.cents key)) (fun B e C hC => ?_) hC
  obtain ⟨k, hk, hC⟩ := bind_eq_ok_iff.mp hC
  obtain rfl := pure_eq_ok_iff.mp hC
  rw [cents_add, withKey_of_rateKey hk]

/-- The desired buckets hold what is owed. -/
theorem cents_desiredDues {p : Policy} {a : Attendee} {info : AdminInfo} {D : Buckets}
    (hD : desiredDues p a info = .ok D) (key : Decimal) : D.cents key = owedAt p a info key := by
  unfold desiredDues at hD
  obtain ⟨M, hM, hD⟩ := bind_eq_ok_iff.mp hD
  have hmanual := cents_manualDues hM key
  unfold owedAt
  split at hD
  · rename_i hguest
    rw [← pure_eq_ok_iff.mp hD, hmanual, if_pos (AdminInfo.hasFlag_iff_mem.mp hguest), add_zero]
  · rename_i hguest
    rw [cents_foldlM_addPackage hD, hmanual, if_neg (mt AdminInfo.hasFlag_iff_mem.mpr hguest),
      sum_heldPackages]

end Buckets

/-! ## One booking for each bucket -/

/-- The amounts of the bookings under a key, in order. -/
def amountsAt (key : Decimal) (plan : List Booking) : List Int :=
  (plan.filter fun b => withKey key b.rate).map (·.cents)

/-- The amounts of the transactions under a key, in order. -/
def chargesAt (key : Decimal) (ts : List Transaction) : List Int :=
  (ts.filter fun t => withKey key t.amount.rate).map (·.amount.cents)

/-- Postings charge under each key what is booked under it. -/
theorem chargesAt_of_posted {plan : List Booking} {ts : List Transaction}
    (hpost : List.Forall₂ Booking.IsPostedAs plan ts) (hfin : ∀ b ∈ plan, b.rate.isFinite = true)
    (key : Decimal) : chargesAt key ts = amountsAt key plan := by
  induction hpost with
  | nil => rfl
  | @cons b t plan ts hb _ ih =>
    have hrest := ih fun c hc => hfin c (List.mem_cons_of_mem b hc)
    have hkey : IsRateKey t.amount.rate :=
      isRateKey_of_rateKey (hfin b List.mem_cons_self) hb.key
    have hsame : withKey key t.amount.rate = withKey key b.rate := by
      rw [withKey_of_rateKey hkey.2, withKey_of_rateKey hb.key]
    unfold chargesAt amountsAt at hrest ⊢
    rw [List.filter_cons, List.filter_cons, hsame]
    split
    · rw [List.map_cons, List.map_cons, hrest, hb.cents]
    · exact hrest

namespace Buckets

/-- What is under a key, as a sum over all entries. -/
theorem centsIn_eq_sum {es : List (Decimal × Int)} (h : Distinct es) (key : Decimal) :
    centsIn key es = (es.map fun e => if e.1.sameValue key then e.2 else 0).sum := by
  induction es with
  | nil => rfl
  | cons e rest ih =>
    rw [centsIn_cons h, ih (List.pairwise_cons.mp h).2, List.map_cons, List.sum_cons]

theorem centsIn_of_perm {es fs : List (Decimal × Int)} (hes : Proper es) (h : fs.Perm es)
    (key : Decimal) : centsIn key fs = centsIn key es := by
  rw [centsIn_eq_sum hes.distinct, centsIn_eq_sum (hes.perm h).distinct]
  exact (h.map _).sum_eq

/-- Of the entries that are not zero at most one falls under a key: the bucket of the key. -/
theorem filter_nonzero {es : List (Decimal × Int)} (hes : Proper es) (key : Decimal) :
    ((nonzero es).filter fun e => withKey key e.1).map (·.2) =
      if centsIn key es = 0 then [] else [centsIn key es] := by
  induction es with
  | nil => rfl
  | cons x xs ih =>
    obtain ⟨hx, hhead, hxs⟩ := proper_cons.mp hes
    have hkey : withKey key x.1 = x.1.sameValue key := withKey_of_rateKey hx.2 key
    by_cases hsame : x.1.sameValue key = true
    · -- the other buckets have other keys
      have hnone : (nonzero xs).filter (fun e => withKey key e.1) = [] := by
        refine List.filter_eq_nil_iff.mpr fun f hf => ?_
        have hf : f ∈ xs := List.mem_of_mem_filter hf
        have hdiff := hhead f hf
        rw [Decimal.sameValue_congr hsame f.1, Decimal.sameValue_comm] at hdiff
        rw [withKey_of_rateKey (hxs.keys f hf).2, hdiff]
        exact Bool.false_ne_true
      have hcents : centsIn key (x :: xs) = x.2 := by rw [centsIn, if_pos hsame]
      unfold nonzero at hnone ⊢
      by_cases hzero : x.2 = 0 <;> simp [hcents, hzero, hkey, hsame, hnone]
    · have hcents : centsIn key (x :: xs) = centsIn key xs := by rw [centsIn, if_neg hsame]
      rw [hcents, ← ih hxs]
      unfold nonzero
      by_cases hzero : x.2 = 0 <;> simp [hzero, hkey, hsame]

end Buckets

section Plan

variable {p : Policy} {a : Attendee} {info : AdminInfo} {s : Status} {h : List Transaction}
  {plan : List Booking}

/-- A plan books under each key what the bucket lacks, in one booking; a cancellation has no
targets. -/
theorem amountsAt_plan (hp : p.FiniteRates) (hh : FiniteRates h) (hs : s ≠ .cancelled)
    (hplan : bookingPlan p a info s h = .ok plan) :
    ∃ B, Buckets.ofHistory h = .ok B ∧ ∀ key, amountsAt key plan =
      if B.cents key = targetAt p a info s key then []
      else [targetAt p a info s key - B.cents key] := by
  rw [bookingPlan_eq_ok_iff] at hplan
  cases hset : s.settlement <;> rw [hset] at hplan
  case void => exact absurd ((settlement_eq_void_iff s).mp hset) hs
  case compensate =>
    obtain ⟨B, hB, rfl⟩ := hplan
    refine ⟨B, hB, fun key => ?_⟩
    have hfilter := Buckets.filter_nonzero (Buckets.proper_ofHistory hh hB) key
    have htarget : targetAt p a info s key = 0 :=
      if_pos ((settlement_eq_compensate_iff s).mp hset)
    have hamounts : amountsAt key B.compensation =
        (((Buckets.nonzero B.entries).filter fun e => withKey key e.1).map (·.2)).map (- ·) := by
      rw [amountsAt, Buckets.compensation_eq, List.filter_map, List.map_map, List.map_map]
      rfl
    rw [hamounts, hfilter, htarget, zero_sub, Buckets.cents]
    split <;> rfl
  case adjust =>
    obtain ⟨B, hB, D, hD, hplan⟩ := hplan
    refine ⟨B, hB, fun key => ?_⟩
    have hproperB := Buckets.proper_ofHistory hh hB
    have hproperD := Buckets.proper_desiredDues hp hD
    have hproper := Buckets.proper_differences hproperB hproperD
    have hsorted := List.mergeSort_perm (B.differences D) fun a b => !(b.1.less a.1)
    rw [Buckets.adjustment_eq hproperB hproperD, Except.ok.injEq] at hplan
    have hfilter := Buckets.filter_nonzero (hproper.perm hsorted) key
    rw [Buckets.centsIn_of_perm hproper hsorted, Buckets.centsIn_differences,
      Buckets.cents_desiredDues hD] at hfilter
    have htarget : targetAt p a info s key = owedAt p a info key := by
      refine if_neg fun hmem => ?_
      cases hset.symm.trans ((settlement_eq_compensate_iff s).mpr hmem)
    rw [← hplan, amountsAt, List.filter_map, List.map_map, htarget]
    refine Eq.trans ?_ (hfilter.trans ?_)
    · rfl
    · by_cases hsame : B.cents key = owedAt p a info key
      · rw [if_pos hsame, if_pos (by omega)]
      · rw [if_neg hsame, if_neg (by omega)]

/-- The transactions bring the buckets to their targets: under each key there is one due of what its
bucket lacks, or none, and every one of them is a due under some key. -/
structure Buckets.MovedBy (B : Buckets) (target : Decimal → Int) (ts : List Transaction) :
    Prop where
  dues : ∀ t ∈ ts, t.isValidDue = true ∧ IsRateKey t.amount.rate
  charges : ∀ key, chargesAt key ts =
    if B.cents key = target key then [] else [target key - B.cents key]

variable {ts : List Transaction}

/-- A posted plan moves the buckets to what the status asks for. -/
theorem movedBy_of_posted (hp : p.FiniteRates) (hh : FiniteRates h) (hs : s ≠ .cancelled)
    (hplan : bookingPlan p a info s h = .ok plan)
    (hpost : List.Forall₂ Booking.IsPostedAs plan ts) :
    ∃ B, Buckets.ofHistory h = .ok B ∧ B.MovedBy (targetAt p a info s) ts := by
  obtain ⟨B, hB, hamounts⟩ := amountsAt_plan hp hh hs hplan
  have hfin := isFinite_of_mem_bookingPlan hp hh hplan
  refine ⟨B, hB, isRateKey_of_posted hpost hfin, fun key => ?_⟩
  rw [chargesAt_of_posted hpost hfin, hamounts]

end Plan

/-- Buckets that were moved are at their targets. -/
theorem Buckets.cents_of_moved {h ts : List Transaction} {B : Buckets} {target : Decimal → Int}
    (hB : ofHistory h = .ok B) (hts : B.MovedBy target ts) :
    ∃ C, ofHistory (h ++ ts) = .ok C ∧ ∀ key, C.cents key = target key := by
  have hall : validDues ts = ts := List.filter_eq_self.mpr fun t ht => (hts.dues t ht).1
  obtain ⟨C, hC⟩ := (exists_foldlM_iff exists_addDue_iff ts B).mpr
    fun t ht _ => ⟨t.amount.rate, (hts.dues t ht).2.2⟩
  refine ⟨C, by rw [ofHistory_append, hB]; exact hC, fun key => ?_⟩
  have hcharged : centsAt (withKey key) ts = (chargesAt key ts).sum := centsOf_eq_sum _
  rw [cents_foldlM_addDue hC, hall, hcharged, hts.charges]
  split
  · rename_i hthere
    rw [List.sum_nil, add_zero, hthere]
  · rw [List.sum_singleton, add_sub_cancel]

/-! ## All buckets together -/

/-- The keys are those of different buckets, and no bucket that is not empty is left out. -/
structure Exhausts (keys : List Decimal) (cents : Decimal → Int) : Prop where
  distinct : keys.Pairwise fun j k => j.sameValue k = false
  complete : ∀ key, cents key ≠ 0 → ∃ j ∈ keys, j.sameValue key = true

namespace Buckets

theorem hasKeyIn_of_centsIn_ne_zero {key : Decimal} {es : List (Decimal × Int)}
    (h : centsIn key es ≠ 0) : ∃ e ∈ es, e.1.sameValue key = true := by
  by_contra hnone
  refine h (centsIn_of_hasKeyIn_false (List.any_eq_false.mpr fun e he hkey => ?_))
  exact hnone ⟨e, he, hkey⟩

/-- The keys of buckets exhaust what is in them. -/
theorem exhausts_keys {C : Buckets} (hC : Distinct C.entries) :
    Exhausts (C.entries.map (·.1)) C.cents where
  distinct := List.pairwise_map.mpr hC
  complete key hkey := by
    obtain ⟨e, he, hsame⟩ := hasKeyIn_of_centsIn_ne_zero hkey
    exact ⟨e.1, List.mem_map_of_mem he, hsame⟩

/-- What is in all buckets is what is in those that are not empty, whatever keys they are found
by. -/
theorem total_of_exhausts {C : Buckets} (hC : Proper C.entries) {keys : List Decimal}
    (h : Exhausts keys C.cents) : C.total = (keys.map C.cents).sum := by
  have hkeys : Distinct (keys.map fun key => (key, (0 : Int))) := List.pairwise_map.mpr h.distinct
  have hsplit := sum_centsIn_add_sum_filter hC.distinct hkeys
  have hlookup : ((keys.map fun key => (key, (0 : Int))).map fun d => centsIn d.1 C.entries) =
      keys.map C.cents := by
    rw [List.map_map]
    rfl
  have hothers : ∀ e ∈ C.entries.filter (fun e => !hasKeyIn e.1 (keys.map fun key => (key, 0))),
      e.2 = 0 := by
    intro e he
    obtain ⟨he, hout⟩ := List.mem_filter.mp he
    by_contra hne
    rw [← cents_of_mem hC he] at hne
    obtain ⟨j, hj, hsame⟩ := h.complete e.1 hne
    have hin : hasKeyIn e.1 (keys.map fun key => (key, 0)) = true :=
      hasKeyIn_of_mem (List.mem_map_of_mem hj) hsame
    rw [hin] at hout
    cases hout
  have hzero : ((C.entries.filter fun e => !hasKeyIn e.1 (keys.map fun key => (key, 0))).map
      (·.2)).sum = 0 := List.sum_eq_zero (List.forall_mem_map.mpr hothers)
  rw [total_eq_sum, ← hsplit, hlookup, hzero, add_zero]

end Buckets

/-! ## Other orders -/

theorem centsAt_of_perm {h h' : List Transaction} (hperm : h'.Perm h) (rates : Decimal → Bool) :
    centsAt rates (validDues h') = centsAt rates (validDues h) := by
  unfold centsAt validDues
  rw [centsOf_eq_sum, centsOf_eq_sum]
  exact (((hperm.filter _).filter _).map _).sum_eq

/-- The attendee with other packages, or with the same ones in another order. -/
def Attendee.withPackages (a : Attendee) (packages : Table String Int) : Attendee :=
  { a with packages := packages }

section Reordered

variable {p : Policy} {a : Attendee} {info : AdminInfo} {s : Status} {packages : Table String Int}

theorem heldPackages_of_perm (hperm : packages.entries.Perm a.packages.entries) :
    (heldPackages p (a.withPackages packages)).Perm (heldPackages p a) :=
  hperm.filterMap _

/-- The packages may stand in any order. -/
theorem targetAt_of_perm (hperm : packages.entries.Perm a.packages.entries) (key : Decimal) :
    targetAt p (a.withPackages packages) info s key = targetAt p a info s key := by
  have hprices : ((a.withPackages packages).packages.entries.map (priceAt p key)).sum =
      (a.packages.entries.map (priceAt p key)).sum := (hperm.map _).sum_eq
  unfold targetAt owedAt
  rw [hprices]

/-- Packages in another order can be priced as well. -/
theorem exists_desiredDues_of_perm (hperm : packages.entries.Perm a.packages.entries)
    {D : Buckets} (hD : desiredDues p a info = .ok D) :
    ∃ D', desiredDues p (a.withPackages packages) info = .ok D' := by
  unfold desiredDues at hD ⊢
  obtain ⟨M, hM, hD⟩ := bind_eq_ok_iff.mp hD
  rw [bind_of_eq_ok hM]
  split
  · exact ⟨M, rfl⟩
  · rename_i hguest
    rw [if_neg hguest] at hD
    have hkeys := (exists_foldlM_iff exists_addPackage_iff _ M).mp ⟨D, hD⟩
    refine (exists_foldlM_iff exists_addPackage_iff _ M).mpr fun e he => ?_
    exact hkeys e ((heldPackages_of_perm hperm).mem_iff.mp he)

/-- Rearranged packages and transactions have a plan as well. -/
theorem exists_plan_of_perm (hp : p.FiniteRates) {h h' : List Transaction} (hh : FiniteRates h)
    (hperm : h'.Perm h) (hpackages : packages.entries.Perm a.packages.entries)
    {plan : List Booking} (hplan : bookingPlan p a info s h = .ok plan) :
    ∃ plan', bookingPlan p (a.withPackages packages) info s h' = .ok plan' := by
  have hh' : FiniteRates h' := fun t ht => hh t (hperm.mem_iff.mp ht)
  have hbuckets : ∀ {B}, Buckets.ofHistory h = .ok B → ∃ B', Buckets.ofHistory h' = .ok B' := by
    intro B hB
    have hkeys := (exists_foldlM_iff exists_addDue_iff h .empty).mp ⟨B, hB⟩
    exact (exists_foldlM_iff exists_addDue_iff h' .empty).mpr
      fun t ht => hkeys t (hperm.mem_iff.mp ht)
  simp only [bookingPlan_eq_ok_iff] at hplan ⊢
  cases hset : s.settlement <;> rw [hset] at hplan
  case compensate =>
    obtain ⟨B, hB, -⟩ := hplan
    obtain ⟨B', hB'⟩ := hbuckets hB
    exact ⟨_, B', hB', rfl⟩
  case void => exact ⟨_, rfl⟩
  case adjust =>
    obtain ⟨B, hB, D, hD, -⟩ := hplan
    obtain ⟨B', hB'⟩ := hbuckets hB
    obtain ⟨D', hD'⟩ := exists_desiredDues_of_perm hpackages hD
    have hadjust := Buckets.adjustment_eq (Buckets.proper_ofHistory hh' hB')
      (Buckets.proper_desiredDues hp hD')
    exact ⟨_, B', hB', D', hD', hadjust⟩

/-- Rearranged packages and transactions ask for the same amounts. -/
theorem amountsAt_of_perm (hp : p.FiniteRates) {h h' : List Transaction} (hh : FiniteRates h)
    (hs : s ≠ .cancelled) (hperm : h'.Perm h)
    (hpackages : packages.entries.Perm a.packages.entries) {plan plan' : List Booking}
    (hplan : bookingPlan p a info s h = .ok plan)
    (hplan' : bookingPlan p (a.withPackages packages) info s h' = .ok plan')
    (key : Decimal) : amountsAt key plan' = amountsAt key plan := by
  have hh' : FiniteRates h' := fun t ht => hh t (hperm.mem_iff.mp ht)
  obtain ⟨B, hB, hamounts⟩ := amountsAt_plan hp hh hs hplan
  obtain ⟨B', hB', hamounts'⟩ := amountsAt_plan hp hh' hs hplan'
  have hcents : B'.cents key = B.cents key := by
    rw [Buckets.cents_ofHistory hB', Buckets.cents_ofHistory hB, centsAt_of_perm hperm]
  rw [hamounts, hamounts', hcents, targetAt_of_perm hpackages]

end Reordered

end Registration
