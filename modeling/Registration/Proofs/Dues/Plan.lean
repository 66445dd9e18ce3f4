import Registration.Office.Reconciliation
import Registration.Proofs.Dues.Buckets

/-!
# A plan continues itself

What a plan asks for is a function of the history, and the history grows by the plan's own bookings.
Posting the first booking of a plan leaves the rest of that plan to be done (`bookingPlan_concat`),
hence posting any first part of it leaves the other part (`bookingPlan_append`). Each of the three
plans has its own reason: compensation empties buckets, adjustment empties differences, and a
cancellation pays for the dues it voids by the refunds it books.

When nothing is left to be done, the dues are settled (`settled_of_bookingPlan_nil`).
-/

namespace Registration

open Number (Decimal)

/-- The transaction charges what the booking says, under the key of its rate. -/
structure Booking.IsPostedAs (b : Booking) (t : Transaction) : Prop where
  due : t.isValidDue = true
  cents : t.amount.cents = b.cents
  key : rateKey b.rate = .ok t.amount.rate

/-- A booking at a key is posted under that key. -/
theorem Booking.IsPostedAs.rate_eq {b : Booking} {t : Transaction} (h : b.IsPostedAs t)
    (hkey : IsRateKey b.rate) : t.amount.rate = b.rate :=
  (Except.ok.inj (hkey.2.symm.trans h.key)).symm

/-- Every posting is that of a booking. -/
theorem exists_booking_of_posted {plan : List Booking} {ts : List Transaction}
    (hpost : List.Forall₂ Booking.IsPostedAs plan ts) : ∀ t ∈ ts, ∃ b ∈ plan, b.IsPostedAs t := by
  induction hpost with
  | nil => exact List.forall_mem_nil _
  | @cons b t plan ts hb _ ih =>
    refine List.forall_mem_cons.mpr ⟨⟨b, List.mem_cons_self, hb⟩, fun u hu => ?_⟩
    obtain ⟨c, hc, hcu⟩ := ih u hu
    exact ⟨c, List.mem_cons_of_mem b hc, hcu⟩

theorem isValidDue_of_posted {plan : List Booking} {ts : List Transaction}
    (hpost : List.Forall₂ Booking.IsPostedAs plan ts) : ∀ t ∈ ts, t.isValidDue = true := by
  intro t ht
  obtain ⟨b, -, hb⟩ := exists_booking_of_posted hpost t ht
  exact hb.due

theorem hasKey_of_posted {plan : List Booking} {ts : List Transaction}
    (hpost : List.Forall₂ Booking.IsPostedAs plan ts) : ∀ b ∈ plan, HasKey b.rate := by
  induction hpost with
  | nil => exact List.forall_mem_nil _
  | cons hb _ ih => exact List.forall_mem_cons.mpr ⟨⟨_, hb.key⟩, ih⟩

/-- All VAT rates of the policy are finite. Settings that were read have no others
(`Settings.finiteRates_of_read`), but a policy could be made with a not-a-number. -/
structure Policy.FiniteRates (p : Policy) : Prop where
  manual : p.manualDuesRate.isFinite = true
  packages : ∀ e ∈ p.packages.entries, e.2.rate.isFinite = true

namespace Buckets

/-! ## Taking back all dues -/

theorem compensation_eq (b : Buckets) :
    b.compensation = (nonzero b.entries).map fun e => ⟨-e.2, e.1⟩ := rfl

/-- Taking back the first bucket leaves the others to be taken back. -/
theorem compensation_concat {h : List Transaction} {t : Transaction} {B : Buckets} {b : Booking}
    {rest : List Booking} (hfin : FiniteRates h) (hB : ofHistory h = .ok B)
    (hplan : B.compensation = b :: rest) (hpost : b.IsPostedAs t) :
    ∃ C, ofHistory (h ++ [t]) = .ok C ∧ C.compensation = rest := by
  have hproper := proper_ofHistory hfin hB
  rw [compensation_eq] at hplan
  obtain ⟨e, es, hsplit, rfl, rfl⟩ := List.map_eq_cons_iff.mp hplan
  have he : e ∈ B.entries := List.mem_of_mem_filter (hsplit ▸ List.mem_cons_self : e ∈ nonzero _)
  have hkey := hproper.keys e he
  have hrate : t.amount.rate = e.1 := hpost.rate_eq hkey
  refine ⟨_, ofHistory_concat hB hpost.due (hrate ▸ hkey.2), ?_⟩
  have hentries : (B.add t.amount.rate t.amount.cents).entries = zeroAt e.1 B.entries := by
    rw [hrate, hpost.cents, ← addTo_neg hproper he]
    rfl
  rw [compensation_eq, hentries, nonzero_zeroAt hproper hsplit]

/-- Where nothing has to be taken back, every bucket is zero. -/
theorem cents_of_compensation_nil {B : Buckets} (h : B.compensation = []) (key : Decimal) :
    B.cents key = 0 :=
  centsIn_of_nonzero_nil (List.map_eq_nil_iff.mp h) key

/-! ## Lists of buckets that are put in order -/

theorem Proper.perm {es fs : List (Decimal × Int)} (h : Proper es) (hp : fs.Perm es) :
    Proper fs where
  keys e he := h.keys e (hp.mem_iff.mp he)
  distinct := h.distinct.perm hp.symm fun {e f} hef => Decimal.sameValue_comm e.1 f.1 ▸ hef

theorem Proper.eq_of_sameValue {es : List (Decimal × Int)} (h : Proper es) {e f : Decimal × Int}
    (he : e ∈ es) (hf : f ∈ es) (hsame : e.1.sameValue f.1 = true) : e = f := by
  have : Std.Symm fun x y : Decimal × Int => x.1.sameValue y.1 = false :=
    ⟨fun x y hxy => (Decimal.sameValue_comm y.1 x.1).trans hxy⟩
  by_contra hne
  have hdiff := h.distinct.forall he hf hne
  rw [hsame] at hdiff
  cases hdiff

theorem orderable_of_proper {es : List (Decimal × Int)} (h : Proper es) : orderable es = true := by
  have hnone : ∀ e ∈ es, e.1.isNaN = false := fun e he => by
    have hfin := (h.keys e he).1
    cases hd : e.1 <;> simp_all [Decimal.isFinite, Decimal.isNaN]
  simp only [orderable, Bool.or_eq_true, Bool.not_eq_true', List.any_eq_false]
  exact .inr fun e he => by simp [hnone e he]

/-- Order looks at the keys only. -/
theorem mergeSort_zeroAt (key : Decimal) (es : List (Decimal × Int)) :
    (zeroAt key es).mergeSort (fun a b => !(b.1.less a.1)) =
      zeroAt key (es.mergeSort fun a b => !(b.1.less a.1)) := by
  unfold zeroAt
  rw [List.map_mergeSort]
  intro a _ b _
  rfl

theorem sorted_of_proper {es : List (Decimal × Int)} (h : Proper es) :
    sorted es = .ok (es.mergeSort fun a b => !(b.1.less a.1)) := by
  rw [sorted, if_pos (orderable_of_proper h)]

/-! ## What an attendee should owe -/

theorem proper_manualDues {p : Policy} (hp : p.FiniteRates) {info : AdminInfo} {B : Buckets}
    (h : manualDues p info = .ok B) : Proper B.entries := by
  unfold manualDues at h
  split at h
  · obtain rfl := pure_eq_ok_iff.mp h
    exact proper_nil
  · obtain ⟨key, hkey, h⟩ := bind_eq_ok_iff.mp h
    obtain rfl := pure_eq_ok_iff.mp h
    exact proper_addTo (isRateKey_of_rateKey hp.manual hkey) proper_nil

theorem proper_foldlM_addPackage {held : List (PackageConfig × Int)}
    (hfin : ∀ e ∈ held, e.1.rate.isFinite = true) {B C : Buckets}
    (h : held.foldlM addPackage B = .ok C) (hB : Proper B.entries) : Proper C.entries := by
  induction held generalizing B with
  | nil => exact pure_eq_ok_iff.mp h ▸ hB
  | cons e rest ih =>
    obtain ⟨M, hM, h⟩ := bind_eq_ok_iff.mp h
    obtain ⟨key, hkey, hM⟩ := bind_eq_ok_iff.mp hM
    obtain rfl := pure_eq_ok_iff.mp hM
    exact ih (fun f hf => hfin f (by simp [hf])) h
      (proper_addTo (isRateKey_of_rateKey (hfin e (by simp)) hkey) hB)

theorem isFinite_of_mem_heldPackages {p : Policy} (hp : p.FiniteRates) {a : Attendee}
    {e : PackageConfig × Int} (he : e ∈ heldPackages p a) : e.1.rate.isFinite = true := by
  obtain ⟨x, -, hx⟩ := List.mem_filterMap.mp he
  split at hx
  · cases hx
  · obtain ⟨conf, hconf, rfl⟩ := Option.map_eq_some_iff.mp hx
    exact hp.packages _ (Table.mem_entries_iff.mpr hconf)

theorem proper_desiredDues {p : Policy} (hp : p.FiniteRates) {a : Attendee} {info : AdminInfo}
    {B : Buckets} (h : desiredDues p a info = .ok B) : Proper B.entries := by
  unfold desiredDues at h
  obtain ⟨M, hM, h⟩ := bind_eq_ok_iff.mp h
  have hproper := proper_manualDues hp hM
  split at h
  · exact pure_eq_ok_iff.mp h ▸ hproper
  · exact proper_foldlM_addPackage (fun e he => isFinite_of_mem_heldPackages hp he) h hproper

/-! ## Moving the buckets -/

theorem hasKeyIn_of_mem {es : List (Decimal × Int)} {e : Decimal × Int} (he : e ∈ es)
    {key : Decimal} (h : e.1.sameValue key = true) : hasKeyIn key es = true :=
  List.any_eq_true.mpr ⟨e, he, h⟩

theorem proper_differences {C D : Buckets} (hC : Proper C.entries) (hD : Proper D.entries) :
    Proper (C.differences D) := by
  have hleft : Proper (D.entries.map fun e => (e.1, e.2 - C.cents e.1)) := (proper_map _).mpr hD
  have hright : Proper ((C.entries.filter fun e => !D.hasKey e.1).map fun e => (e.1, -e.2)) :=
    (proper_map _).mpr ⟨fun e he => hC.keys e (List.mem_of_mem_filter he), hC.distinct.filter _⟩
  refine ⟨fun e he => ?_, List.pairwise_append.mpr ⟨hleft.distinct, hright.distinct, ?_⟩⟩
  · rcases List.mem_append.mp he with he | he
    · exact hleft.keys e he
    · exact hright.keys e he
  · intro x hx y hy
    obtain ⟨d, hd, rfl⟩ := List.mem_map.mp hx
    obtain ⟨c, hc, rfl⟩ := List.mem_map.mp hy
    by_contra hne
    have hkey := hasKeyIn_of_mem hd (Bool.eq_true_of_not_eq_false hne)
    simp [hasKey, hkey] at hc

theorem hasKeyIn_map (f : Decimal × Int → Int) (key : Decimal) (es : List (Decimal × Int)) :
    hasKeyIn key (es.map fun e => (e.1, f e)) = hasKeyIn key es := by
  rw [hasKeyIn, List.any_map]
  rfl

theorem centsIn_append (key : Decimal) (es fs : List (Decimal × Int)) :
    centsIn key (es ++ fs) = if hasKeyIn key es then centsIn key es else centsIn key fs := by
  induction es with
  | nil => rfl
  | cons e rest ih =>
    by_cases hk : e.1.sameValue key = true
    · simp [centsIn, hasKeyIn, hk]
    · simp only [List.cons_append, centsIn, hasKeyIn, List.any_cons, hk, if_false,
        Bool.false_eq_true, Bool.false_or] at ih ⊢
      exact ih

theorem centsIn_map_sub (C : Buckets) {key : Decimal} {es : List (Decimal × Int)}
    (h : hasKeyIn key es = true) :
    centsIn key (es.map fun e => (e.1, e.2 - C.cents e.1)) = centsIn key es - C.cents key := by
  induction es with
  | nil => cases h
  | cons e rest ih =>
    by_cases hk : e.1.sameValue key = true
    · simp only [List.map_cons, centsIn, hk, if_true, cents]
      rw [centsIn_congr hk]
    · have hrest : hasKeyIn key rest = true := by simpa [hasKeyIn, hk] using h
      simp only [List.map_cons, centsIn, hk, if_false, Bool.false_eq_true]
      exact ih hrest

theorem centsIn_filter_neg {D : Buckets} {key : Decimal} (h : D.hasKey key = false)
    (es : List (Decimal × Int)) :
    centsIn key ((es.filter fun e => !D.hasKey e.1).map fun e => (e.1, -e.2)) =
      -centsIn key es := by
  induction es with
  | nil => rfl
  | cons e rest ih =>
    by_cases hk : e.1.sameValue key = true
    · have hout : D.hasKey e.1 = false := (hasKeyIn_congr hk D.entries).trans h
      simp [centsIn, hk, hout]
    · by_cases hin : D.hasKey e.1 = true
      · simpa [centsIn, hk, hin] using ih
      · simpa [centsIn, hk, hin] using ih

/-- The difference under a key is what the desired cents are above the current ones. -/
theorem centsIn_differences (C D : Buckets) (key : Decimal) :
    centsIn key (C.differences D) = D.cents key - C.cents key := by
  unfold differences
  rw [centsIn_append, hasKeyIn_map]
  split
  · rename_i hkey
    exact centsIn_map_sub C hkey
  · rename_i hkey
    have hout : D.hasKey key = false := Bool.eq_false_iff.mpr hkey
    have hzero : D.cents key = 0 := centsIn_of_hasKeyIn_false hout
    rw [centsIn_filter_neg hout, hzero, cents, zero_sub]

theorem zeroAt_map (key : Decimal) (f : Decimal × Int → Int) (es : List (Decimal × Int)) :
    zeroAt key (es.map fun e => (e.1, f e)) =
      es.map fun e => (e.1, if e.1.sameValue key then 0 else f e) := by
  rw [zeroAt, List.map_map]
  rfl

theorem filter_addTo {D : Buckets} {key : Decimal} (h : D.hasKey key = true) (n : Int)
    (es : List (Decimal × Int)) :
    ((addTo key n es).filter fun e => !D.hasKey e.1) = es.filter fun e => !D.hasKey e.1 := by
  induction es with
  | nil => simp [addTo, h]
  | cons e rest ih =>
    unfold addTo
    split
    · rename_i hk
      have hin : D.hasKey e.1 = true := (hasKeyIn_congr hk D.entries).trans h
      simp [hin]
    · rw [List.filter_cons, List.filter_cons, ih]

theorem filter_zeroAt (D : Buckets) (key : Decimal) (es : List (Decimal × Int)) :
    ((zeroAt key es).filter fun e => !D.hasKey e.1) =
      zeroAt key (es.filter fun e => !D.hasKey e.1) := by
  rw [zeroAt, List.filter_map]
  rfl

/-- The desired part of the differences, after one of them is booked. -/
theorem differences_add_left {C D : Buckets} (hC : Proper C.entries) (hD : Proper D.entries)
    {e : Decimal × Int} (he : e ∈ C.differences D) :
    (D.entries.map fun d => (d.1, d.2 - (C.add e.1 e.2).cents d.1)) =
      zeroAt e.1 (D.entries.map fun d => (d.1, d.2 - C.cents d.1)) := by
  rw [zeroAt_map]
  refine List.map_congr_left fun d hd => ?_
  rw [cents_add, Decimal.sameValue_comm e.1 d.1]
  by_cases hsame : d.1.sameValue e.1 = true
  · have hmem : (d.1, d.2 - C.cents d.1) ∈ C.differences D :=
      List.mem_append_left _ (List.mem_map.mpr ⟨d, hd, rfl⟩)
    have heq := (proper_differences hC hD).eq_of_sameValue hmem he hsame
    have hcents : d.2 - C.cents d.1 = e.2 := congrArg Prod.snd heq
    rw [if_pos hsame, if_pos hsame]
    congr 1
    omega
  · rw [if_neg hsame, if_neg hsame, add_zero]

/-- The part of the differences that is not desired at all, after one difference is booked. -/
theorem differences_add_right {C D : Buckets} (hC : Proper C.entries) (hD : Proper D.entries)
    {e : Decimal × Int} (he : e ∈ C.differences D) :
    (((C.add e.1 e.2).entries.filter fun c => !D.hasKey c.1).map fun c => (c.1, -c.2)) =
      zeroAt e.1 ((C.entries.filter fun c => !D.hasKey c.1).map fun c => (c.1, -c.2)) := by
  by_cases hkey : D.hasKey e.1 = true
  · have hothers : ∀ c ∈ (C.entries.filter fun c => !D.hasKey c.1).map (fun c => (c.1, -c.2)),
        c.1.sameValue e.1 = false := by
      intro x hx
      obtain ⟨c, hc, rfl⟩ := List.mem_map.mp hx
      by_contra hne
      have hin := (hasKeyIn_congr (Bool.eq_true_of_not_eq_false hne) D.entries).trans hkey
      simp [hasKey, hin] at hc
    rw [add, filter_addTo hkey, zeroAt_of_forall_ne hothers]
  · -- the difference is then that of a current bucket, which its booking empties
    rcases List.mem_append.mp he with he | he
    · obtain ⟨d, hd, rfl⟩ := List.mem_map.mp he
      exact absurd (hasKeyIn_of_mem hd (hD.keys d hd).sameValue_self) hkey
    · obtain ⟨c, hc, rfl⟩ := List.mem_map.mp he
      have hc : c ∈ C.entries := List.mem_of_mem_filter hc
      have hempty : (C.add c.1 (-c.2)).entries = zeroAt c.1 C.entries := addTo_neg hC hc
      rw [hempty, filter_zeroAt, zeroAt_map, zeroAt, List.map_map]
      refine List.map_congr_left fun x _ => ?_
      by_cases hsame : x.1.sameValue c.1 = true <;> simp [hsame]

/-- Booking one difference leaves the others. -/
theorem differences_add {C D : Buckets} (hC : Proper C.entries) (hD : Proper D.entries)
    {e : Decimal × Int} (he : e ∈ C.differences D) :
    (C.add e.1 e.2).differences D = zeroAt e.1 (C.differences D) := by
  have hsplit : zeroAt e.1 (C.differences D) =
      zeroAt e.1 (D.entries.map fun d => (d.1, d.2 - C.cents d.1)) ++
        zeroAt e.1 ((C.entries.filter fun c => !D.hasKey c.1).map fun c => (c.1, -c.2)) :=
    List.map_append
  rw [hsplit, ← differences_add_left hC hD he, ← differences_add_right hC hD he]
  rfl

theorem adjustment_eq {C D : Buckets} (hC : Proper C.entries) (hD : Proper D.entries) :
    C.adjustment D = .ok ((nonzero ((C.differences D).mergeSort fun a b => !(b.1.less a.1))).map
      fun e => ⟨e.2, e.1⟩) := by
  rw [adjustment, sorted_of_proper (proper_differences hC hD)]
  rfl

/-- Booking the first difference leaves the others to be booked. -/
theorem adjustment_concat {h : List Transaction} {t : Transaction} {C D : Buckets} {b : Booking}
    {rest : List Booking} (hfin : FiniteRates h) (hC : ofHistory h = .ok C)
    (hD : Proper D.entries) (hplan : C.adjustment D = .ok (b :: rest)) (hpost : b.IsPostedAs t) :
    ∃ C', ofHistory (h ++ [t]) = .ok C' ∧ C'.adjustment D = .ok rest := by
  have hproper := proper_ofHistory hfin hC
  have hdiff := proper_differences hproper hD
  have hsorted := hdiff.perm (List.mergeSort_perm _ fun a b => !(b.1.less a.1))
  rw [adjustment_eq hproper hD, Except.ok.injEq] at hplan
  obtain ⟨e, es, hsplit, rfl, rfl⟩ := List.map_eq_cons_iff.mp hplan
  have he : e ∈ C.differences D :=
    List.mem_mergeSort.mp (List.mem_of_mem_filter (hsplit ▸ List.mem_cons_self : e ∈ nonzero _))
  have hkey := hdiff.keys e he
  have hrate : t.amount.rate = e.1 := hpost.rate_eq hkey
  have hadd : Proper (C.add e.1 e.2).entries := proper_addTo hkey hproper
  refine ⟨C.add e.1 e.2, ?_, ?_⟩
  · have hC' := ofHistory_concat hC hpost.due (hrate ▸ hkey.2)
    rwa [hrate, hpost.cents] at hC'
  · -- the other differences stay, and in the order they had
    rw [adjustment_eq hadd hD, differences_add hproper hD he, mergeSort_zeroAt,
      nonzero_zeroAt hsorted hsplit]

/-- Where no difference has to be booked, every bucket is as desired. -/
theorem cents_of_adjustment_nil {C D : Buckets} (hC : Proper C.entries) (hD : Proper D.entries)
    (h : C.adjustment D = .ok []) (key : Decimal) : C.cents key = D.cents key := by
  rw [adjustment_eq hC hD, Except.ok.injEq] at h
  have hnone : nonzero (C.differences D) = [] := by
    refine List.filter_eq_nil_iff.mpr fun e he => ?_
    exact List.filter_eq_nil_iff.mp (List.map_eq_nil_iff.mp h) e (List.mem_mergeSort.mpr he)
  have hzero := centsIn_of_nonzero_nil hnone key
  rw [centsIn_differences] at hzero
  omega

end Buckets

/-! ## Voiding unpaid dues -/

/-- Payments that also cover the first voided part lead past it. -/
theorem voidUncovered_covered {dues : List Transaction} {available : Int} {b : Booking}
    {rest : List Booking} (ha : 0 ≤ available) (h : voidUncovered available dues = b :: rest) :
    b.cents ≤ 0 ∧ voidUncovered (available - b.cents) dues = rest := by
  induction dues generalizing available with
  | nil => cases h
  | cons t ts ih =>
    unfold voidUncovered at h
    dsimp only at h
    split_ifs at h with hpos hcover
    · obtain ⟨hb, hrest⟩ := ih ha h
      refine ⟨hb, ?_⟩
      rw [voidUncovered, if_pos hpos, hrest]
    · obtain ⟨hb, hrest⟩ := ih (by omega) h
      refine ⟨hb, ?_⟩
      have hswap : available - b.cents - t.amount.cents = available - t.amount.cents - b.cents := by
        omega
      rw [voidUncovered, if_neg hpos, if_pos (by omega), hswap, hrest]
    · -- the part that is voided here is just what the payments lack
      obtain ⟨rfl, rfl⟩ := List.cons.inj h
      have hb : -(t.amount.cents - max available 0) = available - t.amount.cents := by omega
      have hleft : available - (available - t.amount.cents) = t.amount.cents := by omega
      refine ⟨by dsimp only; omega, ?_⟩
      rw [voidUncovered, if_neg hpos]
      simp only [hb, hleft, le_refl, if_true, sub_self]

/-- Dues that are not positive are never voided. -/
theorem voidUncovered_concat {t : Transaction} (ht : t.amount.cents ≤ 0)
    (dues : List Transaction) (available : Int) :
    voidUncovered available (dues ++ [t]) = voidUncovered available dues := by
  induction dues generalizing available with
  | nil => simp [voidUncovered, ht]
  | cons u us ih => simp only [List.cons_append, voidUncovered, ih]

theorem exists_of_mem_voidUncovered {dues : List Transaction} {available : Int} {b : Booking}
    (h : b ∈ voidUncovered available dues) : ∃ t ∈ dues, b.rate = t.amount.rate := by
  induction dues generalizing available with
  | nil => cases h
  | cons t ts ih =>
    unfold voidUncovered at h
    dsimp only at h
    have htail : (∃ u ∈ ts, b.rate = u.amount.rate) → ∃ u ∈ t :: ts, b.rate = u.amount.rate :=
      fun ⟨u, hu, hb⟩ => ⟨u, by simp [hu], hb⟩
    split_ifs at h with hpos hcover
    · exact htail (ih h)
    · exact htail (ih h)
    · rcases List.mem_cons.mp h with rfl | h
      · exact ⟨t, by simp, rfl⟩
      · exact htail (ih h)

/-- What is voided is taken back. -/
theorem neg_of_mem_voidUncovered {dues : List Transaction} {available : Int} {b : Booking}
    (h : b ∈ voidUncovered available dues) : b.cents < 0 := by
  induction dues generalizing available with
  | nil => cases h
  | cons t ts ih =>
    unfold voidUncovered at h
    dsimp only at h
    split_ifs at h with hpos hcover
    · exact ih h
    · exact ih h
    · rcases List.mem_cons.mp h with rfl | h
      · dsimp only
        omega
      · exact ih h

/-- What a cancellation lets cover the dues. -/
def coverage (history : List Transaction) : Int := paymentsOf history + refundsOf history

theorem coverage_concat {h : List Transaction} {t : Transaction} (hdue : t.isValidDue = true)
    (hneg : t.amount.cents ≤ 0) : coverage (h ++ [t]) = coverage h - t.amount.cents := by
  have hpay := Transaction.isValidPayment_eq_false_of_isValidDue hdue
  unfold coverage refundsOf validDues
  rw [paymentsOf_append, List.filter_append, List.filter_append, centsOf_append]
  rcases Int.lt_or_eq_of_le hneg with hlt | hzero
  · simp [paymentsOf, hpay, hdue, hlt]
    omega
  · simp [paymentsOf, hpay, hdue, hzero]

/-- Voiding the first uncovered part leaves the others to be voided. -/
theorem cancellation_concat {h : List Transaction} {t : Transaction} {b : Booking}
    {rest : List Booking} (hcover : 0 ≤ coverage h) (hplan : cancellation h = b :: rest)
    (hpost : b.IsPostedAs t) : 0 ≤ coverage (h ++ [t]) ∧ cancellation (h ++ [t]) = rest := by
  obtain ⟨hneg, hrest⟩ := voidUncovered_covered hcover hplan
  rw [← hpost.cents] at hneg hrest
  have hstep := coverage_concat (h := h) hpost.due hneg
  refine ⟨by omega, ?_⟩
  have hdues : validDues (h ++ [t]) = validDues h ++ [t] := by simp [validDues, hpost.due]
  change voidUncovered (coverage (h ++ [t])) (validDues (h ++ [t])) = rest
  rw [hstep, hdues, voidUncovered_concat hneg]
  exact hrest

/-! ## Every plan -/

/-- A history on which the plan of a status continues itself. -/
structure Resumable (s : Status) (history : List Transaction) : Prop where
  finite : FiniteRates history
  covered : s = .cancelled → 0 ≤ coverage history

theorem settlement_eq_void_iff (s : Status) : s.settlement = .void ↔ s = .cancelled := by
  cases s <;> simp [Status.settlement]

theorem settlement_eq_compensate_iff (s : Status) :
    s.settlement = .compensate ↔ s ∈ [Status.new, .waiting, .deleted] := by
  cases s <;> simp [Status.settlement]

variable {p : Policy} {a : Attendee} {info : AdminInfo} {s : Status}

/-- The plan of a status, by its settlement. -/
theorem bookingPlan_eq_ok_iff {h : List Transaction} {plan : List Booking} :
    bookingPlan p a info s h = .ok plan ↔
      match s.settlement with
      | .compensate => ∃ C, Buckets.ofHistory h = .ok C ∧ C.compensation = plan
      | .void => cancellation h = plan
      | .adjust => ∃ C, Buckets.ofHistory h = .ok C ∧
          ∃ D, desiredDues p a info = .ok D ∧ C.adjustment D = .ok plan := by
  unfold bookingPlan
  cases s.settlement with
  | compensate => simp only [bind_eq_ok_iff, pure_eq_ok_iff]
  | void => exact pure_eq_ok_iff
  | adjust => simp only [bind_eq_ok_iff]

/-- Where buckets are emptied or moved, the bookings are at keys. -/
theorem isRateKey_of_mem_bookingPlan (hp : p.FiniteRates) {h : List Transaction}
    {plan : List Booking} (hh : FiniteRates h) (hs : s ≠ .cancelled)
    (hplan : bookingPlan p a info s h = .ok plan) : ∀ b ∈ plan, IsRateKey b.rate := by
  intro b hb
  rw [bookingPlan_eq_ok_iff] at hplan
  cases hset : s.settlement <;> rw [hset] at hplan
  case compensate =>
    obtain ⟨C, hC, rfl⟩ := hplan
    obtain ⟨e, he, rfl⟩ := List.mem_map.mp hb
    exact (Buckets.proper_ofHistory hh hC).keys e (List.mem_of_mem_filter he)
  case void => exact absurd ((settlement_eq_void_iff s).mp hset) hs
  case adjust =>
    obtain ⟨C, hC, D, hD, hplan⟩ := hplan
    have hproperC := Buckets.proper_ofHistory hh hC
    have hproperD := Buckets.proper_desiredDues hp hD
    rw [Buckets.adjustment_eq hproperC hproperD, Except.ok.injEq] at hplan
    subst hplan
    obtain ⟨e, he, rfl⟩ := List.mem_map.mp hb
    have hmem := List.mem_mergeSort.mp (List.mem_of_mem_filter he)
    exact (Buckets.proper_differences hproperC hproperD).keys e hmem

/-- The bookings of a plan are at finite rates. -/
theorem isFinite_of_mem_bookingPlan (hp : p.FiniteRates) {h : List Transaction}
    {plan : List Booking} (hh : FiniteRates h) (hplan : bookingPlan p a info s h = .ok plan) :
    ∀ b ∈ plan, b.rate.isFinite = true := by
  intro b hb
  by_cases hs : s = .cancelled
  · subst hs
    obtain rfl : cancellation h = plan := Except.ok.inj hplan
    obtain ⟨t, ht, hrate⟩ := exists_of_mem_voidUncovered hb
    exact hrate ▸ hh t (List.mem_of_mem_filter ht)
  · exact (isRateKey_of_mem_bookingPlan hp hh hs hplan b hb).1

/-- No plan books a zero. -/
theorem ne_zero_of_mem_bookingPlan {h : List Transaction} {plan : List Booking}
    (hplan : bookingPlan p a info s h = .ok plan) : ∀ b ∈ plan, b.cents ≠ 0 := by
  intro b hb
  rw [bookingPlan_eq_ok_iff] at hplan
  cases hs : s.settlement <;> rw [hs] at hplan
  case compensate =>
    obtain ⟨C, -, rfl⟩ := hplan
    obtain ⟨e, he, rfl⟩ := List.mem_map.mp hb
    have hne : e.2 ≠ 0 := by simpa using (List.mem_filter.mp he).2
    exact neg_ne_zero.mpr hne
  case void =>
    subst hplan
    exact (neg_of_mem_voidUncovered hb).ne
  case adjust =>
    obtain ⟨C, -, D, -, hplan⟩ := hplan
    obtain ⟨differences, -, hplan⟩ := bind_eq_ok_iff.mp hplan
    obtain rfl := pure_eq_ok_iff.mp hplan
    obtain ⟨e, he, rfl⟩ := List.mem_map.mp hb
    simpa using (List.mem_filter.mp he).2

/-- Posting the first booking of a plan leaves the rest of the plan. -/
theorem bookingPlan_concat (hp : p.FiniteRates) {h : List Transaction} {t : Transaction}
    {b : Booking} {rest : List Booking} (hh : Resumable s h)
    (hplan : bookingPlan p a info s h = .ok (b :: rest)) (hpost : b.IsPostedAs t) :
    Resumable s (h ++ [t]) ∧ bookingPlan p a info s (h ++ [t]) = .ok rest := by
  have hrate : b.rate.isFinite = true :=
    isFinite_of_mem_bookingPlan hp hh.finite hplan b List.mem_cons_self
  have hfin : FiniteRates (h ++ [t]) := by
    refine finiteRates_append.mpr ⟨hh.finite, fun u hu => ?_⟩
    rw [List.mem_singleton.mp hu]
    exact (isRateKey_of_rateKey hrate hpost.key).1
  rw [bookingPlan_eq_ok_iff] at hplan ⊢
  cases hs : s.settlement <;> rw [hs] at hplan
  case compensate =>
    obtain ⟨C, hC, hplan⟩ := hplan
    have hcancel : s ≠ .cancelled := fun h => by simp [h, Status.settlement] at hs
    exact ⟨⟨hfin, fun h => absurd h hcancel⟩, Buckets.compensation_concat hh.finite hC hplan hpost⟩
  case void =>
    have hcover := hh.covered ((settlement_eq_void_iff s).mp hs)
    obtain ⟨hcover', hrest⟩ := cancellation_concat hcover hplan hpost
    exact ⟨⟨hfin, fun _ => hcover'⟩, hrest⟩
  case adjust =>
    obtain ⟨C, hC, D, hD, hplan⟩ := hplan
    have hcancel : s ≠ .cancelled := fun h => by simp [h, Status.settlement] at hs
    obtain ⟨C', hC', hrest⟩ := Buckets.adjustment_concat hh.finite hC
      (Buckets.proper_desiredDues hp hD) hplan hpost
    exact ⟨⟨hfin, fun h => absurd h hcancel⟩, C', hC', D, hD, hrest⟩

/-- Posting a first part of a plan leaves the other part. -/
theorem bookingPlan_append (hp : p.FiniteRates) {bs rest : List Booking} {ts : List Transaction}
    (hpost : List.Forall₂ Booking.IsPostedAs bs ts) {h : List Transaction} (hh : Resumable s h)
    (hplan : bookingPlan p a info s h = .ok (bs ++ rest)) :
    Resumable s (h ++ ts) ∧ bookingPlan p a info s (h ++ ts) = .ok rest := by
  induction hpost generalizing h with
  | nil =>
    rw [List.append_nil]
    exact ⟨hh, hplan⟩
  | cons hb _ ih =>
    obtain ⟨hh', hplan'⟩ := bookingPlan_concat hp hh hplan hb
    rw [List.append_cons]
    exact ih hh' hplan'

/-! ## Plans that fail -/

theorem error_of_rateKey {rate : Decimal} {e : Failure} (h : rateKey rate = .error e) :
    e = .unusableRate := by
  unfold rateKey at h
  cases hq : rate.quantize 6 28 with
  | none => exact (Except.error.inj (by rwa [hq] at h)).symm
  | some key => simp [hq] at h

/-- A fold of steps that only fail for their rates only fails for a rate. -/
theorem error_of_foldlM {β : Type} {f : Buckets → β → Except Failure Buckets} {e : Failure}
    (hf : ∀ B x, f B x = .error e → e = .unusableRate) {xs : List β} {B : Buckets}
    (h : xs.foldlM f B = .error e) : e = .unusableRate := by
  induction xs generalizing B with
  | nil => cases h
  | cons x rest ih =>
    rcases bind_eq_error_iff.mp h with h | ⟨C, -, h⟩
    · exact hf B x h
    · exact ih h

theorem error_of_ofHistory {h : List Transaction} {e : Failure}
    (he : Buckets.ofHistory h = .error e) : e = .unusableRate := by
  refine error_of_foldlM (fun B t hB => ?_) he
  unfold Buckets.addDue at hB
  split at hB
  · rcases bind_eq_error_iff.mp hB with hB | ⟨key, -, hB⟩
    · exact error_of_rateKey hB
    · cases hB
  · cases hB

theorem error_of_desiredDues {e : Failure} (he : desiredDues p a info = .error e) :
    e = .unusableRate := by
  rcases bind_eq_error_iff.mp he with he | ⟨M, -, he⟩
  · unfold manualDues at he
    split at he
    · cases he
    · rcases bind_eq_error_iff.mp he with he | ⟨key, -, he⟩
      · exact error_of_rateKey he
      · cases he
  · split at he
    · cases he
    · refine error_of_foldlM (fun B x hB => ?_) he
      rcases bind_eq_error_iff.mp hB with hB | ⟨key, -, hB⟩
      · exact error_of_rateKey hB
      · cases hB

theorem error_of_bookingPlan {h : List Transaction} {e : Failure}
    (he : bookingPlan p a info s h = .error e) : e = .unusableRate := by
  unfold bookingPlan at he
  split at he
  · rcases bind_eq_error_iff.mp he with he | ⟨C, -, he⟩
    · exact error_of_ofHistory he
    · cases he
  · cases he
  · rcases bind_eq_error_iff.mp he with he | ⟨C, -, he⟩
    · exact error_of_ofHistory he
    rcases bind_eq_error_iff.mp he with he | ⟨D, -, he⟩
    · exact error_of_desiredDues he
    rcases bind_eq_error_iff.mp he with he | ⟨ds, -, he⟩
    · unfold Buckets.sorted at he
      split at he
      · cases he
      · exact (Except.error.inj he).symm
    · cases he

/-! ## Plans with nothing left -/

/-- The dues are as a status wants them. -/
def Settled (p : Policy) (a : Attendee) (info : AdminInfo) (s : Status)
    (history : List Transaction) : Prop :=
  match s.settlement with
  | .compensate => ∃ C, Buckets.ofHistory history = .ok C ∧ ∀ key, C.cents key = 0
  | .void => True
  | .adjust => ∃ C D, Buckets.ofHistory history = .ok C ∧ desiredDues p a info = .ok D ∧
      ∀ key, C.cents key = D.cents key

/-- When a plan has nothing left, the dues are settled. -/
theorem settled_of_bookingPlan_nil (hp : p.FiniteRates) {h : List Transaction}
    (hh : FiniteRates h) (hplan : bookingPlan p a info s h = .ok []) : Settled p a info s h := by
  rw [bookingPlan_eq_ok_iff] at hplan
  unfold Settled
  cases hs : s.settlement <;> rw [hs] at hplan
  case compensate =>
    obtain ⟨C, hC, hplan⟩ := hplan
    exact ⟨C, hC, Buckets.cents_of_compensation_nil hplan⟩
  case void => trivial
  case adjust =>
    obtain ⟨C, hC, D, hD, hplan⟩ := hplan
    exact ⟨C, D, hC, hD, Buckets.cents_of_adjustment_nil (Buckets.proper_ofHistory hh hC)
      (Buckets.proper_desiredDues hp hD) hplan⟩

end Registration
