import Registration.Proofs.Dues.Plan

/-!
# What plans add up to

The buckets of a history add up to its dues (`total_ofHistory`), and the bookings of an adjustment
add up to what is desired less what there is (`sum_adjustment`). Neither asks for finite rates: that
no two buckets have keys of one value is enough, and a not-a-number is the value of nothing.
-/

namespace Registration

open Number (Decimal)

/-! ## Cents at some rates -/

/-- Every rate passes. -/
def anyRate (_ : Decimal) : Bool := true

/-- The cents of the transactions of a list at some rates. -/
def centsAt (rates : Decimal → Bool) (ts : List Transaction) : Int :=
  centsOf (ts.filter fun t => rates t.amount.rate)

theorem centsOf_eq_sum (ts : List Transaction) : centsOf ts = (ts.map (·.amount.cents)).sum := by
  induction ts with
  | nil => rfl
  | cons t ts ih => rw [centsOf_cons, ih, List.map_cons, List.sum_cons]

theorem centsAt_of_forall {rates : Decimal → Bool} {ts : List Transaction}
    (hall : ∀ t ∈ ts, rates t.amount.rate = true) : centsAt rates ts = centsOf ts := by
  rw [centsAt, List.filter_eq_self.mpr hall]

/-- The valid dues at some rates, as a sum over the whole history. -/
theorem centsAt_validDues (rates : Decimal → Bool) (h : List Transaction) :
    centsAt rates (validDues h) =
      (h.map fun t => if t.isValidDue && rates t.amount.rate then t.amount.cents else 0).sum := by
  rw [centsAt, validDues, List.filter_filter, centsOf_eq_sum, List.sum_map_ite]
  simp [Bool.and_comm]

/-! ## Distinct buckets -/

namespace Buckets

/-- No two keys have one value. -/
def Distinct (es : List (Decimal × Int)) : Prop :=
  es.Pairwise fun e f => e.1.sameValue f.1 = false

theorem total_eq_sum (b : Buckets) : b.total = (b.entries.map (·.2)).sum := by
  obtain ⟨es⟩ := b
  induction es with
  | nil => rfl
  | cons e rest ih =>
    rw [List.map_cons, List.sum_cons, ← ih]
    rfl

/-! ## What folds over buckets keep -/

/-- What each step keeps, the fold keeps. -/
theorem of_foldlM {β : Type} {f : Buckets → β → Except Failure Buckets} {P : Buckets → Prop}
    (hf : ∀ B x C, P B → f B x = .ok C → P C) {xs : List β} {B C : Buckets} (hB : P B)
    (h : xs.foldlM f B = .ok C) : P C := by
  induction xs generalizing B with
  | nil => exact pure_eq_ok_iff.mp h ▸ hB
  | cons x rest ih =>
    obtain ⟨M, hM, h⟩ := bind_eq_ok_iff.mp h
    exact ih (hf B x M hB hM) h

theorem distinct_ofHistory {h : List Transaction} {B : Buckets} (hB : ofHistory h = .ok B) :
    Distinct B.entries := by
  refine of_foldlM (P := fun B => Distinct B.entries) (fun B t C hB hC => ?_) .nil hB
  rcases addDue_cases hC with ⟨-, key, -, rfl⟩ | ⟨-, rfl⟩
  · exact pairwise_addTo hB
  · exact hB

theorem distinct_manualDues {p : Policy} {info : AdminInfo} {B : Buckets}
    (h : manualDues p info = .ok B) : Distinct B.entries := by
  unfold manualDues at h
  split at h
  · obtain rfl := pure_eq_ok_iff.mp h
    exact .nil
  · obtain ⟨key, -, h⟩ := bind_eq_ok_iff.mp h
    obtain rfl := pure_eq_ok_iff.mp h
    exact List.pairwise_singleton _ _

theorem distinct_desiredDues {p : Policy} {a : Attendee} {info : AdminInfo} {B : Buckets}
    (h : desiredDues p a info = .ok B) : Distinct B.entries := by
  unfold desiredDues at h
  obtain ⟨M, hM, h⟩ := bind_eq_ok_iff.mp h
  have hdistinct := distinct_manualDues hM
  split at h
  · exact pure_eq_ok_iff.mp h ▸ hdistinct
  · refine of_foldlM (P := fun B => Distinct B.entries) (fun B e C hB hC => ?_) hdistinct h
    obtain ⟨key, -, hC⟩ := bind_eq_ok_iff.mp hC
    obtain rfl := pure_eq_ok_iff.mp hC
    exact pairwise_addTo hB

/-! ## What folds over buckets add -/

/-- What each step adds to a measure, the fold adds for all items together. -/
theorem measure_foldlM {β : Type} {f : Buckets → β → Except Failure Buckets} {m : Buckets → Int}
    {g : β → Int} (hf : ∀ B x C, f B x = .ok C → m C = m B + g x) {xs : List β} {B C : Buckets}
    (h : xs.foldlM f B = .ok C) : m C = m B + (xs.map g).sum := by
  induction xs generalizing B with
  | nil =>
    rw [← pure_eq_ok_iff.mp h]
    exact (add_zero _).symm
  | cons x rest ih =>
    obtain ⟨M, hM, h⟩ := bind_eq_ok_iff.mp h
    rw [ih h, hf B x M hM, List.map_cons, List.sum_cons, add_assoc]

/-- A measure of which the cents under some rates are a part grows by the valid dues at these
rates. -/
theorem measure_foldlM_addDue (m : Buckets → Int) (rates : Decimal → Bool)
    (hm : ∀ B rate key n, rateKey rate = .ok key →
      m (B.add key n) = m B + if rates rate then n else 0)
    {h : List Transaction} {B C : Buckets} (hC : h.foldlM addDue B = .ok C) :
    m C = m B + centsAt rates (validDues h) := by
  rw [centsAt_validDues]
  refine measure_foldlM (fun B t C hC => ?_) hC
  rcases addDue_cases hC with ⟨hdue, key, hkey, rfl⟩ | ⟨hdue, rfl⟩
  · rw [hm B t.amount.rate key _ hkey, hdue, Bool.true_and]
  · simp [hdue]

/-- The buckets of a history add up to its dues. -/
theorem total_ofHistory {h : List Transaction} {B : Buckets} (hB : ofHistory h = .ok B) :
    B.total = duesOf h := by
  have hadd : ∀ (B : Buckets) rate key n, rateKey rate = .ok key →
      (B.add key n).total = B.total + if anyRate rate then n else 0 :=
    fun B _ key n _ => total_add B key n
  rw [measure_foldlM_addDue total anyRate hadd hB, centsAt_of_forall fun _ _ => rfl]
  exact zero_add _

/-! ## The sum of differences -/

/-- Of distinct buckets at most one has a key of a given value. -/
theorem sum_ite_sameValue {es : List (Decimal × Int)} (h : Distinct es) (key : Decimal) (n : Int) :
    (es.map fun e => if e.1.sameValue key then n else 0).sum =
      if hasKeyIn key es then n else 0 := by
  induction es with
  | nil => rfl
  | cons e rest ih =>
    obtain ⟨hhead, hrest⟩ := List.pairwise_cons.mp h
    rw [List.map_cons, List.sum_cons, ih hrest]
    by_cases hsame : e.1.sameValue key = true
    · have hnone : hasKeyIn key rest = false := by
        refine List.any_eq_false.mpr fun f hf hkey => ?_
        have hboth := Decimal.sameValue_trans hsame (Decimal.sameValue_comm f.1 key ▸ hkey)
        rw [hhead f hf] at hboth
        cases hboth
      have hkey : hasKeyIn key (e :: rest) = true := hasKeyIn_of_mem List.mem_cons_self hsame
      simp [hsame, hnone, hkey]
    · have hkey : hasKeyIn key (e :: rest) = hasKeyIn key rest := by simp [hasKeyIn, hsame]
      simp [hsame, hkey]

theorem centsIn_cons {e : Decimal × Int} {es : List (Decimal × Int)} (h : Distinct (e :: es))
    (key : Decimal) :
    centsIn key (e :: es) = (if e.1.sameValue key then e.2 else 0) + centsIn key es := by
  by_cases hsame : e.1.sameValue key = true
  · have hnone : centsIn key es = 0 := by
      refine centsIn_of_hasKeyIn_false (List.any_eq_false.mpr fun f hf hkey => ?_)
      have hboth := Decimal.sameValue_trans hsame (Decimal.sameValue_comm f.1 key ▸ hkey)
      rw [(List.pairwise_cons.mp h).1 f hf] at hboth
      cases hboth
    simp [centsIn, hsame, hnone]
  · simp [centsIn, hsame]

/-- Every bucket is looked up under one key of the other list, or under none. -/
theorem sum_centsIn_add_sum_filter {C D : List (Decimal × Int)} (hC : Distinct C)
    (hD : Distinct D) :
    (D.map fun d => centsIn d.1 C).sum + ((C.filter fun c => !hasKeyIn c.1 D).map (·.2)).sum =
      (C.map (·.2)).sum := by
  induction C with
  | nil => simp [centsIn]
  | cons c rest ih =>
    have hrest := ih (List.pairwise_cons.mp hC).2
    have hlookup : (D.map fun d => centsIn d.1 (c :: rest)).sum =
        (if hasKeyIn c.1 D then c.2 else 0) + (D.map fun d => centsIn d.1 rest).sum := by
      rw [← sum_ite_sameValue hD, ← List.sum_map_add]
      refine congrArg List.sum (List.map_congr_left fun d _ => ?_)
      rw [centsIn_cons hC, Decimal.sameValue_comm]
    rw [hlookup, List.map_cons, List.sum_cons, ← hrest]
    by_cases hkey : hasKeyIn c.1 D = true
    · simp only [hkey, if_true, Bool.not_true, Bool.false_eq_true, not_false_eq_true,
        List.filter_cons_of_neg]
      omega
    · simp only [hkey, Bool.false_eq_true, if_false, Bool.not_false, List.filter_cons_of_pos,
        List.map_cons, List.sum_cons]
      omega

/-- The differences add up to what is desired less what there is. -/
theorem sum_differences {C D : Buckets} (hC : Distinct C.entries) (hD : Distinct D.entries) :
    ((C.differences D).map (·.2)).sum = D.total - C.total := by
  have hsplit := sum_centsIn_add_sum_filter hC hD
  have hleft : ((D.entries.map fun e => (e.1, e.2 - C.cents e.1)).map (·.2)).sum =
      (D.entries.map (·.2)).sum - (D.entries.map fun d => centsIn d.1 C.entries).sum := by
    rw [List.map_map]
    exact D.entries.sum_hom₂ (· - ·) add_sub_add_comm (sub_zero 0) _ _
  have hright : (((C.entries.filter fun e => !D.hasKey e.1).map fun e => (e.1, -e.2)).map
      (·.2)).sum = -((C.entries.filter fun c => !hasKeyIn c.1 D.entries).map (·.2)).sum := by
    rw [List.map_map, List.sum_neg, List.map_map]
    rfl
  rw [differences, List.map_append, List.sum_append, hleft, hright, total_eq_sum, total_eq_sum]
  omega

theorem sum_nonzero (es : List (Decimal × Int)) :
    ((nonzero es).map (·.2)).sum = (es.map (·.2)).sum := by
  induction es with
  | nil => rfl
  | cons e rest ih =>
    unfold nonzero at ih ⊢
    by_cases hzero : e.2 = 0 <;> simp [hzero, ih]

/-- The bookings of an adjustment make up for what is desired. -/
theorem sum_adjustment {C D : Buckets} {plan : List Booking} (hC : Distinct C.entries)
    (hD : Distinct D.entries) (h : C.adjustment D = .ok plan) :
    (plan.map (·.cents)).sum = D.total - C.total := by
  obtain ⟨es, hes, h⟩ := bind_eq_ok_iff.mp h
  obtain rfl := pure_eq_ok_iff.mp h
  have hperm : es.Perm (C.differences D) := by
    unfold sorted at hes
    split at hes
    · exact Except.ok.inj hes ▸ List.mergeSort_perm _ _
    · cases hes
  rw [List.map_map, ← sum_differences hC hD, ← (hperm.map (·.2)).sum_eq, ← sum_nonzero]
  rfl

end Buckets

/-- Postings charge what their bookings say. -/
theorem duesOf_of_posted {plan : List Booking} {ts : List Transaction}
    (h : List.Forall₂ Booking.IsPostedAs plan ts) : duesOf ts = (plan.map (·.cents)).sum := by
  induction h with
  | nil => rfl
  | @cons b t _ ts hb _ ih =>
    have hone : duesOf [t] = t.amount.cents := by simp [duesOf, validDues, hb.due]
    rw [List.map_cons, List.sum_cons, ← ih, ← hb.cents, ← hone]
    exact duesOf_append [t] ts

end Registration
