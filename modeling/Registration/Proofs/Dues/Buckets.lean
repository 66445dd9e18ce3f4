import Registration.Dues.Plan
import Registration.Proofs.Number.Value

/-!
# Facts about VAT buckets

The view of buckets is `Buckets.cents`. Adding cents changes the one bucket of the key
(`cents_add`). Buckets that come from finite rates are `Proper`: every key has the form of a key,
and no two keys have one value (`proper_ofHistory`). In proper buckets the booking against a bucket
empties that bucket and leaves the others (`addTo_neg`), which is what a plan of bookings lives on
(`nonzero_zeroAt`).
-/

namespace Registration

open Number (Decimal)

/-! ## Keys -/

/-- The decimal has the form of a VAT key. -/
def IsRateKey (d : Decimal) : Prop := d.isFinite = true ∧ rateKey d = .ok d

/-- The rate has a key. -/
def HasKey (rate : Decimal) : Prop := ∃ key, rateKey rate = .ok key

theorem rateKey_eq_ok_iff {rate key : Decimal} :
    rateKey rate = .ok key ↔ rate.quantize 6 28 = some key := by
  unfold rateKey
  cases rate.quantize 6 28 <;> simp

/-- The key of a rate is its own key. -/
theorem rateKey_rateKey {rate key : Decimal} (h : rateKey rate = .ok key) :
    rateKey key = .ok key :=
  rateKey_eq_ok_iff.mpr (Decimal.quantize_quantize (rateKey_eq_ok_iff.mp h))

theorem isRateKey_of_rateKey {rate key : Decimal} (hr : rate.isFinite = true)
    (h : rateKey rate = .ok key) : IsRateKey key :=
  ⟨Decimal.isFinite_of_quantize hr (rateKey_eq_ok_iff.mp h), rateKey_rateKey h⟩

theorem IsRateKey.sameValue_self {d : Decimal} (h : IsRateKey d) : d.sameValue d = true :=
  (Decimal.sameValue_iff_value_eq h.1 h.1).mpr rfl

/-- All VAT rates of a history are finite. -/
def FiniteRates (history : List Transaction) : Prop :=
  ∀ t ∈ history, t.amount.rate.isFinite = true

theorem finiteRates_append {h k : List Transaction} :
    FiniteRates (h ++ k) ↔ FiniteRates h ∧ FiniteRates k := by
  simp [FiniteRates, or_imp, forall_and]

/-! ## Valid dues -/

section ValidDues

variable {t : Transaction} {rest : List Transaction}

theorem validDues_cons_of_pos (h : t.isValidDue = true) :
    validDues (t :: rest) = t :: validDues rest := List.filter_cons_of_pos h

theorem validDues_cons_of_neg (h : t.isValidDue = false) :
    validDues (t :: rest) = validDues rest :=
  List.filter_cons_of_neg (Bool.eq_false_iff.mp h)

end ValidDues

namespace Buckets

/-! ## Adding cents -/

theorem centsIn_addTo (key j : Decimal) (n : Int) (es : List (Decimal × Int)) :
    centsIn j (addTo key n es) = centsIn j es + if key.sameValue j then n else 0 := by
  induction es with
  | nil => simp [addTo, centsIn]
  | cons e rest ih =>
    by_cases hk : e.1.sameValue key = true
    · have hj := Decimal.sameValue_congr hk j
      by_cases hkj : key.sameValue j = true <;> simp [addTo, centsIn, hk, hj, hkj]
    · simp only [addTo, hk, Bool.false_eq_true, if_false, centsIn, ih]
      by_cases hj : e.1.sameValue j = true
      · have hkj : ¬ key.sameValue j = true := fun h =>
          hk (Decimal.sameValue_trans hj (Decimal.sameValue_comm key j ▸ h))
        simp [hj, hkj]
      · simp [hj]

/-- Adding cents under a key changes the bucket of that key only. -/
theorem cents_add (b : Buckets) (key j : Decimal) (n : Int) :
    (b.add key n).cents j = b.cents j + if key.sameValue j then n else 0 :=
  centsIn_addTo key j n b.entries

theorem hasKeyIn_congr {j k : Decimal} (h : j.sameValue k = true) (es : List (Decimal × Int)) :
    hasKeyIn j es = hasKeyIn k es := by
  unfold hasKeyIn
  congr 1
  funext e
  rw [Decimal.sameValue_comm e.1 j, Decimal.sameValue_congr h, Decimal.sameValue_comm]

theorem centsIn_congr {j k : Decimal} (h : j.sameValue k = true) (es : List (Decimal × Int)) :
    centsIn j es = centsIn k es := by
  induction es with
  | nil => rfl
  | cons e rest ih =>
    rw [centsIn, centsIn, ih, Decimal.sameValue_comm e.1 j, Decimal.sameValue_congr h,
      Decimal.sameValue_comm k]

theorem centsIn_of_hasKeyIn_false {j : Decimal} {es : List (Decimal × Int)}
    (h : hasKeyIn j es = false) : centsIn j es = 0 := by
  induction es with
  | nil => rfl
  | cons e rest ih =>
    simp only [hasKeyIn, List.any_cons, Bool.or_eq_false_iff] at h
    rw [centsIn, if_neg (by simp [h.1]), ih h.2]

/-! ## Proper buckets -/

/-- Every key has the form of a key, and no two keys have one value. -/
structure Proper (es : List (Decimal × Int)) : Prop where
  keys : ∀ e ∈ es, IsRateKey e.1
  distinct : es.Pairwise fun e f => e.1.sameValue f.1 = false

theorem proper_nil : Proper [] := ⟨by simp, .nil⟩

theorem proper_cons {e : Decimal × Int} {es : List (Decimal × Int)} :
    Proper (e :: es) ↔ IsRateKey e.1 ∧ (∀ f ∈ es, e.1.sameValue f.1 = false) ∧ Proper es := by
  constructor
  · intro h
    obtain ⟨hhead, htail⟩ := List.pairwise_cons.mp h.distinct
    exact ⟨h.keys e (by simp), hhead, fun f hf => h.keys f (by simp [hf]), htail⟩
  · rintro ⟨hkey, hhead, hes⟩
    refine ⟨fun f hf => ?_, List.pairwise_cons.mpr ⟨hhead, hes.distinct⟩⟩
    rcases List.mem_cons.mp hf with rfl | hf
    · exact hkey
    · exact hes.keys f hf

/-- Whether buckets are proper does not depend on the cents in them. -/
theorem proper_map {es : List (Decimal × Int)} (f : Decimal × Int → Int) :
    Proper (es.map fun e => (e.1, f e)) ↔ Proper es := by
  induction es with
  | nil => rw [List.map_nil]
  | cons e rest ih => rw [List.map_cons, proper_cons, proper_cons, ih, List.forall_mem_map]

theorem mem_addTo_key {key : Decimal} {n : Int} {es : List (Decimal × Int)} {e : Decimal × Int}
    (h : e ∈ addTo key n es) : e.1 = key ∨ ∃ f ∈ es, f.1 = e.1 := by
  induction es with
  | nil =>
    simp only [addTo, List.mem_singleton] at h
    exact .inl (by rw [h])
  | cons x rest ih =>
    unfold addTo at h
    split at h
    · rcases List.mem_cons.mp h with rfl | h
      · exact .inr ⟨x, by simp, rfl⟩
      · exact .inr ⟨e, by simp [h], rfl⟩
    · rcases List.mem_cons.mp h with rfl | h
      · exact .inr ⟨e, by simp, rfl⟩
      · rcases ih h with hk | ⟨f, hf, hfe⟩
        · exact .inl hk
        · exact .inr ⟨f, by simp [hf], hfe⟩

/-- Adding cents under a key makes no second bucket of one value. -/
theorem pairwise_addTo {key : Decimal} {n : Int} {es : List (Decimal × Int)}
    (h : es.Pairwise fun e f => e.1.sameValue f.1 = false) :
    (addTo key n es).Pairwise fun e f => e.1.sameValue f.1 = false := by
  induction es with
  | nil => exact List.pairwise_singleton _ _
  | cons x rest ih =>
    obtain ⟨hhead, hrest⟩ := List.pairwise_cons.mp h
    unfold addTo
    split
    · exact List.pairwise_cons.mpr ⟨hhead, hrest⟩
    · rename_i hne
      refine List.pairwise_cons.mpr ⟨fun f hf => ?_, ih hrest⟩
      rcases mem_addTo_key hf with hk | ⟨g, hg, hgf⟩
      · rw [hk]
        simpa using hne
      · rw [← hgf]
        exact hhead g hg

theorem proper_addTo {key : Decimal} {n : Int} {es : List (Decimal × Int)} (hkey : IsRateKey key)
    (h : Proper es) : Proper (addTo key n es) := by
  refine ⟨fun e he => ?_, pairwise_addTo h.distinct⟩
  rcases mem_addTo_key he with hk | ⟨f, hf, hfe⟩
  · exact hk ▸ hkey
  · exact hfe ▸ h.keys f hf

/-! ## The buckets of a history -/

theorem ofHistory_append (h k : List Transaction) :
    ofHistory (h ++ k) = (ofHistory h).bind fun b => k.foldlM addDue b := by
  rw [ofHistory, ofHistory, List.foldlM_append]
  rfl

/-- One more due adds its cents under the key of its rate. -/
theorem ofHistory_concat {h : List Transaction} {t : Transaction} {b : Buckets} {key : Decimal}
    (hb : ofHistory h = .ok b) (ht : t.isValidDue = true) (hkey : rateKey t.amount.rate = .ok key) :
    ofHistory (h ++ [t]) = .ok (b.add key t.amount.cents) := by
  rw [ofHistory_append, hb]
  simp only [Except.bind, List.foldlM_cons, List.foldlM_nil, addDue, ht, if_true, hkey]
  rfl

/-- A valid due is added under the key of its rate; any other transaction is passed over. -/
theorem addDue_cases {b c : Buckets} {t : Transaction} (h : b.addDue t = .ok c) :
    (t.isValidDue = true ∧
      ∃ key, rateKey t.amount.rate = .ok key ∧ c = b.add key t.amount.cents) ∨
      t.isValidDue = false ∧ c = b := by
  unfold addDue at h
  cases hdue : t.isValidDue with
  | true =>
    rw [if_pos hdue] at h
    obtain ⟨key, hkey, h⟩ := bind_eq_ok_iff.mp h
    exact .inl ⟨rfl, key, hkey, (pure_eq_ok_iff.mp h).symm⟩
  | false =>
    rw [if_neg (Bool.eq_false_iff.mp hdue)] at h
    exact .inr ⟨rfl, (pure_eq_ok_iff.mp h).symm⟩

theorem proper_addDue {b c : Buckets} {t : Transaction} (ht : t.amount.rate.isFinite = true)
    (h : b.addDue t = .ok c) (hb : Proper b.entries) : Proper c.entries := by
  rcases addDue_cases h with ⟨-, key, hkey, rfl⟩ | ⟨-, rfl⟩
  · exact proper_addTo (isRateKey_of_rateKey ht hkey) hb
  · exact hb

theorem proper_foldlM_addDue {h : List Transaction} (hfin : FiniteRates h) {b c : Buckets}
    (hc : h.foldlM addDue b = .ok c) (hb : Proper b.entries) : Proper c.entries := by
  induction h generalizing b with
  | nil => exact pure_eq_ok_iff.mp hc ▸ hb
  | cons t rest ih =>
    obtain ⟨d, hd, hc⟩ := bind_eq_ok_iff.mp hc
    exact ih (fun u hu => hfin u (by simp [hu])) hc (proper_addDue (hfin t (by simp)) hd hb)

/-- Finite rates make proper buckets. -/
theorem proper_ofHistory {h : List Transaction} {b : Buckets} (hfin : FiniteRates h)
    (hb : ofHistory h = .ok b) : Proper b.entries :=
  proper_foldlM_addDue hfin hb proper_nil

/-! ## Emptying a bucket -/

/-- The list with nothing left under a key. -/
def zeroAt (key : Decimal) (es : List (Decimal × Int)) : List (Decimal × Int) :=
  es.map fun e => (e.1, if e.1.sameValue key then 0 else e.2)

theorem zeroAt_of_forall_ne {key : Decimal} {es : List (Decimal × Int)}
    (h : ∀ e ∈ es, e.1.sameValue key = false) : zeroAt key es = es := by
  refine (List.map_congr_left fun e he => ?_).trans (List.map_id es)
  simp [h e he]

/-- The entries of a list that are not zero. -/
def nonzero (es : List (Decimal × Int)) : List (Decimal × Int) := es.filter fun e => e.2 != 0

/-- Emptying the first bucket that is not zero leaves the others as they stand. -/
theorem nonzero_zeroAt {es rest : List (Decimal × Int)} {e : Decimal × Int} (hes : Proper es)
    (h : nonzero es = e :: rest) : nonzero (zeroAt e.1 es) = rest := by
  induction es with
  | nil => simp [nonzero] at h
  | cons x xs ih =>
    obtain ⟨hx, hhead, hxs⟩ := proper_cons.mp hes
    by_cases hzero : x.2 = 0
    · have hskip : nonzero (x :: xs) = nonzero xs := by simp [nonzero, hzero]
      have hskip' : nonzero (zeroAt e.1 (x :: xs)) = nonzero (zeroAt e.1 xs) := by
        simp [nonzero, zeroAt, hzero]
      rw [hskip']
      exact ih hxs (hskip ▸ h)
    · have hkeep : nonzero (x :: xs) = x :: nonzero xs := by simp [nonzero, hzero]
      obtain ⟨rfl, hrest⟩ := List.cons.inj (hkeep.symm.trans h)
      have hothers : zeroAt x.1 xs = xs :=
        zeroAt_of_forall_ne fun f hf => Decimal.sameValue_comm f.1 x.1 ▸ hhead f hf
      have hdrop : nonzero (zeroAt x.1 (x :: xs)) = nonzero (zeroAt x.1 xs) := by
        simp [nonzero, zeroAt, hx.sameValue_self]
      rw [hdrop, hothers, hrest]

/-- Taking a bucket's cents back empties it. -/
theorem addTo_neg {es : List (Decimal × Int)} {e : Decimal × Int} (hes : Proper es) (he : e ∈ es) :
    addTo e.1 (-e.2) es = zeroAt e.1 es := by
  induction es with
  | nil => simp at he
  | cons x xs ih =>
    obtain ⟨hx, hhead, hxs⟩ := proper_cons.mp hes
    rcases List.mem_cons.mp he with rfl | he
    · have hothers : zeroAt e.1 xs = xs :=
        zeroAt_of_forall_ne fun f hf => Decimal.sameValue_comm f.1 e.1 ▸ hhead f hf
      have hsplit : zeroAt e.1 (e :: xs) = (e.1, 0) :: zeroAt e.1 xs := by
        simp [zeroAt, hx.sameValue_self]
      rw [hsplit, hothers]
      simp [addTo, hx.sameValue_self]
    · have hne := hhead e he
      have hsplit : zeroAt e.1 (x :: xs) = x :: zeroAt e.1 xs := by simp [zeroAt, hne]
      rw [hsplit, ← ih hxs he]
      simp [addTo, hne]

/-- Where nothing but zero is left, every bucket counts zero. -/
theorem centsIn_of_nonzero_nil {es : List (Decimal × Int)} (h : nonzero es = []) (key : Decimal) :
    centsIn key es = 0 := by
  induction es with
  | nil => rfl
  | cons e rest ih =>
    by_cases hzero : e.2 = 0
    · have hrest : nonzero rest = [] := by simpa [nonzero, hzero] using h
      rw [centsIn, ih hrest, hzero, ite_self]
    · simp [nonzero, hzero] at h

end Buckets

end Registration
