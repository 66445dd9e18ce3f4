import Mathlib
import Registration.Proofs.Office.Allocation
import Registration.Proofs.Office.Run

/-!
# No effect on a count is lost

Effects on the counts are recorded one at a time, each at once with the reading of its row. A row
gets the sums of the effects that name it (`get?_applyAll_sums`), and tables that got the same
effects in different orders are equal (`applyAll_of_perm`). So calls that record side by side,
taking turns in any order, leave the counts that one call with all their effects leaves, and every
call is answered the rows as they stand after its own effects (`Recorders.exists_run`).
-/

namespace Registration

/-! ## Tables with the same view -/

namespace Table

variable {κ α : Type} [DecidableEq κ]

/-- Tables with the same keys in the same order and the same values are equal. -/
theorem eq_of_get? {t u : Table κ α} (hkeys : t.keys = u.keys) (h : ∀ k, t.get? k = u.get? k) :
    t = u := by
  have hlength : t.entries.length = u.entries.length := by
    simpa [keys] using congrArg List.length hkeys
  refine Table.ext (List.ext_getElem hlength fun i hi hi' => ?_)
  have hkey : t.entries[i].1 = u.entries[i].1 := by
    have hat := congrArg (·[i]?) hkeys
    simpa [keys, hi, hi'] using hat
  refine Prod.ext hkey ?_
  have ht : t.get? t.entries[i].1 = some t.entries[i].2 := mem_entries_iff.mp (List.getElem_mem hi)
  have hu : u.get? u.entries[i].1 = some u.entries[i].2 := mem_entries_iff.mp (List.getElem_mem hi')
  rw [h, hkey, hu] at ht
  exact (Option.some.inj ht).symm

end Table

/-! ## Sums of effects -/

/-- The sum of a figure over the effects that name a row. -/
def sumOn (figure : CountDelta → Int) (key : String × String) (ds : List CountDelta) : Int :=
  ((ds.filter fun d => d.key = key).map figure).sum

section Sums

variable {figure : CountDelta → Int} {key : String × String} {ds es : List CountDelta}

theorem sumOn_of_forall_ne (h : ∀ d ∈ ds, d.key ≠ key) : sumOn figure key ds = 0 := by
  have hnone : (ds.filter fun d => d.key = key) = [] :=
    List.filter_eq_nil_iff.mpr fun d hd => by simpa using h d hd
  rw [sumOn, hnone]
  rfl

theorem sumOn_append : sumOn figure key (ds ++ es) = sumOn figure key ds + sumOn figure key es := by
  simp only [sumOn, List.filter_append, List.map_append, List.sum_append]

theorem sumOn_of_perm (h : ds.Perm es) : sumOn figure key ds = sumOn figure key es :=
  ((h.filter _).map figure).sum_eq

/-- The sum over effects that are split into parts is the sum over the parts. -/
theorem sumOn_of_split {ι : Type} (parts : Finset ι) {part : ι → List CountDelta}
    (h : (ds : Multiset CountDelta) = ∑ i ∈ parts, (part i : Multiset CountDelta)) :
    sumOn figure key ds = ∑ i ∈ parts, sumOn figure key (part i) := by
  induction parts using Finset.cons_induction generalizing ds with
  | empty =>
    obtain rfl := (Multiset.coe_eq_zero ds).mp h
    rfl
  | cons k parts hk ih =>
    rw [Finset.sum_cons, ← Multiset.coe_toList (∑ i ∈ parts, _), Multiset.coe_add,
      Multiset.coe_eq_coe] at h
    rw [Finset.sum_cons, sumOn_of_perm h, sumOn_append, ih (Multiset.coe_toList _)]

end Sums

theorem Count.applyAll_eq (c : Count) (ds : List CountDelta) :
    c.applyAll ds =
      { c with
        pending := c.pending + (ds.map (·.pending)).sum
        attending := c.attending + (ds.map (·.attending)).sum } := by
  induction ds generalizing c with
  | nil => simp [applyAll]
  | cons d rest ih =>
    have hstep : c.applyAll (d :: rest) = (c.apply d).applyAll rest := rfl
    rw [hstep, ih, apply]
    simp only [List.map_cons, List.sum_cons, Int.add_assoc]

namespace CountTable

/-- Each row gets the sums of the effects that name it. -/
theorem get?_applyAll_sums (t : CountTable) (ds : List CountDelta) (key : String × String) :
    (t.applyAll ds).get? key = (t.get? key).map fun c =>
      { c with
        pending := c.pending + sumOn (·.pending) key ds
        attending := c.attending + sumOn (·.attending) key ds } := by
  simp only [get?_applyAll, Count.applyAll_eq, sumOn]

theorem keys_apply (t : CountTable) (d : CountDelta) : (t.apply d).keys = t.keys := by
  unfold apply
  cases h : t.get? d.key with
  | none => rfl
  | some c => rw [Table.keys_insert, if_pos (by rw [Table.contains, h]; rfl)]

theorem keys_applyAll (t : CountTable) (ds : List CountDelta) : (t.applyAll ds).keys = t.keys := by
  induction ds generalizing t with
  | nil => rfl
  | cons d rest ih => exact (ih (t.apply d)).trans (t.keys_apply d)

/-- The order of effects does not matter, not even for the order of the rows. -/
theorem applyAll_of_perm {ds es : List CountDelta} (h : ds.Perm es) (t : CountTable) :
    t.applyAll ds = t.applyAll es :=
  Table.eq_of_get? (by rw [keys_applyAll, keys_applyAll]) (get?_applyAll_of_perm h t)

theorem applyAll_concat (t : CountTable) (ds : List CountDelta) (d : CountDelta) :
    t.applyAll (ds ++ [d]) = (t.applyAll ds).apply d := t.applyAll_append ds [d]

theorem covers_applyAll {t : CountTable} {ds es : List CountDelta} :
    (t.applyAll es).Covers ds ↔ t.Covers ds := by
  simp [Covers, get?_applyAll]

end CountTable

/-- Recording an effect on a row that is there answers the row after it. -/
theorem Desk.record_of_get? {o : Office} {d : CountDelta} {c : Count}
    (h : o.store.counts.get? d.key = some c) :
    (record d).answer o = .ok (c.apply d) ∧
      (record d).after o = o.withCounts (o.store.counts.apply d) := by
  have hrun : (record d).run o =
      .ok (c.apply d) (o.withCounts (o.store.counts.apply d)) := by
    change (require (o.store.counts.add d) >>= fun r => do
      setCounts r.2
      pure r.1).run o = _
    rw [CountTable.add_of_get? h]
    rfl
  rw [answer, after, hrun]
  exact ⟨rfl, rfl⟩

/-! ## Calls side by side -/

/-- Calls that record side by side: the effects that each has left to record, and the rows that it
has been answered. -/
structure Recorders (ι : Type) where
  left : ι → List CountDelta
  returned : ι → List Count

namespace Recorders

variable {ι : Type} [DecidableEq ι]

/-- One call has recorded an effect: it has the others left, and one answer more. -/
def advance (r : Recorders ι) (i : ι) (rest : List CountDelta) (count : Count) : Recorders ι :=
  ⟨Function.update r.left i rest, Function.update r.returned i (r.returned i ++ [count])⟩

@[simp] theorem left_advance_self (r : Recorders ι) (i : ι) (rest : List CountDelta)
    (count : Count) : (r.advance i rest count).left i = rest := Function.update_self ..

@[simp] theorem returned_advance_self (r : Recorders ι) (i : ι) (rest : List CountDelta)
    (count : Count) : (r.advance i rest count).returned i = r.returned i ++ [count] :=
  Function.update_self ..

theorem left_advance_of_ne (r : Recorders ι) {i j : ι} (h : j ≠ i) (rest : List CountDelta)
    (count : Count) : (r.advance i rest count).left j = r.left j := Function.update_of_ne h ..

theorem returned_advance_of_ne (r : Recorders ι) {i j : ι} (h : j ≠ i) (rest : List CountDelta)
    (count : Count) : (r.advance i rest count).returned j = r.returned j :=
  Function.update_of_ne h ..

/-- A turn of one call: it records its next effect. -/
def turn (r : Recorders ι) (i : ι) : Desk (Recorders ι) :=
  match r.left i with
  | [] => pure r
  | d :: rest => do
    let count ← Desk.record d
    pure (r.advance i rest count)

/-- The calls after turns. -/
def run (calls : ι → List CountDelta) (turns : List ι) : Desk (Recorders ι) :=
  turns.foldlM turn ⟨calls, fun _ => []⟩

theorem run_concat (calls : ι → List CountDelta) (turns : List ι) (i : ι) :
    run calls (turns ++ [i]) = run calls turns >>= fun r => r.turn i := by
  rw [run, List.foldlM_append]
  simp only [List.foldlM_cons, List.foldlM_nil, bind_pure]
  rfl

/-- A call that is alone records its effects in order. -/
theorem run_alone (ds : List CountDelta) (k : ℕ) :
    run (fun _ : Unit => ds) (List.replicate k ()) =
      Desk.recordAll (ds.take k) >>= fun counts =>
        pure ⟨fun _ => ds.drop k, fun _ => counts⟩ := by
  have hfold : ∀ cs : List Count,
      (List.replicate k ()).foldlM turn ⟨fun _ => ds, fun _ => cs⟩ =
        Desk.recordAll (ds.take k) >>= fun counts =>
          (pure ⟨fun _ => ds.drop k, fun _ => cs ++ counts⟩ : Desk (Recorders Unit)) := by
    induction k generalizing ds with
    | zero => simp [Desk.recordAll]
    | succ k ih =>
      intro cs
      rw [List.replicate_succ, List.foldlM_cons]
      cases ds with
      | nil =>
        have hidle : turn ⟨fun _ : Unit => [], fun _ => cs⟩ () =
            pure ⟨fun _ => [], fun _ => cs⟩ := rfl
        rw [hidle, pure_bind, ih]
        simp
      | cons d rest =>
        have hupdate {α : Type} (f : Unit → α) (a : α) : Function.update f () a = fun _ => a :=
          funext fun _ => Function.update_self ..
        simp only [turn, advance, hupdate, bind_assoc, pure_bind, ih, List.take_succ_cons,
          List.drop_succ_cons, Desk.recordAll, List.append_assoc, List.singleton_append]
  rw [run, hfold]
  simp only [List.nil_append]

/-! ## What turns come to -/

/-- The effects that calls record in turns: of each call the first ones, as many as it has turns. -/
def effectsIn [Fintype ι] (calls : ι → List CountDelta) (turns : List ι) : Multiset CountDelta :=
  ∑ i, ((calls i).take (turns.count i) : Multiset CountDelta)

/-- What calls have come to after turns that began in an office: each has recorded as many of its
effects as it had turns, these are in the counts, and each answer is the row as it stood after the
turn. -/
structure Reached [Fintype ι] (o : Office) (calls : ι → List CountDelta) (turns : List ι)
    (r : Recorders ι) (o' : Office) : Prop where
  left : ∀ i, r.left i = (calls i).drop (turns.count i)
  length : ∀ i, (r.returned i).length = min (turns.count i) (calls i).length
  applied : ∃ done : List CountDelta, done = effectsIn calls turns ∧
    o' = o.withCounts (o.store.counts.applyAll done)
  returned : ∀ before i d, before ++ [i] <+: turns → (calls i)[before.count i]? = some d →
    (r.returned i)[before.count i]? =
      ((run calls (before ++ [i])).after o).store.counts.get? d.key

theorem count_concat_self (turns : List ι) (k : ι) :
    (turns ++ [k]).count k = turns.count k + 1 := by
  rw [List.count_append, List.count_singleton_self]

theorem count_concat_of_ne {i k : ι} (h : i ≠ k) (turns : List ι) :
    (turns ++ [k]).count i = turns.count i := by
  rw [List.count_append, List.count_singleton, if_neg (by simpa using h.symm), Nat.add_zero]

theorem turn_of_cons {o : Office} {r : Recorders ι} {k : ι} {d : CountDelta}
    {rest : List CountDelta} {c : Count} (hleft : r.left k = d :: rest)
    (hrow : o.store.counts.get? d.key = some c) :
    (r.turn k).answer o = .ok (r.advance k rest (c.apply d)) ∧
      (r.turn k).after o = o.withCounts (o.store.counts.apply d) := by
  obtain ⟨hanswer, hafter⟩ := Desk.record_of_get? hrow
  obtain ⟨hnext, hend⟩ := Desk.bind_of_ok hanswer fun count =>
    (pure (r.advance k rest count) : Desk (Recorders ι))
  have hturn : r.turn k = Desk.record d >>= fun count => pure (r.advance k rest count) := by
    rw [turn, hleft]
  rw [hturn]
  exact ⟨hnext, hend.trans hafter⟩

variable [Fintype ι]

/-- A turn adds the next effect of the call, if there is one. -/
theorem effectsIn_concat (calls : ι → List CountDelta) (turns : List ι) (k : ι) :
    effectsIn calls (turns ++ [k]) =
      effectsIn calls turns + ((calls k)[turns.count k]?.toList : Multiset CountDelta) := by
  have hpart : ∀ i, ((calls i).take ((turns ++ [k]).count i) : Multiset CountDelta) =
      (calls i).take (turns.count i) +
        if i = k then ((calls k)[turns.count k]?.toList : Multiset CountDelta) else 0 := by
    intro i
    by_cases hik : i = k
    · subst hik
      rw [if_pos rfl, count_concat_self, List.take_add_one, Multiset.coe_add]
    · rw [if_neg hik, count_concat_of_ne hik, add_zero]
  simp only [effectsIn, hpart, Finset.sum_add_distrib, Finset.sum_ite_eq', Finset.mem_univ, if_true]

variable {o o' : Office} {calls : ι → List CountDelta} {turns : List ι} {r : Recorders ι} {k : ι}

/-- A turn of a call that has nothing left changes nothing. -/
theorem Reached.idle (h : Reached o calls turns r o') (hleft : r.left k = []) :
    Reached o calls (turns ++ [k]) r o' := by
  have hspent : (calls k).length ≤ turns.count k :=
    List.drop_eq_nil_iff.mp ((h.left k).symm.trans hleft)
  have hnext : (calls k)[turns.count k]? = none := List.getElem?_eq_none hspent
  refine ⟨fun i => ?_, fun i => ?_, ?_, fun before i d hprefix hd => ?_⟩
  · by_cases hik : i = k
    · subst hik
      rw [hleft, count_concat_self, List.drop_eq_nil_of_le (by omega)]
    · rw [h.left, count_concat_of_ne hik]
  · by_cases hik : i = k
    · subst hik
      rw [h.length, count_concat_self]
      omega
    · rw [h.length, count_concat_of_ne hik]
  · obtain ⟨done, hdone, hcounts⟩ := h.applied
    refine ⟨done, ?_, hcounts⟩
    rw [hdone, effectsIn_concat, hnext]
    exact (add_zero _).symm
  · rcases List.prefix_concat_iff.mp hprefix with hlast | hearlier
    · obtain ⟨rfl, hik⟩ := List.append_inj' hlast rfl
      obtain rfl := List.singleton_inj.mp hik
      cases hnext.symm.trans hd
    · exact h.returned before i d hearlier hd

/-- A turn in which an effect is recorded. -/
theorem Reached.recorded (h : Reached o calls turns r o') {d : CountDelta} {rest : List CountDelta}
    {c : Count} (hleft : r.left k = d :: rest) (hrow : o'.store.counts.get? d.key = some c)
    (hrun : (run calls (turns ++ [k])).after o = o'.withCounts (o'.store.counts.apply d)) :
    Reached o calls (turns ++ [k]) (r.advance k rest (c.apply d))
      (o'.withCounts (o'.store.counts.apply d)) := by
  have hdrop : (calls k).drop (turns.count k) = d :: rest := (h.left k).symm.trans hleft
  have hnext : (calls k)[turns.count k]? = some d := by
    rw [← List.head?_drop, hdrop, List.head?_cons]
  have hlt : turns.count k < (calls k).length := (List.getElem?_eq_some_iff.mp hnext).1
  have hreturned : (r.returned k).length = turns.count k := by
    rw [h.length]
    omega
  refine ⟨fun i => ?_, fun i => ?_, ?_, fun before i e hprefix he => ?_⟩
  · by_cases hik : i = k
    · subst hik
      rw [left_advance_self, count_concat_self, ← List.drop_drop, hdrop, List.drop_one,
        List.tail_cons]
    · rw [left_advance_of_ne r hik, h.left, count_concat_of_ne hik]
  · by_cases hik : i = k
    · subst hik
      rw [returned_advance_self, List.length_append, List.length_singleton, hreturned,
        count_concat_self]
      omega
    · rw [returned_advance_of_ne r hik, h.length, count_concat_of_ne hik]
  · obtain ⟨done, hdone, rfl⟩ := h.applied
    refine ⟨done ++ [d], ?_, by rw [CountTable.applyAll_concat]; rfl⟩
    rw [← Multiset.coe_add, hdone, effectsIn_concat, hnext]
    rfl
  · rcases List.prefix_concat_iff.mp hprefix with hlast | hearlier
    · obtain ⟨rfl, hik⟩ := List.append_inj' hlast rfl
      obtain rfl := List.singleton_inj.mp hik
      have hed : e = d := Option.some.inj (he.symm.trans hnext)
      rw [returned_advance_self, ← hreturned, List.getElem?_concat_length, hrun, hed]
      simp [Office.withCounts, CountTable.get?_apply, hrow]
    · rw [← h.returned before i e hearlier he]
      by_cases hik : i = k
      · subst hik
        have hearly : before.count i < turns.count i := by
          have := hearlier.sublist.count_le i
          rw [count_concat_self] at this
          omega
        rw [returned_advance_self, List.getElem?_append_left (by omega)]
      · rw [returned_advance_of_ne r hik]

/-- Where every row is there, all turns succeed. -/
theorem exists_reached (hcovers : ∀ i, o.store.counts.Covers (calls i)) (turns : List ι) :
    ∃ r, (run calls turns).answer o = .ok r ∧
      Reached o calls turns r ((run calls turns).after o) := by
  induction turns using List.reverseRecOn with
  | nil =>
    refine ⟨_, rfl, fun i => rfl, fun i => ?_, ⟨[], ?_, rfl⟩, fun before i d h => ?_⟩
    · rw [List.count_nil, Nat.zero_min]
      rfl
    · exact (Finset.sum_eq_zero fun i _ => by rw [List.count_nil, List.take_zero]; rfl).symm
    · simp at h
  | append_singleton turns k ih =>
    obtain ⟨r, hanswer, hreached⟩ := ih
    obtain ⟨hnext, hafter⟩ := Desk.bind_of_ok hanswer fun r => r.turn k
    rw [← run_concat] at hnext hafter
    cases hleft : r.left k with
    | nil =>
      have hidle : r.turn k = pure r := by rw [turn, hleft]
      rw [hidle] at hnext hafter
      exact ⟨r, hnext, hafter ▸ hreached.idle hleft⟩
    | cons d rest =>
      have hd : d ∈ calls k := List.mem_of_mem_drop (by rw [← hreached.left, hleft]; simp)
      obtain ⟨done, -, hcounts⟩ := hreached.applied
      have hrow : (((run calls turns).after o).store.counts.get? d.key).isSome := by
        rw [hcounts]
        exact CountTable.covers_applyAll.mpr (hcovers k) d hd
      obtain ⟨c, hrow⟩ := Option.isSome_iff_exists.mp hrow
      obtain ⟨hturn, hend⟩ := turn_of_cons hleft hrow
      refine ⟨_, hnext.trans hturn, ?_⟩
      rw [hafter, hend]
      exact hreached.recorded hleft hrow (hafter.trans hend)

/-- Calls over which effects are split get on together. After any turns a row has the sums of the
effects that were recorded on it, and after all turns that are needed the counts are those that one
call with all the effects leaves. -/
theorem exists_run {ds : List CountDelta} (h : o.store.counts.Covers ds)
    (hsplit : ∑ i, (calls i : Multiset CountDelta) = ds) (turns : List ι) :
    ∃ r t, (run calls turns).answer o = .ok r ∧ (run calls turns).after o = o.withCounts t ∧
      (∀ key, t.get? key = (o.store.counts.get? key).map fun c =>
        { c with
          pending := c.pending + ∑ i, sumOn (·.pending) key ((calls i).take (turns.count i))
          attending := c.attending +
            ∑ i, sumOn (·.attending) key ((calls i).take (turns.count i)) }) ∧
      ((∀ i, (calls i).length ≤ turns.count i) → t = o.store.counts.applyAll ds) ∧
      (∀ i, r.left i = (calls i).drop (turns.count i) ∧
        (r.returned i).length = min (turns.count i) (calls i).length) ∧
      ∀ before i d, before ++ [i] <+: turns → (calls i)[before.count i]? = some d →
        (r.returned i)[before.count i]? =
          ((run calls (before ++ [i])).after o).store.counts.get? d.key := by
  have hcovers : ∀ i, o.store.counts.Covers (calls i) := fun i d hd => h d <| by
    have hmem : d ∈ ∑ i, (calls i : Multiset CountDelta) :=
      Multiset.mem_sum.mpr ⟨i, Finset.mem_univ i, Multiset.mem_coe.mpr hd⟩
    rwa [hsplit, Multiset.mem_coe] at hmem
  obtain ⟨r, hanswer, hreached⟩ := exists_reached hcovers turns
  obtain ⟨done, hdone, hafter⟩ := hreached.applied
  refine ⟨r, _, hanswer, hafter, fun key => ?_, fun hturns => ?_,
    fun i => ⟨hreached.left i, hreached.length i⟩, hreached.returned⟩
  · rw [CountTable.get?_applyAll_sums, sumOn_of_split _ hdone, sumOn_of_split _ hdone]
  · have hall : effectsIn calls turns = ∑ i, (calls i : Multiset CountDelta) :=
      Finset.sum_congr rfl fun i _ => by rw [List.take_of_length_le (hturns i)]
    rw [hall, hsplit, Multiset.coe_eq_coe] at hdone
    exact CountTable.applyAll_of_perm hdone _

end Recorders

namespace Desk

variable {o : Office} {ds : List CountDelta}

/-- Work that gives an answer in another form. -/
theorem bind_pure_answer {α β : Type} (x : Desk α) (f : α → β) (o : Office) :
    (x >>= fun a => pure (f a)).answer o = (x.answer o).map f ∧
      (x >>= fun a => pure (f a)).after o = x.after o := by
  cases hx : x.answer o with
  | ok a => exact bind_of_ok hx _
  | error e => exact bind_of_error hx _

/-- One call answers each row as it stands after the effects up to its own. -/
theorem exists_recordAll (h : o.store.counts.Covers ds) :
    ∃ counts, (recordAll ds).answer o = .ok counts ∧
      (recordAll ds).after o = o.withCounts (o.store.counts.applyAll ds) ∧
      counts.length = ds.length ∧
      ∀ i d, ds[i]? = some d →
        counts[i]? = ((recordAll (ds.take (i + 1))).after o).store.counts.get? d.key := by
  have halone (k : ℕ) := bind_pure_answer (recordAll (ds.take k))
    (fun counts => (⟨fun _ => ds.drop k, fun _ => counts⟩ : Recorders Unit)) o
  simp only [← Recorders.run_alone] at halone
  have hsplit : ∑ _i : Unit, (ds : Multiset CountDelta) = ds := by simp
  have hturns : ∀ i : Unit, ds.length ≤ (List.replicate ds.length ()).count i := by simp
  obtain ⟨r, t, hanswer, hafter, -, hall, hdone, hreturned⟩ :=
    Recorders.exists_run h hsplit (List.replicate ds.length ())
  obtain rfl := hall hturns
  rw [(halone ds.length).2, List.take_length] at hafter
  rw [(halone ds.length).1, List.take_length] at hanswer
  cases hcounts : (recordAll ds).answer o with
  | error e =>
    rw [hcounts] at hanswer
    cases hanswer
  | ok counts =>
    rw [hcounts] at hanswer
    obtain rfl := Except.ok.inj hanswer
    refine ⟨counts, rfl, hafter, by simpa using (hdone ()).2, fun i d hd => ?_⟩
    have hi : i < ds.length := (List.getElem?_eq_some_iff.mp hd).1
    have hturn : List.replicate i () ++ [()] <+: List.replicate ds.length () := by
      rw [← List.replicate_succ', List.prefix_replicate_iff]
      simpa using hi
    have hat := hreturned (List.replicate i ()) () d hturn (by simpa using hd)
    rw [← List.replicate_succ', (halone (i + 1)).2, List.count_replicate_self] at hat
    exact hat

/-- Let every effect name a row. Then recording them changes each row by the sums of the effects
that name it and nothing else, whatever their order, and answers each row as it stands after the
effects up to its own. The effects may be split over any number of calls that record side by side:
after any turns the rows have the sums of what was recorded so far, the answer to each turn is its
row as it then stands, and when all is recorded, the counts come to the same. -/
theorem recordAll_loses_nothing (h : o.store.counts.Covers ds) :
    ∃ counts t, (recordAll ds).answer o = .ok counts ∧
      (recordAll ds).after o = o.withCounts t ∧ t.keys = o.store.counts.keys ∧
      (∀ key, t.get? key = (o.store.counts.get? key).map fun c =>
        { c with
          pending := c.pending + sumOn (·.pending) key ds
          attending := c.attending + sumOn (·.attending) key ds }) ∧
      (∀ key, (∀ d ∈ ds, d.key ≠ key) → t.get? key = o.store.counts.get? key) ∧
      counts.length = ds.length ∧
      (∀ i d, ds[i]? = some d →
        counts[i]? = ((recordAll (ds.take (i + 1))).after o).store.counts.get? d.key) ∧
      (∀ es, ds.Perm es → (∃ counts', (recordAll es).answer o = .ok counts') ∧
        (recordAll es).after o = o.withCounts t) ∧
      ∀ (ι : Type) [Fintype ι] [DecidableEq ι] (calls : ι → List CountDelta) (turns : List ι),
        ∑ i, (calls i : Multiset CountDelta) = ds →
        ∃ r t', (Recorders.run calls turns).answer o = .ok r ∧
          (Recorders.run calls turns).after o = o.withCounts t' ∧
          (∀ key, t'.get? key = (o.store.counts.get? key).map fun c =>
            { c with
              pending := c.pending + ∑ i, sumOn (·.pending) key ((calls i).take (turns.count i))
              attending := c.attending +
                ∑ i, sumOn (·.attending) key ((calls i).take (turns.count i)) }) ∧
          ((∀ i, (calls i).length ≤ turns.count i) → t' = t) ∧
          (∀ i, r.left i = (calls i).drop (turns.count i) ∧
            (r.returned i).length = min (turns.count i) (calls i).length) ∧
          ∀ before i d, before ++ [i] <+: turns → (calls i)[before.count i]? = some d →
            (r.returned i)[before.count i]? =
              ((Recorders.run calls (before ++ [i])).after o).store.counts.get? d.key := by
  obtain ⟨counts, hanswer, hafter, hlength, hcounts⟩ := exists_recordAll h
  refine ⟨counts, _, hanswer, hafter, CountTable.keys_applyAll _ ds,
    CountTable.get?_applyAll_sums _ ds, fun key hkey => ?_, hlength, hcounts, fun es hperm => ?_,
    fun ι _ _ calls turns hsplit => Recorders.exists_run h hsplit turns⟩
  · rw [CountTable.get?_applyAll_sums, sumOn_of_forall_ne hkey, sumOn_of_forall_ne hkey]
    simp only [Int.add_zero]
    exact Option.map_id'
  · have hes : o.store.counts.Covers es := fun d hd => h d (hperm.mem_iff.mpr hd)
    obtain ⟨counts', hanswer', hafter', -⟩ := exists_recordAll hes
    exact ⟨⟨counts', hanswer'⟩, by rw [hafter', CountTable.applyAll_of_perm hperm]⟩

/-- One row is changed from two calls, between whose turns the other call has its turn. -/
theorem recordAll_loses_nothing_shared :
    let o := Office.openingWith
      (.ofList [((packageArea, "day"), ⟨packageArea, "day", 1, 0⟩),
        ((packageArea, "stage"), ⟨packageArea, "stage", 0, 0⟩)]) newYear
    let approved : CountDelta := ⟨packageArea, "day", -1, 1⟩
    let added : CountDelta := ⟨packageArea, "day", 1, 0⟩
    let staged : CountDelta := ⟨packageArea, "stage", 2, 0⟩
    let calls : Bool → List CountDelta := fun i => if i then [approved] else [added, staged]
    o.store.counts.Covers [approved, staged, added] ∧
      ∃ t, (recordAll [approved, staged, added]).after o = o.withCounts t ∧
        (recordAll [added, approved, staged]).after o = o.withCounts t ∧
        (Recorders.run calls [false, true, false]).after o = o.withCounts t ∧
        t.get? (packageArea, "day") = some ⟨packageArea, "day", 1, 1⟩ := by
  intro o approved added staged calls
  have hcovers : o.store.counts.Covers [approved, staged, added] := by
    unfold CountTable.Covers
    decide
  obtain ⟨-, t, -, hafter, -, hrows, -, -, -, hperm, hcalls⟩ := recordAll_loses_nothing hcovers
  obtain ⟨r, t', -, hrun, -, hall, -⟩ := hcalls Bool calls [false, true, false] (by decide)
  obtain rfl := hall (by decide)
  refine ⟨hcovers, t', hafter, (hperm _ (by decide)).2, hrun, ?_⟩
  rw [hrows]
  decide

end Desk

end Registration
