import Registration.Office.Allocation
import Registration.Proofs.Store.Records

/-!
# Places held in the store

`Store.held` adds up the units of a package over all records, each counted as often as a weight of
its status says. What is counted is a sum over a table, and putting one record changes the sum by
the record alone (`sumOf_insert`): adding, editing and settling a record have each their equation
(`held_addAttendee`, `held_putRecord`, `held_settle`).
-/

namespace Registration

namespace Table

variable {κ α : Type} [DecidableEq κ]

omit [DecidableEq κ] in
theorem sum_map_congr {f g : κ → α → Int} {k : κ} {es : List (κ × α)}
    (h : ∀ j ≠ k, ∀ a, g j a = f j a) (hk : k ∉ es.map (·.1)) :
    (es.map fun e => g e.1 e.2).sum = (es.map fun e => f e.1 e.2).sum := by
  refine congrArg List.sum (List.map_congr_left fun e he => h e.1 ?_ e.2)
  rintro rfl
  exact hk (List.mem_map_of_mem he)

/-- Putting a value under a key takes the key's old share from the sum and adds its new one. -/
theorem sum_put {f g : κ → α → Int} {k : κ} {v : α} {es : List (κ × α)}
    (hdistinct : (es.map (·.1)).Nodup) (h : ∀ j ≠ k, ∀ a, g j a = f j a) :
    ((put k v es).map fun e => g e.1 e.2).sum =
      (es.map fun e => f e.1 e.2).sum - ((find k es).map (f k)).getD 0 + g k v := by
  induction es with
  | nil => simp [put, find]
  | cons e rest ih =>
    obtain ⟨hnew, hrest⟩ := List.nodup_cons.mp hdistinct
    by_cases hk : e.1 = k
    · subst hk
      simp only [put, find, if_true, List.map_cons, List.sum_cons, Option.map_some,
        Option.getD_some, sum_map_congr h hnew]
      omega
    · simp only [put, find, hk, if_false, List.map_cons, List.sum_cons, ih hrest, h e.1 hk]
      omega

/-- The sum of a figure over a table. -/
def sumOf (t : Table κ α) (f : κ → α → Int) : Int := (t.entries.map fun e => f e.1 e.2).sum

theorem sumOf_insert {t : Table κ α} {f g : κ → α → Int} {k : κ} (v : α)
    (h : ∀ j ≠ k, ∀ a, g j a = f j a) :
    (t.insert k v).sumOf g = t.sumOf f - ((t.get? k).map (f k)).getD 0 + g k v :=
  sum_put t.distinct h

end Table

namespace Store

/-- The units of a package that are held, each record's as often as a weight of its status says. -/
def held (s : Store) (code : String) (weight : Status → Int) : Int :=
  s.attendees.sumOf fun id a => a.packageCount code * weight (s.statusOf id)

variable {s : Store}

/-- Where records stand under their numbers, this is the sum over the records. -/
theorem unitsHeld_values (hs : s.WellKept) (code : String) (weight : Status → Int) :
    unitsHeld code (fun a => weight (s.currentStatus a)) s.attendees.values =
      s.held code weight := by
  have hnumbered : ∀ e ∈ s.attendees.entries, e.2.id = e.1 := fun e he =>
    hs.numbered e.1 e.2 (Table.mem_entries_iff.mp he)
  unfold held Table.sumOf Table.values unitsHeld
  revert hnumbered
  generalize s.attendees.entries = es
  intro hnumbered
  induction es with
  | nil => rfl
  | cons e rest ih =>
    have htail := ih fun f hf => hnumbered f (List.mem_cons_of_mem e hf)
    simp only [List.map_cons, List.foldr_cons, List.sum_cons] at htail ⊢
    rw [htail, currentStatus_eq, hnumbered e List.mem_cons_self]

/-- Putting one record, with another status or not, changes what is held by that record alone. -/
theorem held_of_insert (s s' : Store) {k : Int} {a : Attendee}
    (hrecords : s'.attendees = s.attendees.insert k a)
    (hstatus : ∀ id ≠ k, s'.statusOf id = s.statusOf id) (code : String) (weight : Status → Int) :
    s'.held code weight = s.held code weight -
        ((s.attendees.get? k).map fun b => b.packageCount code * weight (s.statusOf k)).getD 0 +
      a.packageCount code * weight (s'.statusOf k) := by
  rw [held, hrecords]
  exact Table.sumOf_insert a fun j hj b => by rw [hstatus j hj]

/-- A record that is added holds what it asks for, as a new registration. -/
theorem held_addAttendee (hs : s.WellKept) (a : Attendee) (code : String)
    (weight : Status → Int) :
    (s.addAttendee a).2.held code weight =
      s.held code weight + a.packageCount code * weight .new := by
  have hfree : s.attendees.get? s.nextId = none := by
    cases h : s.attendees.get? s.nextId with
    | none => rfl
    | some b => exact absurd (hs.given _ _ h) (by omega)
  have hnew : (s.addAttendee a).2.statusOf s.nextId = .new :=
    statusOf_of_changes_nil (hs.unwritten _ (Int.le_refl _))
  rw [held_of_insert s (s.addAttendee a).2 rfl (fun _ _ => rfl), hfree, hnew]
  simp only [Option.map_none, Option.getD_none, sub_zero]
  rfl

/-- An edit changes what is held by the difference of the counts. -/
theorem held_putRecord {a b : Attendee} (hb : s.attendees.get? a.id = some b) (code : String)
    (weight : Status → Int) :
    (s.putRecord a).held code weight = s.held code weight +
      (a.packageCount code * weight (s.statusOf a.id) -
        b.packageCount code * weight (s.statusOf a.id)) := by
  rw [held_of_insert s (s.putRecord a) rfl (fun _ _ => rfl), hb]
  simp only [Option.map_some, Option.getD_some]
  change _ - _ + a.packageCount code * weight (s.statusOf a.id) = _
  omega

/-- A change that keeps the packages changes what is held by the difference of the weights. -/
theorem held_settle {a b : Attendee} {old target : Status} {comment : String} {now : Timestamp}
    (hb : s.attendees.get? a.id = some b) (hpackages : a.packages = b.packages)
    (hold : old = s.statusOf a.id) (code : String) (weight : Status → Int) :
    (s.settle a old target comment now).held code weight = s.held code weight +
      (b.packageCount code * weight target - b.packageCount code * weight old) := by
  have hothers : ∀ id ≠ a.id,
      (s.settle a old target comment now).statusOf id = s.statusOf id := fun id hid => by
    rw [statusOf_settle hold, if_neg hid.symm]
  have hcount : a.packageCount code = b.packageCount code := by
    unfold Attendee.packageCount
    rw [hpackages]
  rw [held_of_insert s _ (attendees_settle s a old target comment now) hothers, hb,
    statusOf_settle hold, if_pos rfl, hcount, ← hold]
  simp only [Option.map_some, Option.getD_some]
  omega

/-! ## Deriving anew -/

theorem unitsHeld_eq_sum (code : String) (weight : Attendee → Int) (as : List Attendee) :
    unitsHeld code weight as = (as.map fun a => a.packageCount code * weight a).sum := by
  induction as with
  | nil => rfl
  | cons a rest ih =>
    rw [List.map_cons, List.sum_cons, ← ih]
    rfl

/-- Leaving out records that hold nothing does not change the sum. -/
theorem unitsHeld_filter {code : String} {weight : Attendee → Int} {keep : Attendee → Bool}
    {as : List Attendee} (h : ∀ a ∈ as, keep a = false → a.packageCount code * weight a = 0) :
    unitsHeld code weight (as.filter keep) = unitsHeld code weight as := by
  induction as with
  | nil => rfl
  | cons a rest ih =>
    have htail := ih fun b hb => h b (List.mem_cons_of_mem a hb)
    by_cases hkeep : keep a = true
    · rw [List.filter_cons_of_pos hkeep, unitsHeld, List.foldr_cons]
      exact congrArg (a.packageCount code * weight a + ·) htail
    · have hzero := h a List.mem_cons_self (Bool.eq_false_iff.mpr hkeep)
      rw [List.filter_cons_of_neg hkeep, htail, unitsHeld, unitsHeld, List.foldr_cons, hzero,
        zero_add]

/-- The records that are counted anew hold all that is held, unless some count is negative. -/
theorem unitsHeld_holding (hs : s.WellKept) {code : String}
    (hcounts : ∀ a ∈ s.attendees.values, 0 ≤ a.packageCount code) {weight : Status → Int}
    (hweight : weight .deleted = 0) :
    unitsHeld code (fun a => weight (s.currentStatus a)) (s.holding code) = s.held code weight := by
  have hperm : (s.holding code).Perm (s.attendees.values.filter fun a =>
      !s.isDeleted a.id && decide (0 < a.packageCount code)) := List.mergeSort_perm _ _
  rw [unitsHeld_eq_sum, (hperm.map _).sum_eq, ← unitsHeld_eq_sum, unitsHeld_filter,
    unitsHeld_values hs]
  intro a ha hout
  simp only [Bool.and_eq_false_iff, Bool.not_eq_false', decide_eq_false_iff_not] at hout
  rcases hout with hdeleted | hnone
  · rw [currentStatus_eq, (hs.noted a.id).mp hdeleted, hweight, mul_zero]
  · have hzero : a.packageCount code = 0 := by
      have := hcounts a ha
      omega
    rw [hzero, zero_mul]

end Store

end Registration
