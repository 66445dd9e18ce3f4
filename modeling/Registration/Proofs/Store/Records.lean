import Mathlib.Tactic
import Registration.Store.Records

/-!
# How records change

A change of a registration puts its record and, with a new status, adds to its history and notes or
takes back its deletion (`Store.settle`). `Store.statusOf` is the status by number. A store is
`Numbered` if its records stand under their numbers, and `WellKept` if numbers, histories and notes
of deletion fit together; every change of the store keeps it so.
-/

namespace Registration

namespace Store

/-- The store with a record under its number. -/
def putRecord (s : Store) (a : Attendee) : Store :=
  { s with attendees := s.attendees.insert a.id a }

theorem putAttendee_of_get? {s : Store} {a b : Attendee} (h : s.attendees.get? a.id = some b) :
    s.putAttendee a = .ok (s.putRecord a) := by
  simp [putAttendee, Table.contains, h, putRecord]

theorem eq_of_putAttendee {s t : Store} {a : Attendee} (h : s.putAttendee a = .ok t) :
    t = s.putRecord a := by
  unfold putAttendee at h
  split at h
  · exact (Except.ok.inj h).symm
  · cases h

/-- Putting a record that is stored already changes nothing. -/
theorem putRecord_of_get? {s : Store} {a : Attendee} (h : s.attendees.get? a.id = some a) :
    s.putRecord a = s := by
  rw [putRecord, Table.insert_of_get? h]

/-- The store in which a new status is entered and the note of deletion agrees with it. -/
def enter (s : Store) (id : Int) (old target : Status) (comment : String) (now : Timestamp) :
    Store :=
  let s := s.addChange ⟨id, target, comment, now⟩
  if target = .deleted then s.delete id
  else if old = .deleted then s.undelete id
  else s

/-- The store after a change that came to a record and a status. -/
def settle (s : Store) (a : Attendee) (old target : Status) (comment : String)
    (now : Timestamp) : Store :=
  if target = old then s.putRecord a else (s.putRecord a).enter a.id old target comment now

/-- Beside the notes of deletion, entering a status changes the history only. -/
theorem enter_eq (s : Store) (id : Int) (old target : Status) (comment : String)
    (now : Timestamp) : ∃ deleted, s.enter id old target comment now =
      { s.addChange ⟨id, target, comment, now⟩ with deleted := deleted } := by
  unfold enter
  dsimp only
  split_ifs
  · unfold delete
    split_ifs
    · exact ⟨_, rfl⟩
    · exact ⟨_, rfl⟩
  · exact ⟨_, rfl⟩
  · exact ⟨_, rfl⟩

variable (s : Store) (a : Attendee) (old target : Status) (comment : String) (now : Timestamp)

/-- Settling puts the record and touches histories and notes of deletion. -/
theorem settle_eq : ∃ histories deleted, s.settle a old target comment now =
    { s.putRecord a with histories := histories, deleted := deleted } := by
  unfold settle
  split_ifs
  · exact ⟨_, _, rfl⟩
  · obtain ⟨deleted, h⟩ := (s.putRecord a).enter_eq a.id old target comment now
    exact ⟨_, deleted, h⟩

theorem attendees_settle :
    (s.settle a old target comment now).attendees = s.attendees.insert a.id a := by
  obtain ⟨_, _, h⟩ := s.settle_eq a old target comment now
  rw [h]
  rfl

theorem counts_settle : (s.settle a old target comment now).counts = s.counts := by
  obtain ⟨_, _, h⟩ := s.settle_eq a old target comment now
  rw [h]
  rfl

theorem infos_settle : (s.settle a old target comment now).infos = s.infos := by
  obtain ⟨_, _, h⟩ := s.settle_eq a old target comment now
  rw [h]
  rfl

theorem nextId_settle : (s.settle a old target comment now).nextId = s.nextId := by
  obtain ⟨_, _, h⟩ := s.settle_eq a old target comment now
  rw [h]
  rfl

theorem changes_settle (j : Int) :
    (s.settle a old target comment now).changes j =
      if target ≠ old ∧ a.id = j then s.changes j ++ [⟨a.id, target, comment, now⟩]
      else s.changes j := by
  unfold settle
  by_cases hold : target = old
  · simp only [hold, if_true, ne_eq, not_true, false_and, if_false]
    rfl
  · obtain ⟨deleted, h⟩ := (s.putRecord a).enter_eq a.id old target comment now
    have hadd := (s.putRecord a).changes_addChange ⟨a.id, target, comment, now⟩ j
    simp only [hold, if_false, ne_eq, not_false_eq_true, true_and, h]
    exact hadd

/-! ## The status by number -/

variable {s a old target comment now}

/-- The status that the history of a number shows. -/
def statusOf (s : Store) (id : Int) : Status := ((s.changes id).getLast?.map (·.status)).getD .new

theorem currentStatus_eq (s : Store) (a : Attendee) : s.currentStatus a = s.statusOf a.id := by
  unfold currentStatus lastChange statusOf
  cases (s.changes a.id).getLast? <;> rfl

theorem statusOf_of_changes_nil {id : Int} (h : s.changes id = []) : s.statusOf id = .new := by
  rw [statusOf, h]
  rfl

/-- Settling gives the attendee the resulting status and nobody else another one. -/
theorem statusOf_settle (hold : old = s.statusOf a.id) (id : Int) :
    (s.settle a old target comment now).statusOf id =
      if a.id = id then target else s.statusOf id := by
  rw [statusOf, changes_settle]
  by_cases hid : a.id = id
  · subst hid
    by_cases hsame : target = old
    · simp only [hsame, ne_eq, not_true, false_and, if_false, if_true]
      exact hold.symm
    · simp [hsame]
  · simp only [hid, and_false, if_false]
    rfl

theorem isDeleted_delete_of_ne {id j : Int} (h : id ≠ j) :
    (s.delete id).isDeleted j = s.isDeleted j := by
  unfold delete
  split_ifs
  · rfl
  · simp [isDeleted, h.symm]

theorem isDeleted_undelete_of_ne {id j : Int} (h : id ≠ j) :
    (s.undelete id).isDeleted j = s.isDeleted j := by
  rw [Bool.eq_iff_iff]
  simp [isDeleted, undelete, h.symm]

theorem isDeleted_enter (s : Store) (id : Int) (old target : Status) (comment : String)
    (now : Timestamp) (j : Int) :
    (s.enter id old target comment now).isDeleted j =
      if id = j then
        if target = .deleted then true else if old = .deleted then false else s.isDeleted j
      else s.isDeleted j := by
  unfold enter
  by_cases hid : id = j
  · subst hid
    rw [if_pos rfl]
    split_ifs
    · exact isDeleted_delete _ id
    · exact isDeleted_undelete _ id
    · rfl
  · rw [if_neg hid]
    split_ifs
    · exact isDeleted_delete_of_ne hid
    · exact isDeleted_undelete_of_ne hid
    · rfl

/-! ## Stores that fit together -/

/-- Records stand under their own numbers. -/
def Numbered (s : Store) : Prop := ∀ id a, s.attendees.get? id = some a → a.id = id

theorem Numbered.putRecord (h : s.Numbered) (a : Attendee) : (s.putRecord a).Numbered := by
  intro id b hb
  simp only [Store.putRecord, Table.get?_insert] at hb
  split_ifs at hb with hid
  · rw [← Option.some.inj hb, hid]
  · exact h id b hb

theorem Numbered.settle (h : s.Numbered) (a : Attendee) (old target : Status) (comment : String)
    (now : Timestamp) : (s.settle a old target comment now).Numbered := by
  intro id b hb
  rw [attendees_settle] at hb
  exact h.putRecord a id b hb

/-- Records stand under their own numbers, which have been given out; numbers that have not have no
history; and the numbers noted as deleted are those with that status. -/
structure WellKept (s : Store) : Prop where
  numbered : ∀ id a, s.attendees.get? id = some a → a.id = id
  given : ∀ id a, s.attendees.get? id = some a → id < s.nextId
  unwritten : ∀ id, s.nextId ≤ id → s.changes id = []
  noted : ∀ id, s.isDeleted id = true ↔ s.statusOf id = .deleted

theorem wellKept_empty : empty.WellKept where
  numbered _ _ h := by cases h
  given _ _ h := by cases h
  unwritten _ _ := rfl
  noted id := by
    rw [statusOf_of_changes_nil rfl]
    simp [isDeleted, empty]

namespace WellKept

theorem withCounts (h : s.WellKept) (t : CountTable) : { s with counts := t }.WellKept :=
  ⟨h.numbered, h.given, h.unwritten, h.noted⟩

theorem putInfo (h : s.WellKept) (i : AdminInfo) : (s.putInfo i).WellKept :=
  ⟨h.numbered, h.given, h.unwritten, h.noted⟩

/-- A stored number may get another record. -/
theorem putRecord (h : s.WellKept) (ha : a.id < s.nextId) : (s.putRecord a).WellKept where
  numbered := Numbered.putRecord h.numbered a
  given id b hb := by
    simp only [Store.putRecord, Table.get?_insert] at hb
    split_ifs at hb with hid
    · exact hid ▸ ha
    · exact h.given id b hb
  unwritten := h.unwritten
  noted := h.noted

theorem addAttendee (h : s.WellKept) (a : Attendee) : (s.addAttendee a).2.WellKept where
  numbered id b hb := by
    simp only [Store.addAttendee, Table.get?_insert] at hb
    split_ifs at hb with hid
    · rw [← Option.some.inj hb, ← hid]
    · exact h.numbered id b hb
  given id b hb := by
    simp only [Store.addAttendee, Table.get?_insert] at hb ⊢
    split_ifs at hb with hid
    · omega
    · have := h.given id b hb
      omega
  unwritten id hid := h.unwritten id (by simp only [Store.addAttendee] at hid; omega)
  noted := h.noted

/-- Settling keeps the notes of deletion in line with the statuses. -/
theorem settle (h : s.WellKept) (ha : a.id < s.nextId) (hold : old = s.statusOf a.id) :
    (s.settle a old target comment now).WellKept where
  numbered := Numbered.settle h.numbered a old target comment now
  given id b hb := by
    rw [attendees_settle] at hb
    rw [nextId_settle]
    exact (h.putRecord ha).given id b hb
  unwritten id hid := by
    rw [nextId_settle] at hid
    have hne : a.id ≠ id := by omega
    rw [changes_settle, if_neg fun hc => hne hc.2]
    exact h.unwritten id hid
  noted id := by
    rw [statusOf_settle hold]
    by_cases hsame : target = old
    · have hkeep : (s.settle a old target comment now).isDeleted id = s.isDeleted id := by
        rw [Store.settle, if_pos hsame]
        rfl
      rw [hkeep, h.noted]
      split_ifs with hid
      · rw [hsame, hold, hid]
      · rfl
    · rw [Store.settle, if_neg hsame, isDeleted_enter]
      by_cases hid : a.id = id
      · subst hid
        rw [if_pos rfl, if_pos rfl]
        split_ifs with htarget hdeleted
        · simp [htarget]
        · simp [htarget]
        · -- neither the old nor the new status is a deletion
          have hnot : s.isDeleted a.id ≠ true := fun hd => hdeleted (hold ▸ (h.noted a.id).mp hd)
          exact iff_of_false hnot htarget
      · rw [if_neg hid, if_neg hid]
        exact h.noted id

end WellKept

end Store

end Registration
