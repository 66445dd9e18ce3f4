import Registration.Proofs.Office.LedgerGrowth

/-!
# What the office keeps about one attendee

The dossier of a number is all that the office keeps about it: the record, the note of deletion,
administrators' information, the history and the transactions. Every write of the office goes into
one dossier, and its lemma says what it makes of it (`dossier_putRecord`, `dossier_withInfo`,
`dossier_enter`, `dossier_booked`). So a change leaves all dossiers but that of its attendee
(`Change.spares`).
-/

namespace Registration

/-- All that is kept about one number. -/
structure Dossier where
  record : Option Attendee
  isDeleted : Bool
  info : Option AdminInfo
  changes : List StatusChange
  transactions : List Transaction

namespace Office

/-- All that the office keeps about a number. -/
def dossier (o : Office) (id : Int) : Dossier where
  record := o.store.attendees.get? id
  isDeleted := o.store.isDeleted id
  info := o.store.infos.get? id
  changes := o.store.changes id
  transactions := o.ledger.history id

/-! ## Writes -/

section Writes

variable (o : Office) {o' : Office} (id : Int)

theorem dossier_of_kept (h : o.Kept o') : o'.dossier id = o.dossier id := by
  rw [dossier, h.store, h.ledger, dossier]

@[simp] theorem dossier_withCounts (t : CountTable) : (o.withCounts t).dossier id = o.dossier id :=
  rfl

theorem dossier_putRecord (a : Attendee) :
    ({ o with store := o.store.putRecord a } : Office).dossier id =
      if a.id = id then { o.dossier id with record := some a } else o.dossier id := by
  unfold dossier Store.putRecord
  rw [Table.get?_insert]
  split_ifs <;> rfl

theorem dossier_withInfo (i : AdminInfo) :
    (o.withInfo i).dossier id =
      if i.attendeeId = id then { o.dossier id with info := some i } else o.dossier id := by
  unfold dossier withInfo Store.putInfo
  rw [Table.get?_insert]
  split_ifs <;> rfl

/-- Entering a status adds it to the history and notes a deletion or takes it back. -/
theorem dossier_enter (j : Int) (old target : Status) (comment : String) (now : Timestamp) :
    ({ o with store := o.store.enter j old target comment now } : Office).dossier id =
      if j = id then
        { o.dossier id with
          isDeleted :=
            if target = .deleted then true
            else if old = .deleted then false else o.store.isDeleted id
          changes := o.store.changes id ++ [⟨j, target, comment, now⟩] }
      else o.dossier id := by
  obtain ⟨deleted, henter⟩ := o.store.enter_eq j old target comment now
  have hdeleted := o.store.isDeleted_enter j old target comment now id
  have hchanges : (o.store.enter j old target comment now).changes id =
      if j = id then o.store.changes id ++ [⟨j, target, comment, now⟩] else o.store.changes id := by
    rw [henter]
    exact o.store.changes_addChange ⟨j, target, comment, now⟩ id
  unfold dossier
  rw [hdeleted, hchanges, henter]
  split_ifs <;> rfl

/-- Settling puts the record and enters its status, if that is a new one. -/
theorem dossier_settle_of_ne {a : Attendee} (h : a.id ≠ id) (old target : Status)
    (comment : String) (now : Timestamp) :
    ({ o with store := o.store.settle a old target comment now } : Office).dossier id =
      o.dossier id := by
  have hput : ({ o with store := o.store.putRecord a } : Office).dossier id = o.dossier id :=
    (o.dossier_putRecord id a).trans (if_neg h)
  unfold Store.settle
  split_ifs
  · exact hput
  · rw [dossier_enter { o with store := o.store.putRecord a } id, if_neg h]
    exact hput

/-- Bookings add to the transactions. -/
theorem dossier_booked {ts : List Transaction} (hstore : o'.store = o.store)
    (hledger : o'.ledger = o.ledger.appendAll ts) :
    o'.dossier id = { o.dossier id with
      transactions := o.ledger.history id ++ ts.filter fun t => t.debitor = id } := by
  unfold dossier
  rw [hstore, hledger, Ledger.history_appendAll]

end Writes

/-- Bookings for others make no difference. -/
theorem dossier_booked_of_ne {o o' : Office} {ts : List Transaction} {id j : Int}
    (hstore : o'.store = o.store) (hledger : o'.ledger = o.ledger.appendAll ts)
    (hts : ∀ t ∈ ts, t.debitor = id) (hj : j ≠ id) : o'.dossier j = o.dossier j := by
  have hnone : (ts.filter fun t => t.debitor = j) = [] :=
    List.filter_eq_nil_iff.mpr fun t ht hsame =>
      hj ((of_decide_eq_true hsame).symm.trans (hts t ht))
  rw [dossier_booked o j hstore hledger, hnone, List.append_nil]
  rfl

/-! ## Dossiers that are left alone -/

/-- The second office differs from the first one in the dossier of the number at most; the time is
the same, and if records stood under their numbers they still do. -/
structure Spares (id : Int) (o o' : Office) : Prop where
  others : ∀ j, j ≠ id → o'.dossier j = o.dossier j
  clock : o'.clock = o.clock
  numbered : o.store.Numbered → o'.store.Numbered

namespace Spares

variable {o o₁ o' : Office} {id : Int}

theorem trans (h : o.Spares id o₁) (k : o₁.Spares id o') : o.Spares id o' where
  others j hj := (k.others j hj).trans (h.others j hj)
  clock := k.clock.trans h.clock
  numbered hn := k.numbered (h.numbered hn)

theorem of_kept (h : o.Kept o') : o.Spares id o' :=
  ⟨fun j _ => o.dossier_of_kept j h, h.clock, fun hn => h.store ▸ hn⟩

theorem withCounts (t : CountTable) : o.Spares id (o.withCounts t) :=
  ⟨fun _ _ => rfl, rfl, fun hn => hn⟩

theorem withRecord (a : Attendee) (t : CountTable) : o.Spares a.id (o.withRecord a t) where
  others j hj := (o.dossier_putRecord j a).trans (if_neg hj.symm)
  clock := rfl
  numbered hn := hn.putRecord a

theorem withInfo (i : AdminInfo) : o.Spares i.attendeeId (o.withInfo i) where
  others j hj := (o.dossier_withInfo j i).trans (if_neg hj.symm)
  clock := rfl
  numbered hn := hn

theorem posted {ts : List Transaction} (h : o.Posted ts o') (hts : ∀ t ∈ ts, t.debitor = id) :
    o.Spares id o' where
  others _ hj := dossier_booked_of_ne h.store h.ledger hts hj
  clock := h.clock
  numbered hn := h.store ▸ hn

end Spares

end Office

/-! ## Changes -/

section Changes

variable {p : Policy} {o o₁ o' : Office} {answer : Except Failure Committed}

/-- Carrying out a change leaves all dossiers but its own. -/
theorem Office.Settles.spares {a : Attendee} {old target : Status} {comment override : String}
    {r : Reconciled} (h : o.Settles p a old target comment override r o₁) : o.Spares a.id o₁ := by
  refine ⟨fun j hj => ?_, h.clock, fun hn => ?_⟩
  · have hbooked : o₁.dossier j = ({ o with
        store := o.store.settle r.attendee old r.status comment o.clock.now } : Office).dossier j :=
      dossier_booked_of_ne h.store h.ledger (fun _ => debitor_of_mem_plannedFor) hj
    exact hbooked.trans (o.dossier_settle_of_ne j (h.id_eq ▸ hj.symm) old r.status comment _)
  · rw [h.store]
    exact hn.settle _ _ _ _ _

theorem CommitEnd.spares {a : Attendee} {old target : Status} {comment override : String}
    {recorded : Desk Unit} (h : CommitEnd p a old target comment override recorded o answer o')
    (hrec : ∀ o, ∃ t, recorded.after o = o.withCounts t) : o.Spares a.id o' := by
  have hrecorded : ∀ o : Office, o.Spares a.id (recorded.after o) := fun o => by
    obtain ⟨t, ht⟩ := hrec o
    exact ht ▸ .withCounts t
  cases h with
  | refused _ hposted =>
    exact .posted hposted fun t ht => Office.debitor_of_mem_plannedFor (List.mem_of_mem_take ht)
  | unrecorded hsettles _ _ => exact hsettles.spares.trans (hrecorded _)
  | changed hsettles _ _ hkept =>
    exact (hsettles.spares.trans (hrecorded _)).trans (.of_kept hkept)
  | unchanged hsettles _ hkept => exact hsettles.spares.trans (.of_kept hkept)

theorem UpdateEnd.spares {a : Attendee} (h : UpdateEnd p o a answer o') : o.Spares a.id o' := by
  have hput : ∀ stored t, o.Spares a.id (o.withRecord (Desk.editedRecord stored a) t) :=
    fun stored t => Desk.id_editedRecord stored a ▸ .withRecord _ t
  cases h with
  | refused _ hkept => exact .of_kept hkept
  | unrecorded _ _ _ _ _ => exact hput _ _
  | committed _ _ _ hcommit =>
    have hcommitted := hcommit.spares after_pure
    rw [Desk.id_editedRecord] at hcommitted
    exact (hput _ _).trans hcommitted

theorem InfoEnd.spares {i : AdminInfo} (h : InfoEnd p o i answer o')
    (hid : ∀ a, o.store.attendees.get? i.attendeeId = some a → a.id = i.attendeeId) :
    o.Spares i.attendeeId o' := by
  cases h with
  | unknown _ => exact .withInfo i
  | committed hstored hcommit =>
    have hcommitted := hcommit.spares after_pure
    rw [hid _ hstored] at hcommitted
    exact (Office.Spares.withInfo i).trans hcommitted

theorem StatusEnd.spares {actor : Actor} {id : Int} {new : Target} {override : String}
    (h : StatusEnd p actor o id new override answer o')
    (hid : ∀ a, o.store.attendees.get? id = some a → a.id = id) : o.Spares id o' := by
  cases h with
  | refused _ hposted => exact .posted hposted (by simp)
  | committed _ hstored _ _ _ _ hposted hcommit =>
    have hcommitted := hcommit.spares (after_recording _)
    rw [hid _ hstored] at hcommitted
    exact (Office.Spares.posted hposted (by simp)).trans hcommitted

/-- A change leaves all dossiers but that of its attendee, however it ends. -/
theorem Change.spares (c : Change)
    (hid : ∀ a, o.store.attendees.get? c.attendeeId = some a → a.id = c.attendeeId) :
    o.Spares c.attendeeId ((c.perform p).after o) := by
  cases c with
  | update actor a suppress => exact (updateEnd p o actor a suppress).spares
  | updateInfo actor i =>
    exact ((Desk.ends_updateInfo hid).mono (fun _ _ h => h.spares hid)
      fun _ _ h => h.spares hid).after_of
  | changeStatus actor id new comment override suppress =>
    exact ((Desk.ends_changeStatus hid).mono (fun _ _ h => h.spares hid)
      fun _ _ h => h.spares hid).after_of

end Changes

end Registration
