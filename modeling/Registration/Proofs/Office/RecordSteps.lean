import Registration.Proofs.Office.Run

/-!
# What becomes of one registration

An event moves a stored registration in one of three ways (`RecordStep`): its record and status
stay; or an edit of it is put and nothing more; or the record, edited or not, is brought in line
with the ledger and with a status that the registration is asked to have. Every event takes such a
step (`Event.recordStep`), and the only event that makes a registration is a request to register
(`Event.exists_register`).
-/

namespace Registration

theorem Balances.resultingStatus_eq_deleted_iff {b : Balances} {grace : Int} {s : Status} :
    b.resultingStatus grace s = .deleted ↔ s = .deleted := by
  have hphase : ∀ s : Status, s.isPaymentPhase = true → (s = .deleted) = False := by
    refine fun s hs => eq_false ?_
    rintro rfl
    cases hs
  exact iff_of_eq
    (apply_resultingStatus (fun s t hs ht => (hphase s hs).trans (hphase t ht).symm) b grace s)

/-! ## Stores seen from one number -/

/-- The number has the same record and status in both stores. -/
structure Store.SameAt (id : Int) (s s' : Store) : Prop where
  record : s'.attendees.get? id = s.attendees.get? id
  status : s'.statusOf id = s.statusOf id

namespace Store.SameAt

variable {id : Int} {s s' s'' : Store}

theorem of_eq (h : s' = s) : s.SameAt id s' := ⟨by rw [h], by rw [h]⟩

theorem trans (h : s.SameAt id s') (k : s'.SameAt id s'') : s.SameAt id s'' :=
  ⟨k.record.trans h.record, k.status.trans h.status⟩

end Store.SameAt

theorem Store.sameAt_putInfo (s : Store) (i : AdminInfo) (id : Int) : s.SameAt id (s.putInfo i) :=
  ⟨rfl, rfl⟩

theorem Office.sameAt_withRecord_of_ne {o : Office} {a : Attendee} {id : Int} (h : a.id ≠ id)
    (t : CountTable) : o.store.SameAt id (o.withRecord a t).store :=
  ⟨Table.get?_insert_of_ne _ _ h, rfl⟩

/-- A new record leaves the others. -/
theorem Office.sameAt_withNewRecord {o : Office} {id : Int} (h : id < o.store.nextId)
    (a : Attendee) (t : CountTable) : o.store.SameAt id (o.withNewRecord a t).store :=
  ⟨Table.get?_insert_of_ne _ _ h.ne', rfl⟩

/-! ## Commits seen from one number -/

section Commits

variable {p : Policy} {b : Attendee} {old target : Status} {comment override : String}
  {recorded : Desk Unit} {o o' : Office} {answer : Except Failure Committed}

/-- The store has the record brought in line with some balances and a status, and is in line with
the deletion of that status. -/
def Store.Refreshed (s' : Store) (b : Attendee) (target : Status) : Prop :=
  ∃ balances, s'.attendees.get? b.id = some (b.refresh balances target) ∧
    (s'.statusOf b.id = .deleted ↔ target = .deleted)

theorem Office.Settles.refreshed {r : Reconciled} {o₁ : Office}
    (h : o.Settles p b old target comment override r o₁) (hold : old = o.store.statusOf b.id)
    (t : CountTable) : Store.Refreshed { o₁.store with counts := t } b target := by
  have hid : r.attendee.id = b.id := by rw [h.result]; rfl
  have hrecord : o₁.store.attendees.get? b.id = some r.attendee := by
    rw [h.store, Store.attendees_settle, hid, Table.get?_insert_self]
  have hstatus : o₁.store.statusOf b.id = r.status := by
    rw [h.store, Store.statusOf_settle (hid ▸ hold), if_pos hid]
  refine ⟨Balances.ofHistory (o₁.ledger.history b.id), ?_, ?_⟩
  · rw [hrecord, h.result]
    rfl
  · change o₁.store.statusOf b.id = .deleted ↔ _
    rw [hstatus, h.result]
    exact Balances.resultingStatus_eq_deleted_iff

/-- A commit refreshes its record or leaves it as it was. -/
theorem CommitEnd.sameAt_or_refreshed
    (h : CommitEnd p b old target comment override recorded o answer o')
    (hrec : ∀ o, ∃ t, recorded.after o = o.withCounts t) (hold : old = o.store.statusOf b.id) :
    o.store.SameAt b.id o'.store ∨ o'.store.Refreshed b target := by
  rcases h.store_eq hrec with hsame | ⟨r, o₁, t, hsettles, hstore⟩
  · exact .inl (.of_eq hsame)
  · exact .inr (hstore ▸ hsettles.refreshed hold t)

/-- A commit leaves the other numbers. -/
theorem CommitEnd.sameAt_of_ne
    (h : CommitEnd p b old target comment override recorded o answer o')
    (hrec : ∀ o, ∃ t, recorded.after o = o.withCounts t) (hold : old = o.store.statusOf b.id)
    {id : Int} (hne : b.id ≠ id) : o.store.SameAt id o'.store := by
  rcases h.store_eq hrec with hsame | ⟨r, o₁, t, hsettles, hstore⟩
  · exact .of_eq hsame
  have hid : r.attendee.id = b.id := by rw [hsettles.result]; rfl
  rw [hstore]
  constructor
  · change o₁.store.attendees.get? id = _
    rw [hsettles.store, Store.attendees_settle, hid, Table.get?_insert_of_ne _ _ hne]
  · change o₁.store.statusOf id = _
    rw [hsettles.store, Store.statusOf_settle (hid ▸ hold), hid, if_neg hne]

end Commits

/-! ## Requests about other registrations -/

section Others

variable {p : Policy} {o o' : Office} {id : Int} {answer : Except Failure Committed}

theorem UpdateEnd.sameAt {x : Attendee} (h : UpdateEnd p o x answer o') (hs : o.store.WellKept)
    (hother : x.id = id → o.store.attendees.get? id = none) : o.store.SameAt id o'.store := by
  have hne : ∀ {stored}, o.store.attendees.get? x.id = some stored →
      (Desk.editedRecord stored x).id ≠ id := by
    intro stored hstored hid
    rw [Desk.id_editedRecord] at hid
    cases (hother hid).symm.trans (hid ▸ hstored)
  cases h with
  | refused _ hkept => exact .of_eq hkept.store
  | unrecorded _ hstored _ _ _ => exact Office.sameAt_withRecord_of_ne (hne hstored) _
  | @committed _ stored deltas _ _ hstored _ _ hcommit =>
    have hold := currentStatus_withRecord hs hstored (o.store.counts.applyAll deltas)
    exact (Office.sameAt_withRecord_of_ne (hne hstored) _).trans
      (hcommit.sameAt_of_ne after_pure hold (hne hstored))

theorem InfoEnd.sameAt {i : AdminInfo} (h : InfoEnd p o i answer o') (hs : o.store.WellKept)
    (hother : i.attendeeId = id → o.store.attendees.get? id = none) :
    o.store.SameAt id o'.store := by
  have hnoted : o.store.SameAt id (o.withInfo i).store := o.store.sameAt_putInfo i id
  cases h with
  | unknown _ => exact hnoted
  | @committed _ b _ _ hstored hcommit =>
    refine hnoted.trans (hcommit.sameAt_of_ne after_pure (Store.currentStatus_eq _ b) fun hid => ?_)
    rw [hs.numbered _ _ hstored] at hid
    cases (hother hid).symm.trans (hid ▸ hstored)

theorem StatusEnd.sameAt {actor : Actor} {j : Int} {new : Target} {override : String}
    (h : StatusEnd p actor o j new override answer o') (hs : o.store.WellKept)
    (hother : j = id → o.store.attendees.get? id = none) : o.store.SameAt id o'.store := by
  cases h with
  | refused _ hposted => exact .of_eq hposted.store
  | @committed _ b _ deltas _ o₁ _ _ hstored _ _ _ _ hposted hcommit =>
    have hquiet : o.store.SameAt id o₁.store := .of_eq hposted.store
    refine hquiet.trans (hcommit.sameAt_of_ne (after_recording deltas) ?_ fun hid => ?_)
    · rw [hposted.store]
      exact Store.currentStatus_eq _ b
    · rw [hs.numbered _ _ hstored] at hid
      cases (hother hid).symm.trans (hid ▸ hstored)

theorem RegisterEnd.sameAt {actor : Actor} {x : Attendee} (h : RegisterEnd p actor o x o')
    (hid : id < o.store.nextId) : o.store.SameAt id o'.store := by
  cases h with
  | refused hkept => exact .of_eq hkept.store
  | added _ _ _ => exact Office.sameAt_withNewRecord hid _ _

end Others

/-! ## Steps -/

theorem Desk.identity_editedRecord (stored x : Attendee) :
    (editedRecord stored x).identity = stored.identity := by
  unfold editedRecord
  rfl

theorem Desk.zip_editedRecord (stored x : Attendee) : (editedRecord stored x).zip = x.zip := by
  unfold editedRecord
  rfl

/-- The record, or an edit of it. -/
def Attendee.IsEditOf (b a : Attendee) : Prop :=
  b = a ∨ ∃ x : Attendee, x.id = a.id ∧ b = Desk.editedRecord a x

theorem Attendee.IsEditOf.id_eq {b a : Attendee} (h : b.IsEditOf a) : b.id = a.id := by
  rcases h with rfl | ⟨x, hid, rfl⟩
  · rfl
  · exact (Desk.id_editedRecord a x).trans hid

theorem Attendee.IsEditOf.identity_eq {b a : Attendee} (h : b.IsEditOf a) :
    b.identity = a.identity := by
  rcases h with rfl | ⟨x, -, rfl⟩
  · rfl
  · exact Desk.identity_editedRecord a x

/-- What an event can make of a stored registration and its status. -/
inductive RecordStep (e : Event) (a : Attendee) (s : Status) : Attendee → Status → Prop
  /-- The registration stays. -/
  | kept : RecordStep e a s a s
  /-- An edit of it is put, but not committed. -/
  | submitted {actor : Actor} {x : Attendee} {suppress : Bool}
    (he : e = .change (.update actor x suppress)) (hid : x.id = a.id) :
    RecordStep e a s (Desk.editedRecord a x) s
  /-- The record, or an edit of it, is brought in line with a status. -/
  | refreshed {b : Attendee} {balances : Balances} {target s' : Status}
    (hb : b.IsEditOf a) (hdeleted : s' = .deleted ↔ target = .deleted) :
    RecordStep e a s (b.refresh balances target) s'

/-- The event has taken the registration one step. -/
def Event.Steps (e : Event) (a : Attendee) (s s' : Store) : Prop :=
  ∃ b, s'.attendees.get? a.id = some b ∧ RecordStep e a (s.statusOf a.id) b (s'.statusOf a.id)

section Steps

variable {p : Policy} {o o' : Office} {a : Attendee} {e : Event} {s s' : Store}

theorem Event.steps_of_sameAt (ha : s.attendees.get? a.id = some a) (h : s.SameAt a.id s') :
    e.Steps a s s' := by
  refine ⟨a, h.record.trans ha, ?_⟩
  rw [h.status]
  exact .kept

theorem Event.steps_of_refreshed {b : Attendee} {target : Status} (hb : b.IsEditOf a)
    (h : s'.Refreshed b target) : e.Steps a s s' := by
  obtain ⟨balances, hrecord, hdeleted⟩ := h
  rw [hb.id_eq] at hrecord hdeleted
  exact ⟨_, hrecord, .refreshed hb hdeleted⟩

theorem UpdateEnd.steps {actor : Actor} {x : Attendee} {suppress : Bool}
    {answer : Except Failure Committed} (h : UpdateEnd p o x answer o') (hs : o.store.WellKept)
    (ha : o.store.attendees.get? a.id = some a) :
    (Event.change (.update actor x suppress)).Steps a o.store o'.store := by
  by_cases hid : x.id = a.id
  swap
  · exact Event.steps_of_sameAt ha (h.sameAt hs fun heq => absurd heq hid)
  have hedited : ∀ {stored}, o.store.attendees.get? x.id = some stored → stored = a :=
    fun hstored => Option.some.inj ((hid ▸ hstored).symm.trans ha)
  -- putting the edit is a step by itself
  have hput : ∀ t, (Event.change (.update actor x suppress)).Steps a o.store
      (o.withRecord (Desk.editedRecord a x) t).store := by
    intro t
    refine ⟨Desk.editedRecord a x, ?_, .submitted rfl hid⟩
    rw [← hid, ← Desk.id_editedRecord a x]
    exact Table.get?_insert_self ..
  cases h with
  | refused _ hkept => exact Event.steps_of_sameAt ha (.of_eq hkept.store)
  | unrecorded _ hstored _ _ _ =>
    obtain rfl := hedited hstored
    exact hput _
  | @committed _ stored deltas _ _ hstored _ _ hcommit =>
    obtain rfl := hedited hstored
    have hold := currentStatus_withRecord hs hstored (o.store.counts.applyAll deltas)
    have hedit : (Desk.editedRecord stored x).IsEditOf stored := .inr ⟨x, hid, rfl⟩
    rcases hcommit.sameAt_or_refreshed after_pure hold with hsame | hrefreshed
    · rw [hedit.id_eq] at hsame
      obtain ⟨b, hb, hstep⟩ := hput (o.store.counts.applyAll deltas)
      refine ⟨b, hsame.record.trans hb, ?_⟩
      rw [hsame.status]
      exact hstep
    · exact Event.steps_of_refreshed hedit hrefreshed

theorem InfoEnd.steps {i : AdminInfo} {answer : Except Failure Committed}
    (h : InfoEnd p o i answer o') (hs : o.store.WellKept)
    (ha : o.store.attendees.get? a.id = some a) : e.Steps a o.store o'.store := by
  by_cases hid : i.attendeeId = a.id
  swap
  · exact Event.steps_of_sameAt ha (h.sameAt hs fun heq => absurd heq hid)
  have hnoted : o.store.SameAt a.id (o.withInfo i).store := o.store.sameAt_putInfo i a.id
  cases h with
  | unknown _ => exact Event.steps_of_sameAt ha hnoted
  | @committed _ b _ _ hstored hcommit =>
    obtain rfl := Option.some.inj ((hid ▸ hstored).symm.trans ha)
    rcases hcommit.sameAt_or_refreshed after_pure (Store.currentStatus_eq _ b) with
      hsame | hrefreshed
    · exact Event.steps_of_sameAt ha (hnoted.trans hsame)
    · exact Event.steps_of_refreshed (.inl rfl) hrefreshed

theorem StatusEnd.steps {actor : Actor} {j : Int} {new : Target} {override : String}
    {answer : Except Failure Committed} (h : StatusEnd p actor o j new override answer o')
    (hs : o.store.WellKept) (ha : o.store.attendees.get? a.id = some a) :
    e.Steps a o.store o'.store := by
  by_cases hid : j = a.id
  swap
  · exact Event.steps_of_sameAt ha (h.sameAt hs fun heq => absurd heq hid)
  cases h with
  | refused _ hposted => exact Event.steps_of_sameAt ha (.of_eq hposted.store)
  | @committed _ b _ deltas _ o₁ _ _ hstored _ _ _ _ hposted hcommit =>
    obtain rfl := Option.some.inj ((hid ▸ hstored).symm.trans ha)
    have hold : o.store.currentStatus b = o₁.store.statusOf b.id := by
      rw [hposted.store]
      exact Store.currentStatus_eq _ b
    have hquiet : o.store.SameAt b.id o₁.store := .of_eq hposted.store
    rcases hcommit.sameAt_or_refreshed (after_recording deltas) hold with hsame | hrefreshed
    · exact Event.steps_of_sameAt ha (hquiet.trans hsame)
    · exact Event.steps_of_refreshed (.inl rfl) hrefreshed

/-- Every event takes a stored registration one step, however it ends. -/
theorem Event.recordStep (hs : o.store.WellKept) (e : Event)
    (ha : o.store.attendees.get? a.id = some a) : e.Steps a o.store (e.apply p o).store := by
  cases e with
  | register actor x =>
    exact steps_of_sameAt ha ((registerEnd p o actor x).sameAt (hs.given a.id a ha))
  | change c =>
    cases c with
    | update actor x suppress => exact (updateEnd p o actor x suppress).steps hs ha
    | updateInfo actor i => exact (infoEnd p hs actor i).steps hs ha
    | changeStatus actor j new comment override suppress =>
      exact (statusEnd p hs actor j new comment override suppress).steps hs ha
  | inject _ => exact steps_of_sameAt ha (.of_eq rfl)
  | outage _ => exact steps_of_sameAt ha (.of_eq rfl)
  | tick _ => exact steps_of_sameAt ha (.of_eq rfl)

end Steps

/-! ## New registrations -/

section New

variable {p : Policy} {o o' : Office} {id : Int}

theorem Change.sameAt_of_none (hs : o.store.WellKept) (hnone : o.store.attendees.get? id = none)
    (c : Change) : o.store.SameAt id ((c.perform p).after o).store := by
  cases c with
  | update actor x suppress => exact (updateEnd p o actor x suppress).sameAt hs fun _ => hnone
  | updateInfo actor i => exact (infoEnd p hs actor i).sameAt hs fun _ => hnone
  | changeStatus actor j new comment override suppress =>
    exact (statusEnd p hs actor j new comment override suppress).sameAt hs fun _ => hnone

/-- A registration that comes in has the record of the request, under its number, and is new. -/
theorem RegisterEnd.of_new {actor : Actor} {x b : Attendee} (h : RegisterEnd p actor o x o')
    (hs : o.store.WellKept) (hnone : o.store.attendees.get? id = none)
    (hb : o'.store.attendees.get? id = some b) :
    b = { Desk.newRecord actor x with id := id } ∧ o'.store.statusOf id = .new := by
  cases h with
  | refused hkept =>
    rw [hkept.store, hnone] at hb
    cases hb
  | added _ _ _ =>
    change (o.store.attendees.insert o.store.nextId _).get? id = some b at hb
    rw [Table.get?_insert] at hb
    split_ifs at hb with hid
    · refine ⟨by rw [← Option.some.inj hb, hid], ?_⟩
      exact Store.statusOf_of_changes_nil (hs.unwritten id hid.le)
    · rw [hnone] at hb
      cases hb

/-- A registration that was not there before the event has been made by a request to register. -/
theorem Event.exists_register (hs : o.store.WellKept) {e : Event} {b : Attendee}
    (hnone : o.store.attendees.get? id = none)
    (hb : (e.apply p o).store.attendees.get? id = some b) :
    ∃ actor x, e = .register actor x ∧ b = { Desk.newRecord actor x with id := id } ∧
      (e.apply p o).store.statusOf id = .new := by
  have hstill : ∀ {s' : Store}, o.store.SameAt id s' → s'.attendees.get? id ≠ some b := by
    intro s' hsame hsome
    rw [hsame.record, hnone] at hsome
    cases hsome
  cases e with
  | register actor x =>
    obtain ⟨hrecord, hstatus⟩ := (registerEnd p o actor x).of_new hs hnone hb
    exact ⟨actor, x, rfl, hrecord, hstatus⟩
  | change c => exact absurd hb (hstill (c.sameAt_of_none hs hnone))
  | inject _ => exact absurd hb (hstill (.of_eq rfl))
  | outage _ => exact absurd hb (hstill (.of_eq rfl))
  | tick _ => exact absurd hb (hstill (.of_eq rfl))

end New

end Registration
