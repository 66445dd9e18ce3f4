import Registration.Proofs.Office.Authority

/-!
# Requests that are turned down

A request is turned down if it is rejected or about nobody who is registered. Registering and
editing look at everything that can turn them down before they write, so then they leave the office
as it was. Information of administrators is noted before anybody looks for the attendee: turned
down, it stays in the store, and no later event but another note takes it away (`Office.info_run`).
So whoever is registered under the number later inherits it (`turned_down_traceless`).
-/

namespace Registration

/-- The work is turned down. -/
def Desk.TurnedDown {α : Type} (x : Desk α) (o : Office) : Prop :=
  ∃ e, x.answer o = .error e ∧ e.turnsDown = true

/-! ## What is left of a request -/

namespace Desk

variable {p : Policy} {actor : Actor} {o : Office}

/-- Registering is turned down before anything is written. -/
theorem ends_register_traceless {a : Attendee} :
    (register p actor a).Ends o (fun _ _ => True) fun e o' => e.turnsDown = true → o' = o := by
  unfold register
  refine ends_bind (ends_checkUnique.mono (fun _ o₁ h => ?_) fun _ _ h _ => h.1)
  obtain ⟨rfl, -⟩ := h
  refine ends_bind (ends_store (ends_bind (ends_require (fun deltas _ => ?_) fun _ _ _ => rfl)))
  refine ends_bind (ends_modifyStore (ends_bind (ends_recordAll.mono (fun _ _ _ => ?_)
    fun e o₂ h hdown => ?_)))
  · exact ends_pure trivial
  · -- a missing row is a fault
    obtain ⟨-, ⟨_, _, rfl⟩, -⟩ := h
    cases hdown

/-- Editing is turned down before anything is written. -/
theorem ends_update_traceless {a : Attendee} {suppress : Bool} :
    (update p actor a suppress).Ends o (fun _ _ => True)
      fun e o' => e.turnsDown = true → o' = o := by
  unfold update
  refine ends_bind (ends_store (ends_bind (ends_require (fun stored _ => ?_) fun _ _ _ => rfl)))
  refine ends_bind (ends_checkUnique.mono (fun _ o₁ h => ?_) fun _ _ h _ => h.1)
  obtain ⟨rfl, -⟩ := h
  refine ends_bind (ends_require (fun deltas _ => ?_) fun _ _ _ => rfl)
  refine ends_bind (ends_require (fun s hs => ?_) fun _ _ _ => rfl)
  obtain rfl := Store.eq_of_putAttendee hs
  refine ends_bind (ends_modifyStore (ends_bind (ends_recordAll.mono (fun _ o₂ h => ?_)
    fun e o₂ h hdown => ?_)))
  · obtain ⟨-, rfl⟩ := h
    refine (ends_commit_fault fun _ => ends_pure rfl).mono (fun _ _ h => h)
      fun e _ hfault hdown => ?_
    rcases hfault with hfault | ⟨-, hnone⟩
    · cases hfault.symm.trans hdown
    · cases (Table.get?_insert_self ..).symm.trans hnone
  · obtain ⟨-, ⟨_, _, rfl⟩, -⟩ := h
    cases hdown

/-- Information about nobody is turned down after it was noted. -/
theorem ends_updateInfo_of_none {i : AdminInfo}
    (hnone : o.store.attendees.get? i.attendeeId = none) :
    (updateInfo p actor i).Ends o (fun _ _ => False) fun e o' =>
      e = .attendeeNotFound i.attendeeId ∧ o' = o.withInfo i := by
  unfold updateInfo
  refine ends_bind (ends_modifyStore (ends_bind (ends_store (ends_bind
    (ends_require (fun a ha => ?_) fun e he => ⟨(error_of_attendee he).2, rfl⟩)))))
  cases hnone.symm.trans (get?_of_attendee ha)

/-- Information about somebody is not turned down. -/
theorem ends_updateInfo_of_stored {i : AdminInfo} {b : Attendee}
    (hb : o.store.attendees.get? i.attendeeId = some b) (hid : b.id = i.attendeeId) :
    (updateInfo p actor i).Ends o (fun _ _ => True) fun e _ => e.turnsDown = false := by
  unfold updateInfo
  refine ends_bind (ends_modifyStore (ends_bind (ends_store (ends_bind
    (ends_require (fun a ha => ?_) fun e he => ?_)))))
  · obtain rfl := Option.some.inj (hb.symm.trans (get?_of_attendee ha))
    refine (ends_commit_fault fun _ => ends_pure rfl).mono (fun _ _ h => h) fun e _ hfault => ?_
    rcases hfault with hfault | ⟨-, hnone⟩
    · exact hfault
    · rw [hid] at hnone
      cases hb.symm.trans hnone
  · cases hb.symm.trans (error_of_attendee he).1

theorem turnedDown_updateInfo_iff {i : AdminInfo}
    (hid : ∀ b, o.store.attendees.get? i.attendeeId = some b → b.id = i.attendeeId) :
    (updateInfo p actor i).TurnedDown o ↔ o.store.attendees.get? i.attendeeId = none := by
  constructor
  · rintro ⟨e, he, hdown⟩
    cases hb : o.store.attendees.get? i.attendeeId with
    | none => rfl
    | some b => cases ((ends_updateInfo_of_stored hb (hid b hb)).of_error he).symm.trans hdown
  · intro hnone
    obtain ⟨e, he, rfl, -⟩ := (ends_updateInfo_of_none hnone).exists_error
    exact ⟨_, he, rfl⟩

end Desk

/-! ## Information that stays -/

/-- The event notes information about the number. -/
def Event.NotesAbout (id : Int) : Event → Prop
  | change (.updateInfo _ i) => i.attendeeId = id
  | _ => False

section Notes

variable {p : Policy} {o o' : Office} {answer : Except Failure Committed}

/-- A commit notes no information. -/
theorem CommitEnd.infos {a : Attendee} {old target : Status} {comment override : String}
    {recorded : Desk Unit} (h : CommitEnd p a old target comment override recorded o answer o')
    (hrec : ∀ o, ∃ t, recorded.after o = o.withCounts t) : o'.store.infos = o.store.infos := by
  rcases h.store_eq hrec with hstore | ⟨r, o₁, t, hsettles, hstore⟩
  · rw [hstore]
  · rw [hstore]
    change o₁.store.infos = _
    rw [hsettles.store, Store.infos_settle]

theorem UpdateEnd.infos {a : Attendee} (h : UpdateEnd p o a answer o') :
    o'.store.infos = o.store.infos := by
  cases h with
  | refused _ hkept => rw [hkept.store]
  | unrecorded _ _ _ _ _ => rfl
  | committed _ _ _ hcommit => exact hcommit.infos after_pure

theorem InfoEnd.infos {i : AdminInfo} (h : InfoEnd p o i answer o') :
    o'.store.infos = o.store.infos.insert i.attendeeId i := by
  cases h with
  | unknown _ => rfl
  | committed _ hcommit => exact hcommit.infos after_pure

theorem StatusEnd.infos {actor : Actor} {id : Int} {new : Target} {override : String}
    (h : StatusEnd p actor o id new override answer o') : o'.store.infos = o.store.infos := by
  cases h with
  | refused _ hposted => rw [hposted.store]
  | committed _ _ _ _ _ _ hposted hcommit =>
    rw [hcommit.infos (after_recording _), hposted.store]

theorem RegisterEnd.infos {actor : Actor} {a : Attendee} (h : RegisterEnd p actor o a o') :
    o'.store.infos = o.store.infos := by
  cases h with
  | refused hkept => rw [hkept.store]
  | added _ _ _ => rfl

/-- What is noted about a number stays until something else is noted. -/
theorem Event.info_apply (hs : o.store.WellKept) {id : Int} {e : Event}
    (he : ¬ e.NotesAbout id) : (e.apply p o).store.info id = o.store.info id := by
  have hsame : ∀ {o' : Office}, o'.store.infos = o.store.infos →
      o'.store.info id = o.store.info id := fun h => by rw [Store.info, h, Store.info]
  cases e with
  | register actor a => exact hsame (registerEnd p o actor a).infos
  | change c =>
    cases c with
    | update actor a suppress => exact hsame (updateEnd p o actor a suppress).infos
    | updateInfo actor i =>
      have hne : i.attendeeId ≠ id := he
      change ((Desk.updateInfo p actor i).after o).store.info id = _
      rw [Store.info, (infoEnd p hs actor i).infos, Table.get?_insert_of_ne _ _ hne, Store.info]
    | changeStatus actor j new comment override suppress =>
      exact hsame (statusEnd p hs actor j new comment override suppress).infos
  | inject _ => rfl
  | outage _ => rfl
  | tick _ => rfl

theorem Office.info_run (hs : o.store.WellKept) {id : Int} {events : List Event}
    (hevents : ∀ e ∈ events, ¬ e.NotesAbout id) :
    (o.run p events).store.info id = o.store.info id :=
  run_of_wellKept (fun o' => o'.store.info id = o.store.info id)
    (fun _ e he hs hsame => (e.info_apply hs (hevents e he)).trans hsame) hs rfl

end Notes

/-! ## What turned down requests leave -/

theorem Office.withInfo_eq_self_iff {o : Office} {i : AdminInfo} :
    o.withInfo i = o ↔ o.store.infos.get? i.attendeeId = some i := by
  constructor
  · intro h
    rw [← h]
    exact Table.get?_insert_self ..
  · intro h
    rw [Office.withInfo, Store.putInfo, Table.insert_of_get? h]

/-- Take any office in which numbers, histories and notes of deletion fit together, as they do in
every office that came about by requests. A request to register or to edit that is turned down
leaves the office as it was. Information is turned down exactly if nobody is registered under its
number, and is noted all the same: the office is as it was only if the same was noted before. The
information then stays whatever happens, until other information is noted about the number, so it is
what the office has noted about an attendee registered under the number later. -/
theorem turned_down_traceless {p : Policy} {o : Office} (hs : o.store.WellKept) :
    (∀ actor a, (Desk.register p actor a).TurnedDown o →
      (Desk.register p actor a).after o = o) ∧
    (∀ actor a suppress, (Desk.update p actor a suppress).TurnedDown o →
      (Desk.update p actor a suppress).after o = o) ∧
    ∀ actor i,
      ((Desk.updateInfo p actor i).TurnedDown o ↔
        o.store.attendees.get? i.attendeeId = none) ∧
      (o.store.attendees.get? i.attendeeId = none →
        let o' := (Desk.updateInfo p actor i).after o
        o' = o.withInfo i ∧ (o' = o ↔ o.store.infos.get? i.attendeeId = some i) ∧
        ∀ events : List Event, (∀ e ∈ events, ¬ e.NotesAbout i.attendeeId) →
          (o'.run p events).store.info i.attendeeId = i) := by
  refine ⟨fun actor a h => ?_, fun actor a suppress h => ?_, fun actor i =>
    ⟨Desk.turnedDown_updateInfo_iff (hs.numbered i.attendeeId), fun hnone => ?_⟩⟩
  · obtain ⟨e, he, hdown⟩ := h
    exact Desk.ends_register_traceless.of_error he hdown
  · obtain ⟨e, he, hdown⟩ := h
    exact Desk.ends_update_traceless.of_error he hdown
  · intro o'
    have hends : (Desk.updateInfo p actor i).Ends o _ _ := Desk.ends_updateInfo_of_none hnone
    obtain ⟨-, -, -, hnoted⟩ := hends.exists_error
    have hafter : o' = o.withInfo i := hnoted
    rw [hafter]
    refine ⟨rfl, Office.withInfo_eq_self_iff, fun events hevents => ?_⟩
    rw [Office.info_run (hs.putInfo i) hevents]
    exact congrArg (Option.getD · _) (Table.get?_insert_self ..)

/-- Registering twice leaves the first registration; information about number 2 that came too early
is there for the attendee who gets that number. -/
theorem turned_down_before_second :
    let o := (Office.openingWith dayCounts newYear).run dayPolicy [.register clerk fox]
    let i : AdminInfo := ⟨2, [], [], "vip", 0, ""⟩
    let o' := (Desk.updateInfo dayPolicy clerk i).after o
    (Desk.register dayPolicy clerk fox).after o = o ∧
      (o'.run dayPolicy [.register clerk { fox with nickname := "Hare" }]).store.info 2 = i := by
  intro o i o'
  have hs : o.store.WellKept := Office.wellKept_run (Office.wellKept_openingWith _ _) _
  obtain ⟨hregister, -, hinfo⟩ := turned_down_traceless (p := dayPolicy) hs
  have htwice : (Desk.register dayPolicy clerk fox).TurnedDown o :=
    ⟨.duplicate, by decide +kernel, rfl⟩
  have hnobody : o.store.attendees.get? 2 = none := by decide +kernel
  obtain ⟨-, -, hstays⟩ := (hinfo clerk i).2 hnobody
  refine ⟨hregister clerk fox htwice, hstays _ fun e he => ?_⟩
  rw [List.mem_singleton.mp he]
  exact fun h => h

/-- A call that was turned down makes a guest of the attendee who is registered next: approved, the
attendee owes nothing and counts as having paid, and without that call would owe the price. -/
theorem guest_by_refused_info :
    let o := Office.openingWith dayCounts newYear
    let i : AdminInfo := ⟨1, ["guest"], [], "", 0, ""⟩
    let o' := (Desk.updateInfo dayPolicy clerk i).after o
    let later := [Event.register clerk fox,
      .change (.changeStatus clerk 1 (.status .approved) "" "" false)]
    (Desk.updateInfo dayPolicy clerk i).TurnedDown o ∧ o'.store.info 1 ≠ o.store.info 1 ∧
      (o.run dayPolicy later).store.statusOf 1 = .approved ∧
      duesOf ((o.run dayPolicy later).ledger.history 1) = 10000 ∧
      (o'.run dayPolicy later).store.statusOf 1 = .paid ∧
      duesOf ((o'.run dayPolicy later).ledger.history 1) = 0 := by
  intro o i o' later
  refine ⟨⟨.attendeeNotFound 1, by decide +kernel, rfl⟩, ?_⟩
  decide +kernel

end Registration
