import Registration.Proofs.Office.Ownership

/-!
# Marks of deleted registrations

A deleted registration has the deletion mark at the end of its identity and of its zip, so that
others may have these texts. The identity of every deleted registration is marked after every run.
The zip is marked as the last step of a change, when the ledger has been brought in line. An edit
stores the zip that was submitted before that, so if the ledger fails then, a deleted registration
is left with an unmarked zip (`Event.LeavesUnmarked`, `unmarked_after_failed_edit`). Nothing else
leaves one (`deleted_marked_run_iff`).
-/

namespace Registration

namespace Store

/-- The identities of all deleted registrations are marked. -/
def DeletedIdentitiesMarked (s : Store) : Prop :=
  ∀ id a, s.attendees.get? id = some a → s.currentStatus a = .deleted →
    DeletionMark.mark id <:+ a.identity.toList

/-- The zips of all deleted registrations are marked. -/
def DeletedZipsMarked (s : Store) : Prop :=
  ∀ id a, s.attendees.get? id = some a → s.currentStatus a = .deleted →
    DeletionMark.mark id <:+ a.zip.toList

end Store

/-- A record in line with its deletion is marked twice. -/
theorem marked_refresh (a : Attendee) (b : Balances) :
    DeletionMark.mark a.id <:+ (a.refresh b .deleted).identity.toList ∧
      DeletionMark.mark a.id <:+ (a.refresh b .deleted).zip.toList :=
  ⟨DeletionMark.mark_suffix_add a.id a.identity, DeletionMark.mark_suffix_add a.id a.zip⟩

/-! ## Edits of deleted registrations -/

/-- Deleted registrations take no places, before an edit or after it. -/
theorem allocation_of_deleted (p : Policy) (t : CountTable) (before after : Attendee) :
    allocation p t before after .deleted .deleted = .ok [] := by
  have hnone : ∀ limited, deltasOn t before after .deleted .deleted limited = .ok [] := by
    intro limited
    induction limited with
    | nil => rfl
    | cons e rest ih =>
      obtain ⟨code, conf⟩ := e
      have hempty : (packageDelta code (before.packageCount code) (after.packageCount code)
          .deleted .deleted).isEmpty = true := by
        simp [packageDelta, CountDelta.isEmpty, Status.pendingMultiplier,
          Status.attendingMultiplier, Status.isPending, Status.isAttending]
      rw [deltasOn, if_pos hempty, ih]
  exact hnone p.limitedPackages

/-- The store has the record, as one of a deleted registration. -/
structure Store.HoldsDeleted (s : Store) (a : Attendee) : Prop where
  record : s.attendees.get? a.id = some a
  status : s.statusOf a.id = .deleted

theorem Store.HoldsDeleted.putRecord {s : Store} {a b : Attendee} (h : s.HoldsDeleted a)
    (hid : b.id = a.id) : (s.putRecord b).HoldsDeleted b :=
  ⟨Table.get?_insert_self .., hid ▸ h.status⟩

namespace Desk

variable {p : Policy} {actor : Actor} {o : Office}

/-- A commit of a deleted registration brings the record in line; when it fails, it has stored
nothing. -/
theorem ends_commit_of_deleted {a : Attendee} {comment override : String} {suppress : Bool}
    {recorded : Desk Unit} (hheld : o.store.HoldsDeleted a) :
    (commit p a .deleted .deleted comment override suppress recorded).Ends o
      (fun _ o' => ∃ balances, o'.store.HoldsDeleted (a.refresh balances .deleted))
      fun e o' => e ≠ .duplicate ∧ o'.store = o.store := by
  have hstatus : ∀ {r o₁}, o.Settles p a .deleted .deleted comment override r o₁ →
      r.status = .deleted := by
    intro r o₁ hsettles
    rw [hsettles.result]
    change (Balances.ofHistory (o₁.ledger.history a.id)).resultingStatus p.graceCents .deleted =
      .deleted
    exact Balances.resultingStatus_of_not_paymentPhase rfl
  refine ends_bind ((ends_commitUntold hheld.record suppress).mono (fun c o₁ h => ?_)
    fun e o₁ h => ?_)
  · cases h with
    | changed hsettles hnew hrecorded => exact absurd (hstatus hsettles) hnew
    | @unchanged r _ hsettles hsame =>
      -- a deletion is not told when it stays as it is
      have hquiet : noticeFor (o.store.info a.id) a .deleted .deleted comment suppress r = none := by
        simp [noticeFor, hsame]
      rw [hquiet]
      refine ends_pure ⟨Balances.ofHistory (o₁.ledger.history a.id), ?_⟩
      have hput : o₁.store.HoldsDeleted r.attendee := by
        rw [hsettles.store, Store.settle, if_pos hsame]
        exact hheld.putRecord hsettles.id_eq
      rw [hsettles.result] at hput
      exact hput
  · cases h with
    | refused hcause hposted =>
      refine ⟨?_, hposted.store⟩
      rintro rfl
      rcases hcause with hnumber | hcut
      · cases hnumber
      · obtain ⟨detail, h⟩ := hcut.unavailable
        cases h
    | unrecorded hsettles hnew hrecorded => exact absurd (hstatus hsettles) hnew

variable (p actor) in
/-- An edit of a deleted registration brings the record in line with its deletion, or is refused as
a duplicate with nothing stored, or fails and leaves the record as it was submitted. -/
theorem ends_update_of_deleted {x a : Attendee} (suppress : Bool) (hid : x.id = a.id)
    (hheld : o.store.HoldsDeleted a) :
    (update p actor x suppress).Ends o
      (fun _ o' => ∃ balances, o'.store.HoldsDeleted ((editedRecord a x).refresh balances .deleted))
      fun e o' => e = .duplicate ∧ o'.store = o.store ∨
        e ≠ .duplicate ∧ o'.store.HoldsDeleted (editedRecord a x) := by
  have hstored : o.store.attendees.get? x.id = some a := hid ▸ hheld.record
  have hdeleted : o.store.currentStatus a = .deleted :=
    (Store.currentStatus_eq _ a).trans hheld.status
  have hnumber : (editedRecord a x).id = x.id := id_editedRecord a x
  have hput : o.store.putAttendee (editedRecord a x) =
      .ok (o.store.putRecord (editedRecord a x)) :=
    Store.putAttendee_of_get? (hnumber.symm ▸ hstored)
  have hedited : (o.store.putRecord (editedRecord a x)).HoldsDeleted (editedRecord a x) :=
    hheld.putRecord (hnumber.trans hid)
  unfold update
  refine ends_bind (ends_store (ends_bind (ends_require (fun stored hget => ?_) fun e he => ?_)))
  swap
  · cases (error_of_attendee he).1.symm.trans hstored
  obtain rfl := Option.some.inj (hstored.symm.trans (get?_of_attendee hget))
  refine ends_bind (ends_checkUnique.mono (fun _ o₁ h => ?_) fun e o₁ h => ?_)
  swap
  · exact .inl ⟨h.2, by rw [h.1]⟩
  obtain ⟨rfl, -⟩ := h
  dsimp only
  rw [hdeleted, allocation_of_deleted]
  refine ends_bind (ends_require (fun deltas hdeltas => ?_) fun e he => nomatch he)
  obtain rfl := Except.ok.inj hdeltas
  refine ends_bind (ends_require (fun s hs => ?_) fun e he => nomatch hput.symm.trans he)
  obtain rfl := Except.ok.inj (hput.symm.trans hs)
  refine ends_bind (ends_modifyStore (ends_bind (ends_pure ?_)))
  refine (ends_commit_of_deleted hedited).mono (fun _ o' h => h) fun e o' h => .inr ⟨h.1, ?_⟩
  rw [h.2]
  exact hedited

end Desk

/-- An edit of a deleted registration comes with an unmarked zip and fails, but not as a
duplicate. -/
inductive Event.LeavesUnmarked (p : Policy) (o : Office) : Event → Prop
  | edit {actor : Actor} {x a : Attendee} {suppress : Bool} {f : Failure}
    (hstored : o.store.attendees.get? x.id = some a)
    (hdeleted : o.store.currentStatus a = .deleted)
    (hzip : ¬ DeletionMark.mark x.id <:+ x.zip.toList)
    (hfails : (Desk.update p actor x suppress).answer o = .error f) (hother : f ≠ .duplicate) :
    LeavesUnmarked p o (.change (.update actor x suppress))

/-! ## Steps -/

/-- A deleted registration is what it was, or was submitted with an edit, or is marked twice. -/
theorem RecordStep.of_deleted {e : Event} {a b : Attendee} {s : Status}
    (h : RecordStep e a s b .deleted) :
    s = .deleted ∧ b = a ∨
      (s = .deleted ∧ ∃ actor x suppress, e = .change (.update actor x suppress) ∧ x.id = a.id ∧
        b = Desk.editedRecord a x) ∨
      DeletionMark.mark a.id <:+ b.identity.toList ∧ DeletionMark.mark a.id <:+ b.zip.toList := by
  cases h with
  | kept => exact .inl ⟨rfl, rfl⟩
  | submitted he hid => exact .inr (.inl ⟨rfl, _, _, _, he, hid, rfl⟩)
  | @refreshed b balances target _ hb hdeleted =>
    obtain rfl := hdeleted.mp rfl
    rw [← hb.id_eq]
    exact .inr (.inr (marked_refresh b balances))

section Steps

variable {p : Policy} {o : Office} {id : Int} {b : Attendee} {e : Event}

/-- A deleted registration was there before, and the event has taken it a step. -/
theorem Event.exists_step_of_deleted (hs : o.store.WellKept)
    (hb : (e.apply p o).store.attendees.get? id = some b)
    (hdeleted : (e.apply p o).store.currentStatus b = .deleted) :
    ∃ a, o.store.attendees.get? id = some a ∧ a.id = id ∧
      RecordStep e a (o.store.currentStatus a) b .deleted := by
  have hid : b.id = id := (e.wellKept_apply hs).numbered id b hb
  rw [Store.currentStatus_eq, hid] at hdeleted
  cases ha : o.store.attendees.get? id with
  | none =>
    obtain ⟨_, _, -, -, hnew⟩ := Event.exists_register hs ha hb
    cases hnew.symm.trans hdeleted
  | some a =>
    obtain rfl := hs.numbered id a ha
    obtain ⟨b', hb', hstep⟩ := e.recordStep (p := p) hs ha
    obtain rfl := Option.some.inj (hb.symm.trans hb')
    rw [hdeleted, ← Store.currentStatus_eq] at hstep
    exact ⟨a, rfl, rfl, hstep⟩

theorem Event.deletedIdentitiesMarked_apply (hs : o.store.WellKept)
    (hmarked : o.store.DeletedIdentitiesMarked) (e : Event) :
    (e.apply p o).store.DeletedIdentitiesMarked := by
  intro id b hb hdeleted
  obtain ⟨a, ha, rfl, hstep⟩ := Event.exists_step_of_deleted hs hb hdeleted
  rcases hstep.of_deleted with ⟨hold, rfl⟩ | ⟨hold, _, x, _, -, -, rfl⟩ | ⟨hidentity, -⟩
  · exact hmarked _ _ ha hold
  · rw [Desk.identity_editedRecord]
    exact hmarked _ a ha hold
  · exact hidentity

variable (p) in
/-- An edit of a deleted registration leaves the zip unmarked exactly if it came so and failed,
other than as a duplicate. -/
theorem Desk.zip_marked_after_update (actor : Actor) {x a : Attendee} (suppress : Bool)
    (hs : o.store.WellKept) (hstored : o.store.attendees.get? x.id = some a)
    (hdeleted : o.store.currentStatus a = .deleted)
    (hmarked : DeletionMark.mark x.id <:+ a.zip.toList) :
    ∃ c, ((Desk.update p actor x suppress).after o).store.HoldsDeleted c ∧ c.id = x.id ∧
      (DeletionMark.mark x.id <:+ c.zip.toList ↔ ¬ (¬ DeletionMark.mark x.id <:+ x.zip.toList ∧
        ∃ f, (Desk.update p actor x suppress).answer o = .error f ∧ f ≠ .duplicate)) := by
  have hid : a.id = x.id := hs.numbered x.id a hstored
  have hheld : o.store.HoldsDeleted a :=
    ⟨hid ▸ hstored, (Store.currentStatus_eq _ a).symm.trans hdeleted⟩
  have hends := Desk.ends_update_of_deleted p actor suppress hid.symm hheld
  cases hanswer : (Desk.update p actor x suppress).answer o with
  | ok c =>
    obtain ⟨balances, hleft⟩ := hends.of_ok hanswer
    refine ⟨_, hleft, Desk.id_editedRecord a x, iff_of_true ?_ ?_⟩
    · have hzip := (marked_refresh (Desk.editedRecord a x) balances).2
      rwa [Desk.id_editedRecord] at hzip
    · rintro ⟨-, f, hf, -⟩
      cases hf
  | error f =>
    rcases hends.of_error hanswer with ⟨hduplicate, hkept⟩ | ⟨hother, hleft⟩
    · refine ⟨a, hkept ▸ hheld, hid, iff_of_true hmarked ?_⟩
      rintro ⟨-, g, hg, hother⟩
      exact hother ((Except.error.inj hg).symm.trans hduplicate)
    · refine ⟨_, hleft, Desk.id_editedRecord a x, ?_⟩
      rw [Desk.zip_editedRecord]
      constructor
      · exact fun h hnot => hnot.1 h
      · exact fun h => not_not.mp fun hnot => h ⟨hnot, f, rfl, hother⟩

/-- Edits that leave a zip unmarked are the only events after which one is. -/
theorem Event.deletedZipsMarked_iff (hs : o.store.WellKept) (hmarked : o.store.DeletedZipsMarked)
    (e : Event) : (e.apply p o).store.DeletedZipsMarked ↔ ¬ e.LeavesUnmarked p o := by
  constructor
  · intro hafter hleaves
    obtain @⟨actor, x, a, suppress, f, hstored, hdeleted, hzip, hfails, hother⟩ := hleaves
    obtain ⟨c, hheld, hid, hiff⟩ := Desk.zip_marked_after_update p actor suppress hs
      hstored hdeleted (hmarked x.id a hstored hdeleted)
    have hmark : DeletionMark.mark c.id <:+ c.zip.toList :=
      hafter c.id c hheld.record ((Store.currentStatus_eq _ c).trans hheld.status)
    exact hiff.mp (hid ▸ hmark) ⟨hzip, f, hfails, hother⟩
  · intro hnone id b hb hdeleted
    obtain ⟨a, ha, rfl, hstep⟩ := Event.exists_step_of_deleted hs hb hdeleted
    rcases hstep.of_deleted with ⟨hold, rfl⟩ | ⟨hold, actor, x, suppress, rfl, hid, rfl⟩ | ⟨-, hzip⟩
    · exact hmarked _ _ ha hold
    · rw [← hid] at ha hb ⊢
      obtain ⟨c, hheld, hcid, hiff⟩ := Desk.zip_marked_after_update p actor suppress hs
        ha hold (hmarked x.id a ha hold)
      have hsame : c = Desk.editedRecord a x :=
        Option.some.inj (hheld.record.symm.trans (hcid ▸ hb))
      rw [← hsame]
      refine hiff.mpr fun ⟨hzip, f, hfails, hother⟩ => ?_
      exact hnone (.edit ha hold hzip hfails hother)
    · exact hzip

end Steps

/-! ## Runs -/

theorem deletedIdentitiesMarked_run {p : Policy} {o : Office} (hs : o.store.WellKept)
    (hmarked : o.store.DeletedIdentitiesMarked) (events : List Event) :
    (o.run p events).store.DeletedIdentitiesMarked :=
  Office.run_of_wellKept (fun o => o.store.DeletedIdentitiesMarked)
    (fun _ e _ hs hmarked => e.deletedIdentitiesMarked_apply hs hmarked) hs hmarked

/-- Start without registrations, and let any events happen, with requests that end in any way, any
outages and any transactions that come in. The identities of deleted registrations always have the
deletion mark. Their zips have it all along the run exactly if the run has no edit of a deleted
registration that comes with an unmarked zip and fails after the check for duplicates. -/
theorem deleted_marked_run_iff (p : Policy) (counts : CountTable) (clock : Clock)
    (events : List Event) :
    let office := fun done : List Event => (Office.openingWith counts clock).run p done
    (∀ done, (office done).store.DeletedIdentitiesMarked) ∧
      ((∀ done, done <+: events → (office done).store.DeletedZipsMarked) ↔
        ∀ done e, done ++ [e] <+: events → ¬ e.LeavesUnmarked p (office done)) := by
  intro office
  have hs : (Office.openingWith counts clock).store.WellKept :=
    Office.wellKept_openingWith counts clock
  constructor
  · intro done
    exact deletedIdentitiesMarked_run hs (fun _ _ ha => nomatch ha) done
  · exact Office.forall_prefix_iff (fun o => o.store.DeletedZipsMarked)
      (fun _ e hs hmarked => e.deletedZipsMarked_iff hs hmarked) hs (fun _ _ ha => nomatch ha)
      events

/-- A registration is deleted, and then edited while the ledger cannot be listed. The edit fails and
leaves its zip, unmarked, with the deleted registration, which now takes the texts of the edit. -/
theorem unmarked_after_failed_edit :
    let o := (Office.openingWith dayCounts newYear).run dayPolicy
      [.register (visitor "101") fox,
        .change (.changeStatus clerk 1 (.status .deleted) "" "" false),
        .outage { Outages.none with listing := some "down" },
        .change (.update (visitor "101") { fox with zip := "99999" } false)]
    ¬ o.store.DeletedZipsMarked ∧ o.store.statusOf 1 = .deleted ∧
      o.store.countKey ("Fox", "99999", "fox@example.org") = 1 := by
  intro o
  have hdeleted : o.store.statusOf 1 = .deleted := by decide +kernel
  refine ⟨fun hmarked => ?_, hdeleted, by decide +kernel⟩
  have hstored : (o.store.attendees.get? 1).map (fun a => (a.id, a.zip)) = some (1, "99999") := by
    decide +kernel
  obtain ⟨a, ha, hfacts⟩ := Option.map_eq_some_iff.mp hstored
  obtain ⟨hid, hzip⟩ := Prod.mk.inj hfacts
  have hmark := hmarked 1 a ha (by rw [Store.currentStatus_eq, hid, hdeleted])
  rw [hzip] at hmark
  exact absurd hmark (by decide +kernel)

end Registration
