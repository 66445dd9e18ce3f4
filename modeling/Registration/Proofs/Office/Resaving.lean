import Registration.Proofs.Office.Authority
import Registration.Proofs.Office.Capacity
import Registration.Proofs.Office.RecordSteps
import Registration.Proofs.Text.Lowercase

/-!
# Saving a record as it is

Addresses are brought into the form in which they are kept when a record comes in or is edited, and
nothing else changes them, so in every office that can come about all addresses have that form
(`Office.Reachable.wellKept_and_emailsNormalized`). An edit that submits the stored record as it is
therefore puts the record that is there, and has no effect on a count (`Desk.ends_update_unedited`):
it is only a commit of the record. A commit fails for a collaborator or for a number, and leaves
what the attendee has written (`update_unedited`).
-/

namespace Registration

/-! ## Addresses -/

/-- All addresses have the form in which they are kept. -/
def Store.EmailsNormalized (s : Store) : Prop :=
  ∀ id a, s.attendees.get? id = some a → Email.normalize a.email = a.email

section Addresses

variable {p : Policy} {o : Office} {a b : Attendee}

theorem Attendee.email_refresh (a : Attendee) (balances : Balances) (s : Status) :
    (a.refresh balances s).email = a.email := by
  unfold refresh
  rfl

theorem Desk.email_editedRecord (stored x : Attendee) :
    (editedRecord stored x).email = Email.normalize x.email := by
  unfold editedRecord
  rfl

/-- A step of a registration keeps its address in form. -/
theorem RecordStep.email {e : Event} {s s' : Status} (h : RecordStep e a s b s')
    (ha : Email.normalize a.email = a.email) : Email.normalize b.email = b.email := by
  cases h with
  | kept => exact ha
  | submitted _ _ => rw [Desk.email_editedRecord, Email.normalize_normalize]
  | refreshed hedit _ =>
    rw [Attendee.email_refresh]
    rcases hedit with rfl | ⟨x, -, rfl⟩
    · exact ha
    · rw [Desk.email_editedRecord, Email.normalize_normalize]

/-- Every event keeps all addresses in form. -/
theorem Event.emailsNormalized_apply (hs : o.store.WellKept) (h : o.store.EmailsNormalized)
    (e : Event) : (e.apply p o).store.EmailsNormalized := by
  intro id b hb
  cases ha : o.store.attendees.get? id with
  | none =>
    obtain ⟨actor, x, -, rfl, -⟩ := e.exists_register hs ha hb
    exact Email.normalize_normalize x.email
  | some a =>
    obtain rfl := hs.numbered id a ha
    obtain ⟨b', hb', hstep⟩ := e.recordStep (p := p) hs ha
    obtain rfl := Option.some.inj (hb'.symm.trans hb)
    exact hstep.email (h _ a ha)

end Addresses

/-! ## Offices that can come about -/

/-- The office can come about: it starts without registrations and with any counts, and then
requests come in and other things happen, under any settings. -/
inductive Office.Reachable : Office → Prop
  | opening (counts : CountTable) (clock : Clock) : Reachable (openingWith counts clock)
  | happened {o : Office} (h : Reachable o) (p : Policy) (e : Event) : Reachable (e.apply p o)
  | resent {o : Office} (h : Reachable o) (p : Policy) (id : Int) :
    Reachable ((Desk.resendMail p id).after o)
  | recalculated {o : Office} (h : Reachable o) (package : String) :
    Reachable ((Desk.recalculate package).after o)

namespace Desk

variable {o : Office}

/-- Sending a mail again stores nothing. -/
theorem store_resendMail (p : Policy) (id : Int) :
    ((resendMail p id).after o).store = o.store := by
  have hends : (resendMail p id).Ends o (fun _ o' => o'.store = o.store)
      fun _ o' => o'.store = o.store := by
    unfold resendMail attendee resend
    refine ends_bind (ends_bind (ends_store (ends_require (fun a _ => ?_) fun _ _ => rfl)))
    refine ends_bind (ends_store ?_)
    dsimp only
    split
    · exact ends_pure rfl
    · exact ends_notify.mono (fun _ _ hk => hk.store) fun _ _ hk => hk.1.store
  exact hends.after_of

/-- Deriving a count anew changes counts only. -/
theorem store_recalculate (package : String) :
    ∃ t, ((recalculate package).after o).store = { o.store with counts := t } := by
  have hends : (recalculate package).Ends o
      (fun _ o' => ∃ t, o'.store = { o.store with counts := t })
      fun _ o' => ∃ t, o'.store = { o.store with counts := t } := by
    have hkept : ∃ t, o.store = { o.store with counts := t } := ⟨_, rfl⟩
    unfold recalculate
    refine ends_bind (ends_store (ends_bind (ends_require (fun stored _ => ?_) fun _ _ => hkept)))
    dsimp only
    have hreset : ∀ {o₁ : Office}, o₁.store = o.store →
        (do
          let t ← require (o.store.counts.reset (occupancy o.store package))
          setCounts t
          pure (occupancy o.store package) : Desk Count).Ends o₁
          (fun _ o' => ∃ t, o'.store = { o.store with counts := t })
          fun _ o' => ∃ t, o'.store = { o.store with counts := t } := by
      intro o₁ ho₁
      refine ends_bind (ends_require (fun t _ => ?_) fun _ _ => ⟨_, ho₁⟩)
      exact ends_bind (ends_modifyStore (ends_pure ⟨t, by rw [ho₁]⟩))
    split
    · exact ends_bind (ends_note (hreset rfl))
    · exact hreset rfl
  exact hends.after_of

end Desk

namespace Office.Reachable

variable {o : Office}

theorem run (h : o.Reachable) (p : Policy) (events : List Event) : (o.run p events).Reachable :=
  run_induction Reachable (fun _ e _ h => h.happened p e) h

/-- The store is well kept, with all addresses in form. -/
theorem wellKept_and_emailsNormalized (h : o.Reachable) :
    o.store.WellKept ∧ o.store.EmailsNormalized := by
  induction h with
  | opening counts clock => exact ⟨wellKept_openingWith counts clock, fun _ _ ha => by cases ha⟩
  | happened _ p e ih => exact ⟨e.wellKept_apply ih.1, e.emailsNormalized_apply ih.1 ih.2⟩
  | resent _ p id ih =>
    rw [Desk.store_resendMail]
    exact ih
  | @recalculated o _ package ih =>
    obtain ⟨t, ht⟩ := Desk.store_recalculate (o := o) package
    rw [ht]
    exact ⟨ih.1.withCounts t, ih.2⟩

end Office.Reachable

/-! ## An edit without changes -/

/-- A record whose texts no other one has is the only one that is counted for them. -/
theorem Store.countKey_le_one {s : Store} {id : Int} {key : String × String × String}
    (h : ∀ j b, s.attendees.get? j = some b → b.key = key → j = id) : s.countKey key ≤ 1 := by
  calc s.countKey key = s.attendees.entries.countP fun e => e.2.key = key :=
        List.countP_map
    _ ≤ s.attendees.entries.countP fun e => e.1 = id :=
        List.countP_mono_left fun e he hkey =>
          decide_eq_true (h e.1 e.2 (Table.mem_entries_iff.mp he) (of_decide_eq_true hkey))
    _ = s.attendees.keys.count id := by
        rw [Table.keys, List.count, List.countP_map]
        rfl
    _ ≤ 1 := List.nodup_iff_count_le_one.mp s.attendees.distinct id

/-- A change that asks for what there is has no effects, whatever the rows are. -/
theorem deltasOn_self (t : CountTable) (a : Attendee) (s : Status)
    (limited : List (String × PackageConfig)) : deltasOn t a a s s limited = .ok [] := by
  induction limited with
  | nil => rfl
  | cons e rest ih =>
    have hempty :
        (packageDelta e.1 (a.packageCount e.1) (a.packageCount e.1) s s).isEmpty = true := by
      simp [packageDelta, CountDelta.isEmpty]
    rw [deltasOn, if_pos hempty, ih]

namespace Desk

variable {p : Policy} {o : Office} {a : Attendee}

theorem editedRecord_self (h : Email.normalize a.email = a.email) : editedRecord a a = a := by
  unfold editedRecord Attendee.withFiguresOf
  rw [h]

/-- A commit that records nothing fails for a collaborator or for a number only. -/
theorem ends_commit_hindrance {old target : Status} {comment override : String} {suppress : Bool}
    (hstored : o.store.attendees.get? a.id = some a) :
    (commit p a old target comment override suppress (pure ())).Ends o (fun _ _ => True)
      fun e _ => e.isHindrance = true := by
  have hrecorded : ∀ o : Office,
      (pure () : Desk Unit).Ends o (fun _ o' => o'.ledger = o.ledger) fun _ _ => False :=
    fun _ => ends_pure rfl
  refine (ends_commit_hindered hrecorded).mono (fun _ _ h => h) fun e _ h => ?_
  rcases h with hhindrance | hnever | ⟨-, hunknown⟩
  · exact hhindrance
  · exact hnever.elim
  · cases hstored.symm.trans hunknown

/-- An edit that submits the stored record, whose texts no other record has, is a commit of it. -/
theorem ends_update_unedited {actor : Actor} {suppress : Bool}
    {Q : Committed → Office → Prop} {E : Failure → Office → Prop}
    (ha : o.store.attendees.get? a.id = some a) (hemail : Email.normalize a.email = a.email)
    (hsole : ∀ j b, o.store.attendees.get? j = some b → b.key = a.key → j = a.id)
    (h : (commit p a (o.store.currentStatus a) (o.store.currentStatus a)
      ("attendee update by " ++ actor.subject) "" suppress (pure ())).Ends o Q E) :
    (update p actor a suppress).Ends o Q E := by
  unfold update
  refine ends_bind (ends_store (ends_bind (ends_require (fun stored hstored => ?_) fun e he => ?_)))
  swap
  · rw [(error_of_attendee he).1] at ha
    cases ha
  obtain rfl := Option.some.inj (ha.symm.trans (get?_of_attendee hstored))
  rw [editedRecord_self hemail]
  dsimp only
  rw [if_pos rfl]
  have hcount : o.store.countKey a.key ≤ 1 := Store.countKey_le_one hsole
  have hunique : (checkUnique a 1).Ends o (fun _ o₁ => o₁ = o) E := by
    unfold checkUnique
    refine ends_bind (ends_store ?_)
    rw [if_neg (by omega)]
    exact ends_pure rfl
  have hdeltas : allocation p o.store.counts a a (o.store.currentStatus a)
      (o.store.currentStatus a) = .ok [] := deltasOn_self ..
  refine ends_bind (hunique.mono (fun _ o₁ h₁ => ?_) fun _ _ he => he)
  subst h₁
  rw [hdeltas, Store.putAttendee_of_get? ha, Store.putRecord_of_get? ha]
  exact h

end Desk

/-- Take any office that can come about, and a record in it whose nickname, zip and email no other
record has. An edit that submits the record as it is stored is not refused as a duplicate, for a
limit or for a missing count; it changes no count, and nickname, email, packages, language and
moment of creation stay. For the address this is so because its form is its own form, as for every
text. -/
theorem update_unedited {p : Policy} {o : Office} (ho : o.Reachable) {id : Int} {a : Attendee}
    (ha : o.store.attendees.get? id = some a)
    (hsole : ∀ j b, o.store.attendees.get? j = some b → b.key = a.key → j = id) (actor : Actor)
    (suppress : Bool) :
    let work := Desk.update p actor a suppress
    (∀ e, work.answer o = .error e → e ≠ .duplicate ∧ (∀ package, e ≠ .overrun package) ∧
        ∀ area name, e ≠ .countMissing area name) ∧
      (work.after o).store.counts = o.store.counts ∧
      (∃ b, (work.after o).store.attendees.get? id = some b ∧ b.nickname = a.nickname ∧
        b.email = a.email ∧ b.packages = a.packages ∧ b.language = a.language ∧
        b.createdAt = a.createdAt) ∧
      ∀ address, Email.normalize (Email.normalize address) = Email.normalize address := by
  intro work
  obtain ⟨hs, hemails⟩ := ho.wellKept_and_emailsNormalized
  have hemail := hemails id a ha
  obtain rfl := hs.numbered id a ha
  have hfailure : work.Ends o (fun _ _ => True) fun e _ => e.isHindrance = true :=
    Desk.ends_update_unedited ha hemail hsole (Desk.ends_commit_hindrance ha)
  have hend : CommitEnd p a (o.store.currentStatus a) (o.store.currentStatus a)
      ("attendee update by " ++ actor.subject) "" (pure ()) o (work.answer o) (work.after o) :=
    Desk.Ends.answer_after
      (R := CommitEnd p a (o.store.currentStatus a) (o.store.currentStatus a) _ "" (pure ()) o)
      (Desk.ends_update_unedited ha hemail hsole (Desk.ends_commit ha suppress))
  refine ⟨fun e he => ?_, ?_, ?_, Email.normalize_normalize⟩
  · have hhindrance := hfailure.of_error he
    refine ⟨?_, fun package => ?_, fun area name => ?_⟩ <;> rintro rfl <;> cases hhindrance
  · exact (hend.counts_eq (records_pure p o a _)).elim id id
  · rcases hend.sameAt_or_refreshed after_pure (Store.currentStatus_eq _ a) with hsame | hrefreshed
    · exact ⟨a, hsame.record.trans ha, rfl, rfl, rfl, rfl, rfl⟩
    · obtain ⟨balances, hrecord, -⟩ := hrefreshed
      exact ⟨_, hrecord, rfl, rfl, rfl, rfl, rfl⟩

/-- An approved attendee, who has registered with capitals in the address, saves the record as it
is. -/
theorem update_unedited_approved :
    let o := (Office.openingWith dayCounts newYear).run dayPolicy
      [.register (visitor "101") { fox with email := " Fox@Example.ORG " },
        .change (.changeStatus clerk 1 (.status .approved) "" "" false)]
    o.Reachable ∧ ∃ a, o.store.attendees.get? 1 = some a ∧ a.email = "fox@example.org" ∧
      (∀ j b, o.store.attendees.get? j = some b → b.key = a.key → j = 1) ∧
      (Desk.update dayPolicy (visitor "101") a false).answer o ≠ .error .duplicate ∧
      ((Desk.update dayPolicy (visitor "101") a false).after o).store.counts = o.store.counts := by
  intro o
  have hreachable : o.Reachable := (Office.Reachable.opening dayCounts newYear).run dayPolicy _
  have hemail : (o.store.attendees.get? 1).map Attendee.email = some "fox@example.org" := by
    decide +kernel
  obtain ⟨a, ha, hemail⟩ := Option.map_eq_some_iff.mp hemail
  have hkeys : o.store.attendees.keys = [1] := by decide +kernel
  have hsole : ∀ j b, o.store.attendees.get? j = some b → b.key = a.key → j = 1 := by
    intro j b hb _
    have hmem : j ∈ o.store.attendees.keys :=
      List.mem_map.mpr ⟨(j, b), Table.mem_entries_iff.mpr hb, rfl⟩
    rw [hkeys] at hmem
    exact List.mem_singleton.mp hmem
  obtain ⟨hfailure, hcounts, -⟩ := update_unedited hreachable ha hsole (visitor "101") false
  exact ⟨hreachable, a, ha, hemail, hsole, fun h => (hfailure _ h).1 rfl, hcounts⟩

end Registration
