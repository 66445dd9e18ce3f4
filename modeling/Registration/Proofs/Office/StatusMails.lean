import Registration.Proofs.Office.MailStep
import Registration.Proofs.Office.Run

/-!
# Mails about changes

A commit finds out first what there is to tell (`noticeFor`) and sends one mail about it, unless the
mail is minor and was to be left out. So a change that gives an answer has sent one mail or none,
and its answer says which; the mail shows the figures of the ledger as the change leaves it
(`told_truthfully`).
-/

namespace Registration

/-! ## When there is something to tell -/

/-- A new status is announced unless it is deleted or checked in. From approved, partially paid or
paid to another of these a registrant may do without, but no guest. -/
def Announced (guest : Prop) (suppress : Bool) (old reached : Status) : Prop :=
  reached ≠ old ∧ reached ∉ [Status.deleted, .checkedIn] ∧
    (guest ∨ ¬ (suppress = true ∧ old ∈ [Status.approved, .partiallyPaid, .paid] ∧
      reached ∈ [Status.approved, .partiallyPaid, .paid]))

/-- Where nothing but the current status was asked for, other figures are told while something may
be owed. -/
def Reminded (guest : Prop) (suppress : Bool) (requested : Target) (old reached : Status)
    (before after : Attendee) : Prop :=
  reached = old ∧ requested = .status old ∧ (reached = .approved ∨ reached = .partiallyPaid) ∧
    (before.cachedDues ≠ after.cachedDues ∨ before.cachedPayments ≠ after.cachedPayments ∨
      before.cachedDueDate ≠ after.cachedDueDate) ∧
    (guest ∨ suppress = false)

theorem Attendee.duesDiffer_iff {a b : Attendee} :
    a.duesDiffer b = true ↔ a.cachedDues ≠ b.cachedDues ∨ a.cachedPayments ≠ b.cachedPayments ∨
      a.cachedDueDate ≠ b.cachedDueDate := by
  simp [duesDiffer, or_assoc]

section Notices

variable (p : Policy) (info : AdminInfo) (a : Attendee) (old target : Status) (comment : String)
  (suppress : Bool) (r : Reconciled)

/-- There is something to tell, and it is not left out. -/
def isSent (notice : Option Notice) : Bool :=
  match notice with
  | some n => !isSuppressed p n.info n.minor
  | none => false

theorem isSent_some_iff {n : Notice} :
    isSent p (some n) = true ↔ p.guestFlag ∈ n.info.flags ∨ n.minor = false := by
  rw [← AdminInfo.hasFlag_iff_mem]
  simp only [isSent, isSuppressed, Bool.not_and, Bool.not_not, Bool.or_eq_true,
    Bool.not_eq_true']

theorem isSent_noticeFor_iff :
    isSent p (noticeFor info a old target comment suppress r) = true ↔
      Announced (p.guestFlag ∈ info.flags) suppress old r.status ∨
        Reminded (p.guestFlag ∈ info.flags) suppress (.status target) old r.status a
          r.attendee := by
  unfold noticeFor Announced Reminded
  rw [Target.status.injEq, ← Attendee.duesDiffer_iff, ← Status.isSilent_iff_mem,
    ← Status.isPaymentPhase_iff_mem, ← Status.isPaymentPhase_iff_mem]
  by_cases hold : r.status = old
  · rw [if_pos hold]
    split_ifs with hreminds
    · rw [isSent_some_iff]
      obtain ⟨htarget, hphase, hdiffer⟩ := hreminds
      simp [hold, htarget.symm, hdiffer, hold ▸ hphase]
    · refine iff_of_false Bool.false_ne_true ?_
      rintro (⟨hnew, -⟩ | ⟨-, htarget, hphase, hdiffer, -⟩)
      · exact hnew hold
      · exact hreminds ⟨htarget.symm, hphase, hdiffer⟩
  · rw [if_neg hold]
    split_ifs with hsilent
    · simp [isSent, hold, hsilent]
    · rw [isSent_some_iff]
      simp [hold, hsilent]

end Notices

/-! ## The mail -/

/-- The mail shows dues, payments under way and what is left to pay. -/
def Mail.Shows (m : Mail) (p : Policy) (b : Balances) : Prop :=
  ∃ total underWay remaining,
    p.moneyText b.dues = .ok total ∧ m.values.lookup "total_dues" = some total ∧
    p.moneyText b.openPayments = .ok underWay ∧
      m.values.lookup "pending_payments" = some underWay ∧
    p.moneyText (b.dues - b.payments) = .ok remaining ∧
      m.values.lookup "remaining_dues" = some remaining

/-- A mail about a record shows the balances that the record was refreshed with. -/
theorem shows_of_statusVariables {p : Policy} {a : Attendee} {b : Balances} {s t : Status}
    {comment : String} {m : Mail}
    (h : statusVariables p (a.refresh b s) t comment = .ok m.values) : m.Shows p b := by
  obtain ⟨remaining, hremaining, h⟩ := bind_eq_ok_iff.mp h
  obtain ⟨total, htotal, h⟩ := bind_eq_ok_iff.mp h
  obtain ⟨underWay, hunderWay, h⟩ := bind_eq_ok_iff.mp h
  have hvalues := pure_eq_ok_iff.mp h
  refine ⟨total, underWay, remaining, htotal, ?_, hunderWay, ?_, hremaining, ?_⟩ <;>
    rw [← hvalues] <;> rfl

/-- One mail about a record was sent, or none; beside mails, nothing has changed. -/
structure Office.Mailed (o : Office) (p : Policy) (a : Attendee) (s : Status) (sent : Bool)
    (o' : Office) : Prop where
  kept : o.Kept o'
  mails : ∃ mails, o'.outbox = o.outbox ++ mails ∧ mails.length = (if sent then 1 else 0) ∧
    ∀ m ∈ mails, ∃ comment, statusVariables p a s comment = .ok m.values

theorem Office.mailed_none (o : Office) (p : Policy) (a : Attendee) (s : Status) :
    o.Mailed p a s false o :=
  ⟨.refl o, [], (List.append_nil _).symm, rfl, fun _ hm => absurd hm List.not_mem_nil⟩

namespace Desk

variable {p : Policy} {o : Office}

theorem ends_notify_mailed {a : Attendee} {info : AdminInfo} {s : Status} {comment : String}
    {suppress : Bool} :
    (notify p a info s comment suppress).Ends o
      (fun sent o' => sent = (!isSuppressed p info suppress) ∧ o.Mailed p a s sent o')
      fun _ _ => True := by
  unfold notify
  split
  · rename_i hminor
    refine ends_bind (ends_note (ends_pure ⟨by rw [hminor]; rfl, ?_⟩))
    exact ⟨⟨rfl, rfl, rfl⟩, (o.mailed_none p a s).mails⟩
  · rename_i hsend
    refine ends_bind (ends_require (fun values hvalues => ?_) fun _ _ => trivial)
    refine ends_bind (ends_send.mono (fun _ o' h => ?_) fun _ _ _ => trivial)
    subst h
    refine ends_pure ⟨by simp [hsend], ⟨rfl, rfl, rfl⟩, [_], rfl, rfl, fun m hm => ?_⟩
    obtain rfl := List.mem_singleton.mp hm
    exact ⟨comment, hvalues⟩

theorem ends_tell_mailed {a : Attendee} {s : Status} {changed : Bool} {notice : Option Notice} :
    (tell p (⟨a, s, changed, false⟩, notice)).Ends o
      (fun c o' => c = ⟨a, s, changed, isSent p notice⟩ ∧ o.Mailed p a s (isSent p notice) o')
      fun _ _ => True := by
  cases notice with
  | none => exact ends_pure ⟨rfl, o.mailed_none p a s⟩
  | some n =>
    refine ends_bind (ends_notify_mailed.mono (fun sent o' h => ?_) fun _ _ h => h)
    obtain ⟨rfl, hmailed⟩ := h
    exact ends_pure ⟨rfl, hmailed⟩

end Desk

/-! ## A commit and its mail -/

/-- After a change of the attendee with a number, the answer gives the record and the status that
are stored and says whether the status is a new one and whether there was something to tell. As many
mails were sent as it says, with the figures of the ledger. -/
structure ToldTruthfully (p : Policy) (o : Office) (id : Int) (before : Attendee)
    (requested : Target) (suppress : Bool) (c : Committed) (o' : Office) : Prop where
  stored : o'.store.attendees.get? id = some c.attendee
  status : o'.store.statusOf id = c.status
  changed : c.statusChanged = true ↔ c.status ≠ o.store.statusOf id
  notified : c.notified = true ↔
    Announced (p.guestFlag ∈ (o'.store.info id).flags) suppress (o.store.statusOf id) c.status ∨
      Reminded (p.guestFlag ∈ (o'.store.info id).flags) suppress requested (o.store.statusOf id)
        c.status before c.attendee
  mails : ∃ mails, o'.outbox = o.outbox ++ mails ∧
    mails.length = (if c.notified then 1 else 0) ∧
      ∀ m ∈ mails, m.Shows p (Balances.ofHistory (o'.ledger.history id))

namespace Desk

variable {p : Policy} {a : Attendee} {old target : Status} {comment override : String}
  {suppress : Bool} {recorded : Desk Unit} {o o₀ : Office}

variable (o) in
/-- A commit tells the truth. It may start from an office with other records than the change was
asked in, but with the same statuses and mails. -/
theorem ends_commit_told (hstored : o₀.store.attendees.get? a.id = some a)
    (hrec : ∀ o, ∃ t, recorded.after o = o.withCounts t) (houtbox : o₀.outbox = o.outbox)
    (hstatus : o₀.store.statusOf a.id = o.store.statusOf a.id) :
    (commit p a (o.store.statusOf a.id) target comment override suppress recorded).Ends o₀
      (fun c o' => ToldTruthfully p o a.id a (.status target) suppress c o') fun _ _ => True := by
  refine ends_bind ((ends_commitUntold hstored suppress).mono (fun c o₂ h => ?_)
    fun _ _ _ => trivial)
  obtain ⟨r, o₁, t, hsettles, rfl, rfl⟩ : ∃ r o₁ t,
      o₀.Settles p a (o.store.statusOf a.id) target comment override r o₁ ∧ o₂ = o₁.withCounts t ∧
        c = (r.committed (o.store.statusOf a.id), noticeFor (o₀.store.info a.id) a
          (o.store.statusOf a.id) target comment suppress r) := by
    cases h with
    | @changed _ o₁ hsettles _ _ =>
      obtain ⟨t, ht⟩ := hrec o₁
      exact ⟨_, o₁, t, hsettles, ht, rfl⟩
    | unchanged hsettles _ => exact ⟨_, o₂, o₂.store.counts, hsettles, rfl, rfl⟩
  refine ends_tell_mailed.mono (fun c o' h => ?_) fun _ _ h => h
  obtain ⟨rfl, hmailed⟩ := h
  obtain ⟨mails, hmails, hcount, htell⟩ := hmailed.mails
  -- recording changes the counts only, and the mail nothing, so what was settled is what is left
  have hid : r.attendee.id = a.id := hsettles.id_eq
  have hstore : o'.store = { o₁.store with counts := t } := hmailed.kept.store
  have hhistory : o'.ledger.history a.id = o₁.ledger.history a.id := by
    rw [hmailed.kept.ledger]
    rfl
  have hinfo : o'.store.info a.id = o₀.store.info a.id := by
    unfold Store.info
    rw [hstore, hsettles.store, ← Store.infos_settle o₀.store]
  refine ⟨?_, ?_, decide_eq_true_iff, ?_, mails, ?_, hcount, fun m hm => ?_⟩
  · rw [hstore, hsettles.store]
    change (o₀.store.settle _ _ _ _ _).attendees.get? a.id = _
    rw [Store.attendees_settle, hid]
    exact Table.get?_insert_self ..
  · rw [hstore, hsettles.store]
    change (o₀.store.settle _ _ _ _ _).statusOf a.id = _
    rw [Store.statusOf_settle (hid ▸ hstatus.symm), if_pos hid]
  · rw [hinfo]
    exact isSent_noticeFor_iff ..
  · rw [hmails, ← houtbox, ← hsettles.outbox]
    rfl
  · obtain ⟨comment, hvalues⟩ := htell m hm
    rw [hhistory]
    rw [hsettles.result] at hvalues
    exact shows_of_statusVariables hvalues

/-! ## The requests -/

/-- An edit keeps the figures of the stored record. -/
theorem reminded_editedRecord {guest : Prop} {suppress : Bool} {requested : Target} {old reached : Status}
    {stored a after : Attendee} :
    Reminded guest suppress requested old reached (editedRecord stored a) after ↔
      Reminded guest suppress requested old reached stored after := by
  unfold Reminded editedRecord Attendee.withFiguresOf
  rfl

/-- An edit asks for no other status. -/
theorem ends_update_told {actor : Actor} {a : Attendee} {suppress : Bool}
    (hs : o.store.WellKept) :
    (update p actor a suppress).Ends o
      (fun c o' => ∃ stored, o.store.attendees.get? a.id = some stored ∧
        ToldTruthfully p o a.id stored (.status (o.store.statusOf a.id)) suppress c o')
      fun _ _ => True := by
  unfold update
  refine ends_bind (ends_store (ends_bind
    (ends_require (fun stored hget => ?_) fun _ _ => trivial)))
  have hstored := get?_of_attendee hget
  have hself : (editedRecord stored a).id = a.id := id_editedRecord stored a
  have hcurrent : o.store.currentStatus stored =
      o.store.statusOf (editedRecord stored a).id := by
    rw [hself, Store.currentStatus_eq, hs.numbered _ _ hstored]
  refine ends_bind (ends_checkUnique.mono (fun _ o₁ h => ?_) fun _ _ _ => trivial)
  obtain ⟨rfl, -⟩ := h
  refine ends_bind (ends_require (fun deltas _ => ?_) fun _ _ => trivial)
  refine ends_bind (ends_require (fun s hput => ?_) fun _ _ => trivial)
  obtain rfl := Store.eq_of_putAttendee hput
  refine ends_bind (ends_modifyStore (ends_bind (ends_recordAll.mono (fun _ o₂ h => ?_)
    fun _ _ _ => trivial)))
  obtain ⟨-, rfl⟩ := h
  rw [hcurrent]
  rw [← hself] at hstored ⊢
  refine Ends.mono (ends_commit_told o₁ (Table.get?_insert_self ..) after_pure rfl rfl)
    (fun c o' h => ⟨stored, hstored, ?_⟩) fun _ _ h => h
  exact ⟨h.stored, h.status, h.changed, by rw [h.notified, reminded_editedRecord], h.mails⟩

/-- Neither does a change of administrators' information, and it never leaves a mail out. -/
theorem ends_updateInfo_told {actor : Actor} {i : AdminInfo} (hs : o.store.WellKept) :
    (updateInfo p actor i).Ends o
      (fun c o' => ∃ stored, o.store.attendees.get? i.attendeeId = some stored ∧
        ToldTruthfully p o i.attendeeId stored (.status (o.store.statusOf i.attendeeId)) false c o')
      fun _ _ => True := by
  unfold updateInfo
  refine ends_bind (ends_modifyStore (ends_bind (ends_store (ends_bind
    (ends_require (fun a hget => ?_) fun _ _ => trivial)))))
  have hstored : o.store.attendees.get? i.attendeeId = some a := get?_of_attendee hget
  have hself : a.id = i.attendeeId := hs.numbered _ _ hstored
  have hcurrent : (o.store.putInfo i).currentStatus a = o.store.statusOf a.id :=
    Store.currentStatus_eq _ a
  dsimp only
  rw [hcurrent]
  rw [← hself] at hstored ⊢
  exact Ends.mono (ends_commit_told o hstored after_pure rfl rfl)
    (fun c o' h => ⟨a, hstored, h⟩) fun _ _ h => h

theorem ends_changeStatus_told {actor : Actor} {id : Int} {asked : Target}
    {comment override : String} {suppress : Bool} (hs : o.store.WellKept) :
    (changeStatus p actor id asked comment override suppress).Ends o
      (fun c o' => ∃ stored, o.store.attendees.get? id = some stored ∧
        ToldTruthfully p o id stored asked suppress c o')
      fun _ _ => True := by
  unfold changeStatus
  refine ends_bind (ends_checkChange.mono (fun r o₁ h => ?_) fun _ _ _ => trivial)
  obtain ⟨hclear, hposted⟩ := h
  have hc := clears_of_clearance hclear
  have hself : r.attendee.id = id := hs.numbered _ _ hc.stored
  have hstored := hc.stored
  rw [hc.asked, hc.current, Store.currentStatus_eq]
  rw [← hself] at hstored ⊢
  exact Ends.mono (ends_commit_told o (hposted.store ▸ hstored) (after_recording r.deltas)
    hposted.outbox (by rw [hposted.store])) (fun c o' h => ⟨_, hstored, h⟩) fun _ _ h => h

end Desk

namespace Change

/-- The status that a change asks for; all but changes of status ask for the current one. -/
def requested (c : Change) (current : Status) : Target :=
  match c with
  | update .. => .status current
  | updateInfo .. => .status current
  | changeStatus _ _ asked .. => asked

/-- The change asks to leave minor mails out. -/
def suppresses (c : Change) : Bool :=
  match c with
  | update _ _ suppress => suppress
  | updateInfo .. => false
  | changeStatus _ _ _ _ _ suppress => suppress

end Change

/-- A change that gives an answer, asked after any events, has sent exactly one mail if the answer
says that the attendee was notified, and else none. The attendee is notified exactly of a new status
that is to be announced, and of other figures that are to be reminded of; and the mail shows the
figures of the attendee's account as the change leaves it. -/
theorem told_truthfully {p : Policy} (counts : CountTable) (clock : Clock) (events : List Event)
    (change : Change) {c : Committed} :
    let o := (Office.openingWith counts clock).run p events
    (change.perform p).answer o = .ok c →
      ∃ stored, o.store.attendees.get? change.attendeeId = some stored ∧
        ToldTruthfully p o change.attendeeId stored
          (change.requested (o.store.statusOf change.attendeeId)) change.suppresses c
          ((change.perform p).after o) := by
  intro o hanswer
  have hs : o.store.WellKept :=
    Office.wellKept_run (Office.wellKept_openingWith counts clock) events
  cases change with
  | update actor a suppress => exact (Desk.ends_update_told hs).of_ok hanswer
  | updateInfo actor i => exact (Desk.ends_updateInfo_told hs).of_ok hanswer
  | changeStatus actor id asked comment override suppress =>
    exact (Desk.ends_changeStatus_told hs).of_ok hanswer

/-- An approved attendee becomes a guest, is charged five euros by hand, and is told so under the
same status. Nobody is told of a deletion, nor of a payment if mails about the payment phase were to
be left out. -/
theorem told_of_manual_dues :
    let approved : List Event := [.register clerk fox,
      .change (.changeStatus clerk 1 (.status .approved) "" "" false)]
    let told := fun (events : List Event) (change : Change) (shown : Status × Bool × Bool) =>
      let o := (Office.openingWith dayCounts newYear).run dayPolicy events
      ∃ c stored, (change.perform dayPolicy).answer o = .ok c ∧
        (c.status, c.statusChanged, c.notified) = shown ∧
        ToldTruthfully dayPolicy o 1 stored (change.requested (o.store.statusOf 1))
          change.suppresses c ((change.perform dayPolicy).after o)
    told approved (.updateInfo clerk ⟨1, ["guest"], [], "", 500, "late"⟩)
        (.approved, false, true) ∧
      told approved (.changeStatus clerk 1 (.status .deleted) "" "" false)
        (.deleted, true, false) ∧
      told (approved ++ [.inject (receipt .payment 10000 0)])
        (.changeStatus clerk 1 (.status .paid) "" "" true) (.paid, true, false) := by
  intro approved told
  have htold : ∀ events (change : Change) shown, change.attendeeId = 1 →
      ((change.perform dayPolicy).answer
        ((Office.openingWith dayCounts newYear).run dayPolicy events)).map
          (fun c => (c.status, c.statusChanged, c.notified)) = .ok shown →
      told events change shown := by
    intro events change shown hid hshown
    obtain ⟨c, hanswer, hshown⟩ := map_eq_ok_iff.mp hshown
    obtain ⟨stored, -, htold⟩ := told_truthfully dayCounts newYear events change hanswer
    rw [hid] at htold
    exact ⟨c, stored, hanswer, hshown, htold⟩
  exact ⟨htold _ _ _ rfl (by decide +kernel), htold _ _ _ rfl (by decide +kernel),
    htold _ _ _ rfl (by decide +kernel)⟩

end Registration
