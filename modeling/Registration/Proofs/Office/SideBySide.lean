import Registration.Proofs.Office.Dossier

/-!
# Two offices side by side

`x.Pairs o₁ y o₂ Q` says that if the work `x` from one office and the work `y` from another both
give an answer, then `Q` holds of the answers and of the offices left behind. Offices are abreast at
a number if they keep the same about it, and the same effects were recorded and the same mails sent
in both of them since they set out (`Office.Abreast`). A change of an attendee keeps two offices
abreast and gives the same answer in both (`Change.inStep`): what it reads of others can only refuse
it. It leaves the dossiers of the others, so changes of different attendees commute
(`changes_commute`).
-/

namespace Registration

namespace Desk

variable {α β γ δ : Type}

/-- If both works give an answer, then `Q` holds of the answers and the offices left behind. -/
def Pairs (x : Desk α) (o₁ : Office) (y : Desk β) (o₂ : Office)
    (Q : α → Office → β → Office → Prop) : Prop :=
  ∀ a b, x.answer o₁ = .ok a → y.answer o₂ = .ok b → Q a (x.after o₁) b (y.after o₂)

/-! ## Rules -/

section Rules

variable {x : Desk α} {y : Desk β} {o₁ o₂ : Office} {Q : α → Office → β → Office → Prop}

theorem pairs_of_ends {Q₁ : α → Office → Prop} {Q₂ : β → Office → Prop}
    {E₁ E₂ : Failure → Office → Prop} (hx : x.Ends o₁ Q₁ E₁) (hy : y.Ends o₂ Q₂ E₂)
    (h : ∀ a o₁' b o₂', Q₁ a o₁' → Q₂ b o₂' → Q a o₁' b o₂') : x.Pairs o₁ y o₂ Q :=
  fun _ _ ha hb => h _ _ _ _ (hx.of_ok ha) (hy.of_ok hb)

theorem Pairs.mono {Q' : α → Office → β → Office → Prop} (h : x.Pairs o₁ y o₂ Q)
    (hQ : ∀ a o₁' b o₂', Q a o₁' b o₂' → Q' a o₁' b o₂') : x.Pairs o₁ y o₂ Q' :=
  fun a b ha hb => hQ _ _ _ _ (h a b ha hb)

theorem pairs_bind {f : α → Desk γ} {g : β → Desk δ} {R : γ → Office → δ → Office → Prop}
    (h : x.Pairs o₁ y o₂ fun a o₁' b o₂' => (f a).Pairs o₁' (g b) o₂' R) :
    (x >>= f).Pairs o₁ (y >>= g) o₂ R := by
  intro c d hc hd
  cases hx : x.answer o₁ with
  | error e => cases (bind_of_error hx f).1.symm.trans hc
  | ok a =>
    cases hy : y.answer o₂ with
    | error e => cases (bind_of_error hy g).1.symm.trans hd
    | ok b =>
      obtain ⟨hanswer₁, hafter₁⟩ := bind_of_ok hx f
      obtain ⟨hanswer₂, hafter₂⟩ := bind_of_ok hy g
      rw [hafter₁, hafter₂]
      exact h a b hx hy c d (hanswer₁.symm.trans hc) (hanswer₂.symm.trans hd)

theorem pairs_pure {a : α} {b : β} (h : Q a o₁ b o₂) :
    (pure a : Desk α).Pairs o₁ (pure b : Desk β) o₂ Q := by
  rintro _ _ ⟨⟩ ⟨⟩
  exact h

theorem pairs_require {v : Except Failure α} {w : Except Failure β}
    (h : ∀ a b, v = .ok a → w = .ok b → Q a o₁ b o₂) : (require v).Pairs o₁ (require w) o₂ Q := by
  cases v with
  | error e =>
    rintro _ _ ⟨⟩
  | ok a =>
    cases w with
    | error e =>
      rintro _ _ _ ⟨⟩
    | ok b => exact pairs_pure (h a b rfl rfl)

theorem pairs_get {Q : Office → Office → Office → Office → Prop} (h : Q o₁ o₁ o₂ o₂) :
    (get : Desk Office).Pairs o₁ get o₂ Q := by
  rintro _ _ ⟨⟩ ⟨⟩
  exact h

theorem pairs_store {Q : Store → Office → Store → Office → Prop}
    (h : Q o₁.store o₁ o₂.store o₂) : store.Pairs o₁ store o₂ Q := by
  rintro _ _ ⟨⟩ ⟨⟩
  exact h

theorem pairs_modifyStore {f g : Store → Store} {Q : Unit → Office → Unit → Office → Prop}
    (h : Q () { o₁ with store := f o₁.store } () { o₂ with store := g o₂.store }) :
    (modifyStore f).Pairs o₁ (modifyStore g) o₂ Q := by
  rintro _ _ ⟨⟩ ⟨⟩
  exact h

theorem pairs_note {level : Level} {text : String} {Q : Unit → Office → Unit → Office → Prop}
    (h : Q () { o₁ with journal := o₁.journal ++ [⟨level, text⟩] }
      () { o₂ with journal := o₂.journal ++ [⟨level, text⟩] }) :
    (note level text).Pairs o₁ (note level text) o₂ Q := by
  rintro _ _ ⟨⟩ ⟨⟩
  exact h

end Rules

end Desk

/-! ## Offices abreast -/

/-- Both offices keep the same about the number at the same time; since they set out from `b₁` and
`b₂`, the same effects were recorded and the same mails sent in both. -/
structure Office.Abreast (id : Int) (b₁ b₂ o₁ o₂ : Office) : Prop where
  dossier : o₁.dossier id = o₂.dossier id
  clock : o₁.clock = o₂.clock
  effects : ∃ ds, o₁.store.counts = b₁.store.counts.applyAll ds ∧
    o₂.store.counts = b₂.store.counts.applyAll ds
  mails : ∃ ms, o₁.outbox = b₁.outbox ++ ms ∧ o₂.outbox = b₂.outbox ++ ms

namespace Office.Abreast

variable {id : Int} {b₁ b₂ o₁ o₂ o₁' o₂' : Office}

theorem start (hdossier : b₁.dossier id = b₂.dossier id) (hclock : b₁.clock = b₂.clock) :
    Abreast id b₁ b₂ b₁ b₂ :=
  ⟨hdossier, hclock, ⟨[], rfl, rfl⟩, [], by simp⟩

section Reading

variable (h : Abreast id b₁ b₂ o₁ o₂)
include h

theorem record : o₁.store.attendees.get? id = o₂.store.attendees.get? id :=
  congrArg Dossier.record h.dossier

theorem changes : o₁.store.changes id = o₂.store.changes id := congrArg Dossier.changes h.dossier

theorem history : o₁.ledger.history id = o₂.ledger.history id :=
  congrArg Dossier.transactions h.dossier

theorem info : o₁.store.info id = o₂.store.info id := by
  have hnoted : o₁.store.infos.get? id = o₂.store.infos.get? id :=
    congrArg Dossier.info h.dossier
  rw [Store.info, hnoted, Store.info]

theorem currentStatus {a : Attendee} (hid : a.id = id) :
    o₁.store.currentStatus a = o₂.store.currentStatus a := by
  rw [Store.currentStatus_eq, Store.currentStatus_eq, hid, Store.statusOf, h.changes,
    Store.statusOf]

end Reading

section Writing

variable (h : Abreast id b₁ b₂ o₁ o₂)
include h

theorem putRecord (a : Attendee) :
    Abreast id b₁ b₂ { o₁ with store := o₁.store.putRecord a }
      { o₂ with store := o₂.store.putRecord a } :=
  ⟨by rw [dossier_putRecord, dossier_putRecord, h.dossier], h.clock, h.effects, h.mails⟩

theorem putInfo (i : AdminInfo) : Abreast id b₁ b₂ (o₁.withInfo i) (o₂.withInfo i) :=
  ⟨by rw [dossier_withInfo, dossier_withInfo, h.dossier], h.clock, h.effects, h.mails⟩

theorem enter (j : Int) (old target : Status) (comment : String) :
    Abreast id b₁ b₂ { o₁ with store := o₁.store.enter j old target comment o₁.clock.now }
      { o₂ with store := o₂.store.enter j old target comment o₂.clock.now } := by
  have hcounts : ∀ s : Store, ∀ now, (s.enter j old target comment now).counts = s.counts := by
    intro s now
    obtain ⟨deleted, henter⟩ := s.enter_eq j old target comment now
    rw [henter]
    rfl
  have hdeleted : o₁.store.isDeleted id = o₂.store.isDeleted id :=
    congrArg Dossier.isDeleted h.dossier
  refine ⟨?_, h.clock, ?_, h.mails⟩
  · rw [dossier_enter, dossier_enter, h.dossier, h.changes, h.clock, hdeleted]
  · simp only [hcounts]
    exact h.effects

theorem booked {ts : List Transaction} (h₁ : o₁.Posted ts o₁') (h₂ : o₂.Posted ts o₂') :
    Abreast id b₁ b₂ o₁' o₂' where
  dossier := by
    rw [dossier_booked o₁ id h₁.store h₁.ledger, dossier_booked o₂ id h₂.store h₂.ledger, h.dossier,
      h.history]
  clock := by rw [h₁.clock, h₂.clock, h.clock]
  effects := by
    rw [h₁.store, h₂.store]
    exact h.effects
  mails := by
    rw [h₁.outbox, h₂.outbox]
    exact h.mails

theorem recorded (ds : List CountDelta) :
    Abreast id b₁ b₂ (o₁.withCounts (o₁.store.counts.applyAll ds))
      (o₂.withCounts (o₂.store.counts.applyAll ds)) := by
  obtain ⟨es, h₁, h₂⟩ := h.effects
  refine ⟨h.dossier, h.clock, ⟨es ++ ds, ?_, ?_⟩, h.mails⟩
  · rw [CountTable.applyAll_append, ← h₁]
    rfl
  · rw [CountTable.applyAll_append, ← h₂]
    rfl

theorem sent (m : Mail) :
    Abreast id b₁ b₂ { o₁ with outbox := o₁.outbox ++ [m] }
      { o₂ with outbox := o₂.outbox ++ [m] } := by
  obtain ⟨ms, h₁, h₂⟩ := h.mails
  refine ⟨h.dossier, h.clock, h.effects, ms ++ [m], ?_, ?_⟩
  · rw [h₁, List.append_assoc]
  · rw [h₂, List.append_assoc]

theorem noted (l₁ l₂ : List LogLine) :
    Abreast id b₁ b₂ { o₁ with journal := l₁ } { o₂ with journal := l₂ } :=
  ⟨h.dossier, h.clock, h.effects, h.mails⟩

end Writing

end Office.Abreast

/-! ## Work that stays in step -/

/-- The work gives the same answer from both offices and leaves them abreast. -/
def Desk.InStep {α : Type} (x : Desk α) (id : Int) (b₁ b₂ o₁ o₂ : Office) : Prop :=
  x.Pairs o₁ x o₂ fun a o₁' b o₂' => a = b ∧ Office.Abreast id b₁ b₂ o₁' o₂'

namespace Desk

variable {p : Policy} {id : Int} {b₁ b₂ o₁ o₂ : Office}

theorem InStep.bind {α β : Type} {x : Desk α} {f : α → Desk β} (hx : x.InStep id b₁ b₂ o₁ o₂)
    (hf : ∀ a {o₁ o₂}, Office.Abreast id b₁ b₂ o₁ o₂ → (f a).InStep id b₁ b₂ o₁ o₂) :
    (x >>= f).InStep id b₁ b₂ o₁ o₂ := by
  refine pairs_bind (hx.mono ?_)
  rintro a o₁' _ o₂' ⟨rfl, h⟩
  exact hf a h

theorem inStep_pure {α : Type} {a : α} (h : Office.Abreast id b₁ b₂ o₁ o₂) :
    (pure a : Desk α).InStep id b₁ b₂ o₁ o₂ := pairs_pure ⟨rfl, h⟩

theorem inStep_notify (h : Office.Abreast id b₁ b₂ o₁ o₂) (a : Attendee) (info : AdminInfo)
    (s : Status) (comment : String) (suppress : Bool) :
    (notify p a info s comment suppress).InStep id b₁ b₂ o₁ o₂ := by
  unfold InStep notify
  split
  · exact pairs_bind (pairs_note (pairs_pure ⟨rfl, h.noted _ _⟩))
  · refine pairs_bind (pairs_require fun v w hv hw => ?_)
    obtain rfl := Except.ok.inj (hv.symm.trans hw)
    refine pairs_bind (pairs_of_ends ends_send ends_send ?_)
    rintro _ _ _ _ rfl rfl
    exact pairs_pure ⟨rfl, h.sent _⟩

theorem inStep_recording (h : Office.Abreast id b₁ b₂ o₁ o₂) (ds : List CountDelta) :
    (recording ds).InStep id b₁ b₂ o₁ o₂ := by
  refine pairs_bind (pairs_of_ends ends_recordAll ends_recordAll ?_)
  rintro _ _ _ _ ⟨-, rfl⟩ ⟨-, rfl⟩
  exact pairs_pure ⟨rfl, h.recorded ds⟩

/-- A reconciliation books the same from the same history and comes to the same. -/
theorem pairs_reconcile {a : Attendee} (h : Office.Abreast a.id b₁ b₂ o₁ o₂) (info : AdminInfo)
    (s : Status) (override : String) (today : Calendar.Date) :
    (reconcile p a info s override today).Pairs o₁ (reconcile p a info s override today) o₂
      fun r o₁' r' o₂' => r = r' ∧ Office.Abreast a.id b₁ b₂ o₁' o₂' ∧ o₁'.store = o₁.store ∧
        ∃ history booked, r = concluded p a s history booked := by
  refine pairs_of_ends (ends_reconcile ..) (ends_reconcile ..) ?_
  rintro r o₁' r' o₂' ⟨-, h₁, rfl⟩ ⟨-, h₂, rfl⟩
  rw [← h.history] at h₂ ⊢
  have hbooked := h.booked h₁ h₂
  exact ⟨by rw [hbooked.history], hbooked, h₁.store, _, _, rfl⟩

theorem inStep_tell (h : Office.Abreast id b₁ b₂ o₁ o₂) (c : Committed × Option Notice) :
    (tell p c).InStep id b₁ b₂ o₁ o₂ := by
  obtain ⟨c, notice⟩ := c
  cases notice with
  | none => exact inStep_pure h
  | some n => exact (inStep_notify h _ _ _ _ _).bind fun _ _ _ => inStep_pure

/-- A commit with a recording that stays in step. -/
theorem inStep_commit {a : Attendee} {old target : Status} {comment override : String}
    {suppress : Bool} {recorded : Desk Unit} (h : Office.Abreast a.id b₁ b₂ o₁ o₂)
    (hstored : o₁.store.attendees.get? a.id = some a)
    (hrecorded : ∀ {o₁ o₂}, Office.Abreast a.id b₁ b₂ o₁ o₂ →
      recorded.InStep a.id b₁ b₂ o₁ o₂) :
    (commit p a old target comment override suppress recorded).InStep a.id b₁ b₂ o₁ o₂ := by
  have huntold : (commitUntold p a old target comment override suppress recorded).InStep
      a.id b₁ b₂ o₁ o₂ := by
    unfold InStep commitUntold
    refine pairs_bind (pairs_store (pairs_bind (pairs_get ?_)))
    rw [← h.info, ← h.clock]
    refine pairs_bind ((pairs_reconcile h _ _ _ _).mono ?_)
    rintro r o₁' _ o₂' ⟨rfl, h', hstore, history, booked, hr⟩
    have hstored₁ : o₁'.store.attendees.get? a.id = some a := hstore ▸ hstored
    have hput : ∀ o : Office, o.store.attendees.get? a.id = some a → (storeIfChanged r).Ends o
        (fun _ o' => o' = { o with store := o.store.putRecord r.attendee }) fun _ _ => False :=
      fun o ho => ends_storeIfChanged hr ho
    refine pairs_bind (pairs_of_ends (hput o₁' hstored₁) (hput o₂' (h'.record ▸ hstored₁)) ?_)
    rintro _ _ _ _ rfl rfl
    have hsettled := h'.putRecord r.attendee
    dsimp only
    split
    · have henter : ∀ o : Office,
          (enter r.attendee old r.status comment).Ends o _ fun _ _ => False := fun o => ends_enter
      refine pairs_bind (pairs_of_ends (henter _) (henter _) ?_)
      rintro _ _ _ _ rfl rfl
      exact (hrecorded (hsettled.enter ..)).bind fun _ _ _ => inStep_pure
    · exact inStep_pure hsettled
  exact huntold.bind fun c _ _ hdone => inStep_tell hdone c

/-- An edit stays in step. -/
theorem inStep_update {actor : Actor} {a : Attendee} {suppress : Bool}
    (h : Office.Abreast a.id b₁ b₂ o₁ o₂)
    (hid : ∀ b, o₁.store.attendees.get? a.id = some b → b.id = a.id) :
    (update p actor a suppress).InStep a.id b₁ b₂ o₁ o₂ := by
  unfold InStep update
  refine pairs_bind (pairs_store (pairs_bind (pairs_require fun stored b hstored hb => ?_)))
  have hget := get?_of_attendee hstored
  obtain rfl := Option.some.inj (hget.symm.trans (h.record.trans (get?_of_attendee hb)))
  refine pairs_bind (pairs_of_ends ends_checkUnique ends_checkUnique ?_)
  rintro _ _ _ _ ⟨rfl, -⟩ ⟨rfl, -⟩
  rw [h.currentStatus (hid _ hget)]
  refine pairs_bind (pairs_require fun ds es hds hes => ?_)
  obtain rfl := deltasOn_unique hds hes
  refine pairs_bind (pairs_require fun s t hs ht => ?_)
  obtain rfl := Store.eq_of_putAttendee hs
  obtain rfl := Store.eq_of_putAttendee ht
  refine pairs_bind (pairs_modifyStore (pairs_bind ?_))
  refine pairs_of_ends ends_recordAll ends_recordAll ?_
  rintro _ _ _ _ ⟨-, rfl⟩ ⟨-, rfl⟩
  have hput := (h.putRecord (editedRecord stored a)).recorded ds
  rw [← id_editedRecord stored a] at hput ⊢
  exact inStep_commit hput (Table.get?_insert_self ..) inStep_pure

/-- A change of administrators' information stays in step. -/
theorem inStep_updateInfo {actor : Actor} {i : AdminInfo}
    (h : Office.Abreast i.attendeeId b₁ b₂ o₁ o₂)
    (hid : ∀ a, o₁.store.attendees.get? i.attendeeId = some a → a.id = i.attendeeId) :
    (updateInfo p actor i).InStep i.attendeeId b₁ b₂ o₁ o₂ := by
  unfold InStep updateInfo
  refine pairs_bind (pairs_modifyStore (pairs_bind (pairs_store (pairs_bind
    (pairs_require fun a b ha hb => ?_)))))
  have hnoted := h.putInfo i
  have hget := get?_of_attendee ha
  obtain rfl := Option.some.inj (hget.symm.trans (h.record.trans (get?_of_attendee hb)))
  have hself : a.id = i.attendeeId := hid a hget
  have hcurrent : (o₁.store.putInfo i).currentStatus a = (o₂.store.putInfo i).currentStatus a :=
    hnoted.currentStatus hself
  dsimp only
  rw [hcurrent]
  rw [← hself] at hnoted hget ⊢
  exact inStep_commit hnoted hget inStep_pure

/-- A change of status stays in step. -/
theorem inStep_changeStatus {actor : Actor} {new : Target} {comment override : String}
    {suppress : Bool} (h : Office.Abreast id b₁ b₂ o₁ o₂)
    (hid : ∀ a, o₁.store.attendees.get? id = some a → a.id = id) :
    (changeStatus p actor id new comment override suppress).InStep id b₁ b₂ o₁ o₂ := by
  unfold changeStatus
  refine pairs_bind (pairs_of_ends ends_checkChange ends_checkChange ?_)
  rintro r o₁' r' o₂' ⟨hclear, h₁⟩ ⟨hclear', h₂⟩
  have hc := clears_of_clearance hclear
  have hc' := clears_of_clearance hclear'
  obtain ⟨a, old, target, ds⟩ := r
  obtain ⟨a', old', target', ds'⟩ := r'
  obtain rfl : a = a' := Option.some.inj (hc.stored.symm.trans (h.record.trans hc'.stored))
  obtain rfl : target = target' := Target.status.inj (hc.asked.symm.trans hc'.asked)
  obtain rfl : old = old' :=
    hc.current.trans ((h.currentStatus (hid _ hc.stored)).trans hc'.current.symm)
  obtain rfl : ds = ds' := deltasOn_unique hc.fits hc'.fits
  have hchecked := h.booked h₁ h₂
  have hget : o₁'.store.attendees.get? id = some a := h₁.store ▸ hc.stored
  have hself : a.id = id := hid a hc.stored
  rw [← hself] at hchecked hget ⊢
  exact inStep_commit hchecked hget fun ho => inStep_recording ho ds

end Desk

/-! ## Changes that commute -/

section Commuting

variable {p : Policy}

/-- A change of an attendee about whom two offices keep the same gives the same answer in both. -/
theorem Change.inStep (c : Change) {o₁ o₂ : Office} (hnumbered : o₁.store.Numbered)
    (hdossier : o₁.dossier c.attendeeId = o₂.dossier c.attendeeId) (hclock : o₁.clock = o₂.clock) :
    (c.perform p).InStep c.attendeeId o₁ o₂ o₁ o₂ := by
  have hstart : Office.Abreast c.attendeeId o₁ o₂ o₁ o₂ := .start hdossier hclock
  cases c with
  | update actor a suppress => exact Desk.inStep_update hstart (hnumbered a.id)
  | updateInfo actor i => exact Desk.inStep_updateInfo hstart (hnumbered i.attendeeId)
  | changeStatus actor id new comment override suppress =>
    exact Desk.inStep_changeStatus hstart (hnumbered id)

/-- Take any office whose records stand under their numbers, with any transactions in the ledger and
anything out of order, and two changes of different attendees. Each of them, however it ends, leaves
all that is kept about the attendee of the other. If both give an answer in both orders, then each
gives the same answer in both, and all that is kept about anybody and all rows of the counts are the
same after both orders, and so are the mails sent but for their order. -/
theorem changes_commute {o : Office} (hnumbered : o.store.Numbered) {c d : Change}
    (hne : c.attendeeId ≠ d.attendeeId) :
    let afterC := (c.perform p).after o
    let afterD := (d.perform p).after o
    let afterCD := (d.perform p).after afterC
    let afterDC := (c.perform p).after afterD
    afterC.dossier d.attendeeId = o.dossier d.attendeeId ∧
    afterD.dossier c.attendeeId = o.dossier c.attendeeId ∧
    ∀ rc rd rc' rd', (c.perform p).answer o = .ok rc → (d.perform p).answer afterC = .ok rd →
      (d.perform p).answer o = .ok rd' → (c.perform p).answer afterD = .ok rc' →
      rc = rc' ∧ rd = rd' ∧ (∀ id, afterCD.dossier id = afterDC.dossier id) ∧
      (∀ key, afterCD.store.counts.get? key = afterDC.store.counts.get? key) ∧
      afterCD.outbox.Perm afterDC.outbox := by
  intro afterC afterD afterCD afterDC
  have hc : o.Spares c.attendeeId afterC := c.spares (hnumbered _)
  have hd : o.Spares d.attendeeId afterD := d.spares (hnumbered _)
  have hcd : afterC.Spares d.attendeeId afterCD := d.spares (hc.numbered hnumbered _)
  have hdc : afterD.Spares c.attendeeId afterDC := c.spares (hd.numbered hnumbered _)
  have hownD := hc.others _ hne.symm
  have hownC := hd.others _ hne
  refine ⟨hownD, hownC, fun rc rd rc' rd' hrc hrd hrd' hrc' => ?_⟩
  obtain ⟨rfl, hpairC⟩ := c.inStep hnumbered hownC.symm hd.clock.symm rc rc' hrc hrc'
  obtain ⟨rfl, hpairD⟩ := d.inStep hnumbered hownD.symm hc.clock.symm rd' rd hrd' hrd
  obtain ⟨ds, hds, hds'⟩ := hpairC.effects
  obtain ⟨es, hes, hes'⟩ := hpairD.effects
  obtain ⟨ms, hms, hms'⟩ := hpairC.mails
  obtain ⟨ns, hns, hns'⟩ := hpairD.mails
  refine ⟨rfl, rfl, fun id => ?_, fun key => ?_, ?_⟩
  · by_cases hidC : id = c.attendeeId
    · subst hidC
      exact (hcd.others _ hne).trans hpairC.dossier
    by_cases hidD : id = d.attendeeId
    · subst hidD
      exact hpairD.dossier.symm.trans (hdc.others _ hne.symm).symm
    · exact ((hcd.others id hidD).trans (hc.others id hidC)).trans
        ((hdc.others id hidC).trans (hd.others id hidD)).symm
  · rw [hes', hds', hds, hes, ← CountTable.applyAll_append, ← CountTable.applyAll_append]
    exact CountTable.get?_applyAll_of_perm List.perm_append_comm _ key
  · rw [hns', hms', hms, hns, List.append_assoc, List.append_assoc]
    exact List.perm_append_comm.append_left _

/-- Two attendees are approved in either order. Only the order of the two mails tells which it was.
-/
theorem approvals_commute :
    let o := (Office.openingWith dayCounts newYear).run dayPolicy
      [.register (visitor "101") fox, .register (visitor "202") { fox with nickname := "Hare" }]
    let approve := fun id => (Change.changeStatus clerk id (.status .approved) "" "" false)
    let o₁₂ := ((approve 2).perform dayPolicy).after (((approve 1).perform dayPolicy).after o)
    let o₂₁ := ((approve 1).perform dayPolicy).after (((approve 2).perform dayPolicy).after o)
    (∀ id, o₁₂.dossier id = o₂₁.dossier id) ∧
      (∀ key, o₁₂.store.counts.get? key = o₂₁.store.counts.get? key) ∧
      o₁₂.outbox.Perm o₂₁.outbox ∧ o₁₂.outbox ≠ o₂₁.outbox := by
  intro o approve o₁₂ o₂₁
  have hnumbered : o.store.Numbered :=
    (Office.wellKept_run (Office.wellKept_openingWith _ _) _).numbered
  have hanswers : ∀ x : Except Failure Committed,
      x.map (·.status) = .ok .approved → ∃ r, x = .ok r := fun _ => exists_of_map_eq_ok
  obtain ⟨r₁, h₁⟩ := hanswers (((approve 1).perform dayPolicy).answer o) (by decide +kernel)
  obtain ⟨r₂, h₂⟩ := hanswers
    (((approve 2).perform dayPolicy).answer (((approve 1).perform dayPolicy).after o))
    (by decide +kernel)
  obtain ⟨s₂, k₂⟩ := hanswers (((approve 2).perform dayPolicy).answer o) (by decide +kernel)
  obtain ⟨s₁, k₁⟩ := hanswers
    (((approve 1).perform dayPolicy).answer (((approve 2).perform dayPolicy).after o))
    (by decide +kernel)
  have hne : (approve 1).attendeeId ≠ (approve 2).attendeeId := by decide
  obtain ⟨-, -, hboth⟩ := changes_commute (p := dayPolicy) hnumbered hne
  obtain ⟨-, -, hdossiers, hcounts, hmails⟩ := hboth r₁ r₂ s₁ s₂ h₁ h₂ k₂ k₁
  exact ⟨hdossiers, hcounts, hmails, by decide +kernel⟩

end Commuting

end Registration
