import Registration.Office.Transition
import Registration.Proofs.Office.Booking
import Registration.Proofs.Store.Records

/-!
# What a commit does

Up to the mail, a commit ends in one of three ways (`UntoldEnd`). It is refused before anything is
stored, at most with some dues booked; or the results are stored and their recording fails; or it is
carried out, with something to tell or nothing. `Office.Settles` says what carrying out means: all
that was planned is booked, the record shows the figures of the ledger, and the resulting status is
the current one. The mail keeps all of that (`Desk.ends_tell`), so the whole commit ends in the same
ways (`CommitEnd`), with or without the mail.
-/

namespace Registration

namespace Office

/-- The records, the ledger and the clock are what they were; mails and outages may differ. -/
structure Kept (o o' : Office) : Prop where
  store : o'.store = o.store
  ledger : o'.ledger = o.ledger
  clock : o'.clock = o.clock

theorem Kept.refl (o : Office) : o.Kept o := ⟨rfl, rfl, rfl⟩

end Office

/-! ## Parts of a commit -/

/-- A mail is to be sent whose figures have no text. -/
def Untellable (p : Policy) (e : Failure) : Committed × Option Notice → Prop
  | (c, some n) => statusVariables p c.attendee c.status n.comment = .error e
  | (_, none) => False

namespace Desk

variable {o : Office}

/-- A mail that can be sent goes into the outbox. -/
theorem ends_send {m : Mail} :
    (send m).Ends o (fun _ o' => o' = { o with outbox := o.outbox ++ [m] })
      fun e o' => o' = o ∧ ∃ detail, o.outages.mailing = some detail ∧
        e = .mailUnavailable detail := by
  unfold send
  refine ends_bind (ends_get ?_)
  split
  · rename_i detail hdetail
    exact ends_throw ⟨rfl, detail, hdetail, rfl⟩
  · exact ends_set rfl

/-- Telling the attendee keeps all records. It fails for an amount that has no text, else for the
outage of mails. -/
theorem ends_notify {p : Policy} {a : Attendee} {info : AdminInfo} {s : Status} {comment : String}
    {suppress : Bool} :
    (notify p a info s comment suppress).Ends o (fun _ o' => o.Kept o') fun e o' =>
      o.Kept o' ∧ (statusVariables p a s comment = .error e ∨
        (∃ values, statusVariables p a s comment = .ok values) ∧
          ∃ detail, o.outages.mailing = some detail ∧ e = .mailUnavailable detail) := by
  unfold notify
  split
  · exact ends_bind (ends_note (ends_pure ⟨rfl, rfl, rfl⟩))
  · refine ends_bind (ends_require (fun values hvalues => ?_) fun e he => ⟨.refl o, .inl he⟩)
    refine ends_bind (ends_send.mono (fun _ o' h => ?_) fun e o' h => ?_)
    · subst h
      exact ends_pure ⟨rfl, rfl, rfl⟩
    · obtain ⟨rfl, houtage⟩ := h
      exact ⟨.refl o', .inr ⟨⟨values, hvalues⟩, houtage⟩⟩

/-- The last step of a commit keeps all records. It fails for what it has to tell, else for the
outage of mails. -/
theorem ends_tell {p : Policy} {c : Committed × Option Notice} :
    (tell p c).Ends o (fun _ o' => o.Kept o') fun e o' =>
      o.Kept o' ∧ (Untellable p e c ∨
        (∀ e, ¬ Untellable p e c) ∧
          ∃ detail, o.outages.mailing = some detail ∧ e = .mailUnavailable detail) := by
  obtain ⟨c, notice⟩ := c
  cases notice with
  | none => exact ends_pure (.refl o)
  | some n =>
    refine ends_bind (ends_notify.mono (fun _ _ hk => ends_pure hk) fun e o' h => ?_)
    refine ⟨h.1, h.2.imp id fun ⟨⟨values, hvalues⟩, houtage⟩ => ⟨fun f hf => ?_, houtage⟩⟩
    cases hvalues.symm.trans hf

theorem kept_tell {p : Policy} {c : Committed × Option Notice} : o.Kept ((tell p c).after o) :=
  (ends_tell.mono (fun _ _ hk => hk) fun _ _ h => h.1).after_of

theorem ends_enter {a : Attendee} {old target : Status} {comment : String}
    {E : Failure → Office → Prop} :
    (enter a old target comment).Ends o
      (fun _ o' =>
        o' = { o with store := o.store.enter a.id old target comment o.clock.now }) E := by
  unfold enter Store.enter
  refine ends_bind (ends_get (ends_bind (ends_modifyStore ?_)))
  split
  · exact ends_modifyStore rfl
  · split
    · exact ends_modifyStore rfl
    · exact ends_pure rfl

/-- After a concluded record is stored if it changed, it is stored. -/
theorem ends_storeIfChanged {p : Policy} {a : Attendee} {s : Status} {h : List Transaction} {n : ℕ}
    {r : Reconciled} (hr : r = concluded p a s h n)
    (hstored : o.store.attendees.get? a.id = some a) {E : Failure → Office → Prop} :
    (storeIfChanged r).Ends o
      (fun _ o' => o' = { o with store := o.store.putRecord r.attendee }) E := by
  unfold storeIfChanged
  split
  · have hid : r.attendee.id = a.id := hr ▸ id_concluded ..
    have hput := Store.putAttendee_of_get? (hid ▸ hstored)
    refine ends_bind (ends_store (ends_bind (ends_require (fun s hs => ?_) fun e he => ?_)))
    · obtain rfl := Except.ok.inj (hput.symm.trans hs)
      exact ends_modifyStore rfl
    · cases hput.symm.trans he
  · rename_i hchanged
    have ha : r.attendee = a := by
      rw [hr] at hchanged ⊢
      exact attendee_of_not_changed (Bool.eq_false_iff.mpr hchanged)
    refine ends_pure ?_
    rw [ha, Store.putRecord_of_get? hstored]

end Desk

/-! ## The whole commit -/

section Commit

variable (p : Policy) (a : Attendee) (old target : Status) (comment override : String)
  (recorded : Desk Unit)

/-- What a commit wants to book. -/
def Office.plannedFor (o : Office) : Postings :=
  planned p a (o.store.info a.id) target override o.clock.today (o.ledger.history a.id)

/-- The second office is the first one after all was booked that the change asks for and the result
was stored. -/
structure Office.Settles (o : Office) (r : Reconciled) (o' : Office) : Prop where
  complete : (o.plannedFor p a target override).failure = none
  ledger : o'.ledger = o.ledger.appendAll (o.plannedFor p a target override).transactions
  result : r = concluded p a target (o'.ledger.history a.id)
    (o.plannedFor p a target override).transactions.length
  store : o'.store = o.store.settle r.attendee old r.status comment o.clock.now
  clock : o'.clock = o.clock
  outbox : o'.outbox = o.outbox

/-- The ways in which a commit ends before the mail. -/
inductive UntoldEnd (suppress : Bool) (o : Office) :
    Except Failure (Committed × Option Notice) → Office → Prop
  /-- Nothing is stored; some dues may be booked. -/
  | refused {e : Failure} {n : ℕ} {o' : Office} (hcause : e.isUnrepresentable = true ∨ o.Cut e)
    (hposted : o.Posted ((o.plannedFor p a target override).transactions.take n) o') :
    UntoldEnd suppress o (.error e) o'
  /-- A new status is stored, but the recording fails. -/
  | unrecorded {r : Reconciled} {o₁ : Office} {e : Failure}
    (hsettles : o.Settles p a old target comment override r o₁) (hnew : r.status ≠ old)
    (hrecorded : recorded.answer o₁ = .error e) :
    UntoldEnd suppress o (.error e) (recorded.after o₁)
  /-- A new status is stored and recorded. -/
  | changed {r : Reconciled} {o₁ : Office}
    (hsettles : o.Settles p a old target comment override r o₁) (hnew : r.status ≠ old)
    (hrecorded : recorded.answer o₁ = .ok ()) :
    UntoldEnd suppress o
      (.ok (r.committed old, noticeFor (o.store.info a.id) a old target comment suppress r))
      (recorded.after o₁)
  /-- The record is stored under the status it had. -/
  | unchanged {r : Reconciled} {o₁ : Office}
    (hsettles : o.Settles p a old target comment override r o₁) (hsame : r.status = old) :
    UntoldEnd suppress o
      (.ok (r.committed old, noticeFor (o.store.info a.id) a old target comment suppress r)) o₁

/-- The ways in which a commit ends. -/
inductive CommitEnd (o : Office) : Except Failure Committed → Office → Prop
  /-- Nothing is stored; some dues may be booked. -/
  | refused {e : Failure} {n : ℕ} {o' : Office} (hmail : ∀ detail, e ≠ .mailUnavailable detail)
    (hposted : o.Posted ((o.plannedFor p a target override).transactions.take n) o') :
    CommitEnd o (.error e) o'
  /-- A new status is stored, but the recording fails. -/
  | unrecorded {r : Reconciled} {o₁ : Office} {e : Failure}
    (hsettles : o.Settles p a old target comment override r o₁) (hnew : r.status ≠ old)
    (hrecorded : recorded.answer o₁ = .error e) : CommitEnd o (.error e) (recorded.after o₁)
  /-- A new status is stored and recorded. -/
  | changed {r : Reconciled} {o₁ o' : Office} {answer : Except Failure Committed}
    (hsettles : o.Settles p a old target comment override r o₁) (hnew : r.status ≠ old)
    (hrecorded : recorded.answer o₁ = .ok ()) (hkept : (recorded.after o₁).Kept o') :
    CommitEnd o answer o'
  /-- The record is stored under the status it had. -/
  | unchanged {r : Reconciled} {o₁ o' : Office} {answer : Except Failure Committed}
    (hsettles : o.Settles p a old target comment override r o₁) (hsame : r.status = old)
    (hkept : o₁.Kept o') : CommitEnd o answer o'

variable {p a old target comment override recorded} {o : Office}

theorem Office.debitor_of_mem_plannedFor {t : Transaction}
    (ht : t ∈ (o.plannedFor p a target override).transactions) : t.debitor = a.id :=
  debitor_of_mem_planned ht

theorem Office.Settles.history {r : Reconciled} {o₁ : Office}
    (h : o.Settles p a old target comment override r o₁) :
    o₁.ledger.history a.id =
      o.ledger.history a.id ++ (o.plannedFor p a target override).transactions := by
  rw [h.ledger, Ledger.history_appendAll_self fun t => Office.debitor_of_mem_plannedFor]

theorem Office.Settles.id_eq {r : Reconciled} {o₁ : Office}
    (h : o.Settles p a old target comment override r o₁) : r.attendee.id = a.id :=
  h.result ▸ id_concluded ..

theorem Desk.ends_commitUntold (hstored : o.store.attendees.get? a.id = some a) (suppress : Bool) :
    (Desk.commitUntold p a old target comment override suppress recorded).Ends o
      (fun c o' => UntoldEnd p a old target comment override recorded suppress o (.ok c) o')
      fun e o' => UntoldEnd p a old target comment override recorded suppress o (.error e) o' := by
  unfold Desk.commitUntold
  refine ends_bind (ends_store (ends_bind (ends_get ?_)))
  refine ends_bind ((ends_reconcile p a (o.store.info a.id) target override o.clock.today o).mono
    (fun r o₁ h => ?_) fun e o₁ h => ?_)
  swap
  · rcases h with ⟨hfail, hposted⟩ | ⟨hcut, n, -, hposted⟩
    · refine .refused (n := (o.plannedFor p a target override).transactions.length)
        (.inl (isUnrepresentable_of_planned hfail)) ?_
      rw [List.take_length]
      exact hposted
    · exact .refused (.inr hcut) hposted
  obtain ⟨hnone, hposted, hr⟩ := h
  have hstored₁ : o₁.store.attendees.get? a.id = some a := by rw [hposted.store]; exact hstored
  refine ends_bind ((ends_storeIfChanged hr hstored₁).mono (fun _ o₂ h₂ => ?_) fun _ _ he => he)
  subst h₂
  dsimp only
  split
  · rename_i hnew
    refine ends_bind (ends_enter.mono (fun _ o₃ h₃ => ?_) fun _ _ he => he)
    have hsettles : o.Settles p a old target comment override r o₃ := by
      rw [h₃]
      exact ⟨hnone, hposted.ledger, hr,
        by rw [Store.settle, if_neg hnew, hposted.store, hposted.clock], hposted.clock,
        hposted.outbox⟩
    exact ends_bind (ends_iff.mpr ⟨fun _ hrec => ends_pure (.changed hsettles hnew hrec),
      fun e hrec => .unrecorded hsettles hnew hrec⟩)
  · rename_i hold
    have hsame : r.status = old := not_not.mp hold
    exact ends_pure (.unchanged ⟨hnone, hposted.ledger, hr,
      by rw [Store.settle, if_pos hsame, hposted.store], hposted.clock, hposted.outbox⟩ hsame)

/-- The mail leaves a commit as it is. -/
theorem Desk.ends_commit (hstored : o.store.attendees.get? a.id = some a) (suppress : Bool) :
    (Desk.commit p a old target comment override suppress recorded).Ends o
      (fun c o' => CommitEnd p a old target comment override recorded o (.ok c) o')
      fun e o' => CommitEnd p a old target comment override recorded o (.error e) o' := by
  refine ends_bind ((ends_commitUntold hstored suppress).mono (fun c o₁ h => ?_) fun e o₁ h => ?_)
  · cases h with
    | changed hsettles hnew hrecorded =>
      exact ends_tell.mono (fun _ _ hk => .changed hsettles hnew hrecorded hk)
        fun _ _ h => .changed hsettles hnew hrecorded h.1
    | unchanged hsettles hsame =>
      exact ends_tell.mono (fun _ _ hk => .unchanged hsettles hsame hk)
        fun _ _ h => .unchanged hsettles hsame h.1
  · cases h with
    | refused hcause hposted =>
      refine .refused (fun detail => ?_) hposted
      rcases hcause with hnumber | hcut
      · rintro rfl
        cases hnumber
      · exact hcut.not_mail detail
    | unrecorded hsettles hnew hrecorded => exact .unrecorded hsettles hnew hrecorded

end Commit

end Registration
