import Registration.Proofs.Office.Requests

/-!
# The last step of a change of status

A change of status tells the attendee about it after everything else. `Desk.changeUntold` is the
change without that last step, so a change is `Desk.changeUntold` followed by `Desk.tell`
(`Desk.changeStatus_eq`). Nothing before the last step asks whether mails can be sent: with
mails working or not, it comes to the same and leaves the same behind (`Desk.blind_changeUntold`).
-/

namespace Registration

namespace Desk

variable (p : Policy)

/-- A change of status up to the mail. -/
def changeUntold (actor : Actor) (id : Int) (new : Target) (comment override : String)
    (suppress : Bool) : Desk (Committed × Option Notice) := do
  let r ← checkChange p actor id new
  commitUntold p r.attendee r.old r.target comment override suppress (recording r.deltas)

/-- A change of status is the change without the mail, and then the mail. -/
theorem changeStatus_eq (actor : Actor) (id : Int) (new : Target) (comment override : String)
    (suppress : Bool) :
    changeStatus p actor id new comment override suppress =
      changeUntold p actor id new comment override suppress >>= tell p := by
  rw [changeUntold, bind_assoc]
  rfl

end Desk

/-! ## Work that does not look at mails -/

/-- The office in which mails fail as said. -/
def Office.withMailing (o : Office) (m : Option String) : Office :=
  { o with outages := { o.outages with mailing := m } }

namespace Desk

variable {α β : Type}

/-- An outcome in the office in which mails fail as said. -/
def mailing (m : Option String) : EStateM.Result Failure Office α → EStateM.Result Failure Office α
  | .ok a o => .ok a (o.withMailing m)
  | .error e o => .error e (o.withMailing m)

/-- Whether mails can be sent makes no difference to the work. -/
structure MailBlind (x : Desk α) : Prop where
  run_eq : ∀ o m, x.run (o.withMailing m) = mailing m (x.run o)

theorem MailBlind.answer {x : Desk α} (h : x.MailBlind) (o : Office) (m : Option String) :
    x.answer (o.withMailing m) = x.answer o := by
  unfold Desk.answer
  rw [h.run_eq]
  cases x.run o <;> rfl

theorem MailBlind.after {x : Desk α} (h : x.MailBlind) (o : Office) (m : Option String) :
    x.after (o.withMailing m) = (x.after o).withMailing m := by
  unfold Desk.after
  rw [h.run_eq]
  cases x.run o <;> rfl

theorem blind_pure (a : α) : (pure a : Desk α).MailBlind := ⟨fun _ _ => rfl⟩

theorem blind_throw (e : Failure) : (throw e : Desk α).MailBlind := ⟨fun _ _ => rfl⟩

theorem blind_require (x : Except Failure α) : (require x).MailBlind := by
  cases x <;> exact ⟨fun _ _ => rfl⟩

theorem blind_store : store.MailBlind := ⟨fun _ _ => rfl⟩

theorem blind_modifyStore (f : Store → Store) : (modifyStore f).MailBlind := ⟨fun _ _ => rfl⟩

theorem blind_note (level : Level) (text : String) : (note level text).MailBlind :=
  ⟨fun _ _ => rfl⟩

theorem blind_bind {x : Desk α} {f : α → Desk β} (hx : x.MailBlind) (hf : ∀ a, (f a).MailBlind) :
    (x >>= f).MailBlind := by
  refine ⟨fun o m => ?_⟩
  rw [EStateM.run_bind, EStateM.run_bind, hx.run_eq]
  cases x.run o with
  | ok a o' => exact (hf a).run_eq o' m
  | error e o' => rfl

/-- Work that reads the office, but nothing about mails. -/
theorem blind_get {f : Office → Desk β} (hf : ∀ o, (f o).MailBlind)
    (hsame : ∀ o m, f (o.withMailing m) = f o) : (get >>= f).MailBlind := by
  refine ⟨fun o m => ?_⟩
  change (f (o.withMailing m)).run (o.withMailing m) = mailing m ((f o).run o)
  rw [hsame, (hf o).run_eq]

/-- Work that puts another office in place, by a rule that leaves out mails. -/
theorem blind_set {γ : Type} {g : Office → Except Failure γ} {h : Office → γ → Office}
    (hg : ∀ o m, g (o.withMailing m) = g o)
    (hh : ∀ o m c, h (o.withMailing m) c = (h o c).withMailing m) :
    (do
      let o ← get
      let c ← require (g o)
      set (h o c) : Desk PUnit).MailBlind := by
  refine ⟨fun o m => ?_⟩
  change (require (g (o.withMailing m)) >>= fun c => set (h (o.withMailing m) c)).run
    (o.withMailing m) = mailing m ((require (g o) >>= fun c => set (h o c)).run o)
  rw [hg]
  cases g o with
  | error e => rfl
  | ok c => exact congrArg (EStateM.Result.ok PUnit.unit) (hh o m c)

/-! ## The work before the mail -/

theorem blind_listing : listing.MailBlind := by
  refine blind_bind (blind_set (fun _ _ => rfl) fun _ _ _ => rfl) fun _ => ?_
  refine ⟨fun o m => ?_⟩
  -- the answer is the ledger of the office, so `blind_get` does not apply
  obtain ⟨store, ledger, outbox, journal, ⟨list, append, appends, mails, lists⟩, clock⟩ := o
  cases list <;> rfl

theorem blind_transactionHistory (id : Int) : (transactionHistory id).MailBlind :=
  blind_bind blind_listing fun _ => blind_pure _

theorem blind_appendTransaction (t : Transaction) : (appendTransaction t).MailBlind := by
  refine blind_bind (blind_set (fun _ _ => rfl) fun _ _ _ => rfl) fun _ => ?_
  refine ⟨fun o m => ?_⟩
  obtain ⟨store, ledger, outbox, journal, ⟨list, append, appends, mails, lists⟩, clock⟩ := o
  cases append <;> rfl

variable {p : Policy}

theorem blind_warnIgnored (id : Int) (codes : List String) : (warnIgnored id codes).MailBlind := by
  induction codes with
  | nil => exact blind_pure ()
  | cons code rest ih => exact blind_bind (blind_note _ _) fun _ => ih

theorem blind_bookAll (id : Int) (comment : String) (today : Calendar.Date) (plan : List Booking) :
    (bookAll p id comment today plan).MailBlind := by
  induction plan with
  | nil => exact blind_pure ()
  | cons b rest ih =>
    have hbook : (book p id comment today b).MailBlind :=
      blind_bind (blind_require _) fun t => blind_bind (blind_appendTransaction t) fun _ =>
        blind_bind (blind_require _) fun _ => blind_note _ _
    exact blind_bind hbook fun _ => ih

theorem blind_conclude (a : Attendee) (s : Status) (h : List Transaction) (booked : ℕ) :
    (conclude p a s h booked).MailBlind := by
  unfold conclude
  dsimp only
  split
  · exact blind_bind (blind_note _ _) fun _ => blind_pure _
  · exact blind_pure _

theorem blind_reconcile (a : Attendee) (info : AdminInfo) (s : Status) (override : String)
    (today : Calendar.Date) : (reconcile p a info s override today).MailBlind := by
  refine blind_bind (blind_transactionHistory _) fun h => ?_
  refine blind_bind (blind_warnIgnored _ _) fun _ => blind_bind (blind_require _) fun plan => ?_
  refine blind_bind (blind_bookAll _ _ _ _) fun _ => ?_
  split
  · exact blind_bind (blind_pure _) fun _ => blind_conclude ..
  · exact blind_bind (blind_transactionHistory _) fun _ => blind_conclude ..

theorem blind_storeIfChanged (r : Reconciled) : (storeIfChanged r).MailBlind := by
  unfold storeIfChanged
  split
  · exact blind_bind blind_store fun _ => blind_bind (blind_require _) fun _ => blind_modifyStore _
  · exact blind_pure _

theorem blind_enter (a : Attendee) (old target : Status) (comment : String) :
    (enter a old target comment).MailBlind := by
  refine blind_get (fun o => blind_bind (blind_modifyStore _) fun _ => ?_) fun _ _ => rfl
  split
  · exact blind_modifyStore _
  · split
    · exact blind_modifyStore _
    · exact blind_pure _

theorem blind_recording (ds : List CountDelta) : (recording ds).MailBlind := by
  have hall : (recordAll ds).MailBlind := by
    induction ds with
    | nil => exact blind_pure _
    | cons d rest ih =>
      have hrecord : (record d).MailBlind :=
        blind_bind blind_store fun _ => blind_bind (blind_require _) fun _ =>
          blind_bind (blind_modifyStore _) fun _ => blind_pure _
      exact blind_bind hrecord fun _ => blind_bind ih fun _ => blind_pure _
  exact blind_bind hall fun _ => blind_pure _

theorem blind_commitUntold (a : Attendee) (old target : Status) (comment override : String)
    (suppress : Bool) {recorded : Desk Unit} (hrecorded : recorded.MailBlind) :
    (commitUntold p a old target comment override suppress recorded).MailBlind := by
  refine blind_bind blind_store fun s => blind_get (fun o => ?_) fun _ _ => rfl
  refine blind_bind (blind_reconcile ..) fun r => blind_bind (blind_storeIfChanged r) fun _ => ?_
  dsimp only
  split
  · exact blind_bind (blind_enter ..) fun _ => blind_bind hrecorded fun _ => blind_pure _
  · exact blind_pure _

theorem blind_checkChange (actor : Actor) (id : Int) (new : Target) :
    (checkChange p actor id new).MailBlind := by
  have hauthorize : ∀ a old, (authorize p actor a old new).MailBlind := by
    intro a old
    unfold authorize
    refine blind_bind blind_store fun s => ?_
    dsimp only
    split
    · exact blind_bind (blind_note _ _) fun _ => blind_require _
    · exact blind_require _
  have hprecondition : ∀ a old, (checkPrecondition p a old new).MailBlind := by
    intro a old
    unfold checkPrecondition
    split
    · exact blind_throw _
    · exact blind_bind (blind_transactionHistory _) fun _ => blind_require _
  refine blind_bind blind_store fun s => blind_bind (blind_require _) fun a =>
    blind_bind (hauthorize ..) fun _ => blind_bind (hprecondition ..) fun _ => ?_
  cases new with
  | unknown word => exact blind_throw _
  | status target =>
    exact blind_bind blind_store fun _ => blind_bind (blind_require _) fun _ => blind_pure _

/-- Whether mails can be sent makes no difference to a change of status before its mail. -/
theorem blind_changeUntold (actor : Actor) (id : Int) (new : Target) (comment override : String)
    (suppress : Bool) : (changeUntold p actor id new comment override suppress).MailBlind :=
  blind_bind (blind_checkChange actor id new) fun r =>
    blind_commitUntold _ _ _ _ _ _ (blind_recording r.deltas)

end Desk

end Registration
