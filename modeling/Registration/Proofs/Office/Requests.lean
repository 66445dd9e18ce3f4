import Registration.Office.Requests
import Registration.Proofs.Office.Allocation
import Registration.Proofs.Office.Commit

/-!
# What requests do

One type for each request lists the ways in which it ends, with all that was checked on the way:
`RegisterEnd`, `UpdateEnd`, `InfoEnd` and `StatusEnd`. A request is refused before anything is
stored, or ends in a commit from an office that the type describes.
-/

namespace Registration

/-- The office in which a record was put and counts were changed. -/
def Office.withRecord (o : Office) (a : Attendee) (t : CountTable) : Office :=
  { o with store := { o.store.putRecord a with counts := t } }

@[simp] theorem Office.nextId_withRecord (o : Office) (a : Attendee) (t : CountTable) :
    (o.withRecord a t).store.nextId = o.store.nextId := by
  unfold withRecord Store.putRecord
  rfl

@[simp] theorem Office.changes_withRecord (o : Office) (a : Attendee) (t : CountTable) (id : Int) :
    (o.withRecord a t).store.changes id = o.store.changes id := by
  unfold withRecord Store.putRecord
  rfl

/-- The office in which a record was added under the next number and counts were changed. -/
def Office.withNewRecord (o : Office) (a : Attendee) (t : CountTable) : Office :=
  { o with store := { (o.store.addAttendee a).2 with counts := t } }

/-- The office in which information was noted. -/
def Office.withInfo (o : Office) (i : AdminInfo) : Office := { o with store := o.store.putInfo i }

/-! ## The checks of a change of status -/

/-- What the balances of a history say to a request for a status. -/
def permitted (p : Policy) (history : List Transaction) (old : Status) (new : Target) :
    Except Failure Unit :=
  if new = .status old then .error .sameStatus else precondition p history old new

/-- What the checks of a change of status come to while the ledger can be listed. -/
def clearance (p : Policy) (actor : Actor) (o : Office) (id : Int) (new : Target) :
    Except Failure Clearance := do
  let a ← o.store.attendee id
  (judge p o.store actor a (o.store.currentStatus a) new).outcome
  permitted p (o.ledger.history a.id) (o.store.currentStatus a) new
  match new with
  | .unknown word => .error (.unknownStatus word)
  | .status target =>
    let deltas ← allocation p o.store.counts a a (o.store.currentStatus a) target
    pure ⟨a, o.store.currentStatus a, target, deltas⟩

/-! ## The ways in which requests end -/

section Ends

variable (p : Policy) (actor : Actor) (o : Office)

/-- Registering is refused, or adds the record and records its packages as far as there are rows. -/
inductive RegisterEnd (a : Attendee) : Office → Prop
  | refused {o' : Office} (hkept : o.Kept o') : RegisterEnd a o'
  | added {deltas done : List CountDelta}
    (hunique : o.store.countKey (Desk.newRecord actor a).key = 0)
    (hdeltas : allocation p o.store.counts { Desk.newRecord actor a with packages := .empty }
      (Desk.newRecord actor a) .new .new = .ok deltas)
    (hdone : o.store.counts.Covers deltas → done = deltas) :
    RegisterEnd a (o.withNewRecord (Desk.newRecord actor a) (o.store.counts.applyAll done))

/-- An edit is refused; or the record is put and the recording fails; or it ends in a commit. -/
inductive UpdateEnd (a : Attendee) : Except Failure Committed → Office → Prop
  | refused {e : Failure} {o' : Office} (hmail : ∀ detail, e ≠ .mailUnavailable detail)
    (hkept : o.Kept o') : UpdateEnd a (.error e) o'
  | unrecorded {e : Failure} {stored : Attendee} {deltas done : List CountDelta}
    (hmail : ∀ detail, e ≠ .mailUnavailable detail)
    (hstored : o.store.attendees.get? a.id = some stored)
    (hunique : o.store.countKey (Desk.editedRecord stored a).key ≤
      if stored.key = (Desk.editedRecord stored a).key then 1 else 0)
    (hdeltas : allocation p o.store.counts stored (Desk.editedRecord stored a)
      (o.store.currentStatus stored) (o.store.currentStatus stored) = .ok deltas)
    (hmissing : ¬ o.store.counts.Covers deltas) :
    UpdateEnd a (.error e)
      (o.withRecord (Desk.editedRecord stored a) (o.store.counts.applyAll done))
  | committed {answer : Except Failure Committed} {stored : Attendee} {deltas : List CountDelta}
    {comment : String} {o' : Office}
    (hstored : o.store.attendees.get? a.id = some stored)
    (hunique : o.store.countKey (Desk.editedRecord stored a).key ≤
      if stored.key = (Desk.editedRecord stored a).key then 1 else 0)
    (hdeltas : allocation p o.store.counts stored (Desk.editedRecord stored a)
      (o.store.currentStatus stored) (o.store.currentStatus stored) = .ok deltas)
    (hcommit : CommitEnd p (Desk.editedRecord stored a) (o.store.currentStatus stored)
      (o.store.currentStatus stored) comment "" (pure ())
      (o.withRecord (Desk.editedRecord stored a) (o.store.counts.applyAll deltas)) answer o') :
    UpdateEnd a answer o'

/-- Information is noted, about nobody or with a commit. -/
inductive InfoEnd (i : AdminInfo) : Except Failure Committed → Office → Prop
  | unknown (hnone : o.store.attendees.get? i.attendeeId = none) :
    InfoEnd i (.error (.attendeeNotFound i.attendeeId)) (o.withInfo i)
  | committed {answer : Except Failure Committed} {a : Attendee} {comment : String} {o' : Office}
    (hstored : o.store.attendees.get? i.attendeeId = some a)
    (hcommit : CommitEnd p a (o.store.currentStatus a) (o.store.currentStatus a) comment
      i.manualDuesDescription (pure ()) (o.withInfo i) answer o') :
    InfoEnd i answer o'

/-- A change of status is refused or ends in a commit that records the effects on the counts. -/
inductive StatusEnd (id : Int) (new : Target) (override : String) :
    Except Failure Committed → Office → Prop
  | refused {e : Failure} {o' : Office} (hmail : ∀ detail, e ≠ .mailUnavailable detail)
    (hposted : o.Posted [] o') : StatusEnd id new override (.error e) o'
  | committed {answer : Except Failure Committed} {a : Attendee} {target : Status}
    {deltas : List CountDelta} {comment : String} {o₁ o' : Office} (hnew : new = .status target)
    (hstored : o.store.attendees.get? id = some a)
    (hgranted : (judge p o.store actor a (o.store.currentStatus a) new).isGranted = true)
    (hdiffers : target ≠ o.store.currentStatus a)
    (hallowed : precondition p (o.ledger.history a.id) (o.store.currentStatus a) new = .ok ())
    (hdeltas : allocation p o.store.counts a a (o.store.currentStatus a) target = .ok deltas)
    (hposted : o.Posted [] o₁)
    (hcommit : CommitEnd p a (o.store.currentStatus a) target comment override (recording deltas)
      o₁ answer o') :
    StatusEnd id new override answer o'

end Ends

/-! ## Parts of requests -/

namespace Desk

variable {p : Policy} {actor : Actor} {o : Office}

theorem error_of_attendee {s : Store} {id : Int} {e : Failure} (h : s.attendee id = .error e) :
    s.attendees.get? id = none ∧ e = .attendeeNotFound id := by
  unfold Store.attendee at h
  split at h
  · cases h
  · rename_i hnone
    exact ⟨hnone, (Except.error.inj h).symm⟩

theorem get?_of_attendee {s : Store} {id : Int} {a : Attendee} (h : s.attendee id = .ok a) :
    s.attendees.get? id = some a := by
  unfold Store.attendee at h
  split at h
  · rename_i hsome
    rw [hsome, Except.ok.inj h]
  · cases h

theorem id_editedRecord (stored a : Attendee) : (editedRecord stored a).id = a.id := by
  unfold editedRecord
  rfl

theorem ends_checkUnique {a : Attendee} {expected : ℕ} :
    (checkUnique a expected).Ends o (fun _ o' => o' = o ∧ o.store.countKey a.key ≤ expected)
      fun e o' => o' = o ∧ e = .duplicate := by
  unfold checkUnique
  refine ends_bind (ends_store ?_)
  split
  · exact ends_throw ⟨rfl, rfl⟩
  · rename_i hfew
    exact ends_pure ⟨rfl, Nat.le_of_not_lt hfew⟩

/-- A refusal of packages is not about mails. -/
theorem not_mail_of_allocation {t : CountTable} {before after : Attendee} {old target : Status}
    {e : Failure} (h : allocation p t before after old target = .error e) (detail : String) :
    e ≠ .mailUnavailable detail := by
  rcases error_of_deltasOn h with ⟨code, rfl⟩ | ⟨area, name, rfl⟩
  · exact Failure.noConfusion
  · exact Failure.noConfusion

theorem not_mail_of_precondition {h : List Transaction} {old : Status} {new : Target}
    {e : Failure} (he : precondition p h old new = .error e) (detail : String) :
    e ≠ .mailUnavailable detail := by
  rintro rfl
  unfold precondition at he
  dsimp only at he
  split at he <;> (try split_ifs at he) <;> cases he

theorem not_mail_of_outcome {j : Judgement} {e : Failure} (h : j.outcome = .error e)
    (detail : String) : e ≠ .mailUnavailable detail := by
  rintro rfl
  cases j <;> cases h

/-- What the checks have found of a change that passed them. -/
structure Clears (p : Policy) (actor : Actor) (o : Office) (id : Int) (new : Target)
    (r : Clearance) : Prop where
  asked : new = .status r.target
  stored : o.store.attendees.get? id = some r.attendee
  current : r.old = o.store.currentStatus r.attendee
  granted : (judge p o.store actor r.attendee r.old new).isGranted = true
  differs : r.target ≠ r.old
  allowed : precondition p (o.ledger.history r.attendee.id) r.old new = .ok ()
  fits : allocation p o.store.counts r.attendee r.attendee r.old r.target = .ok r.deltas

theorem clears_of_clearance {id : Int} {new : Target} {r : Clearance}
    (h : clearance p actor o id new = .ok r) : Clears p actor o id new r := by
  obtain ⟨a, ha, h⟩ := bind_eq_ok_iff.mp h
  obtain ⟨_, hgranted, h⟩ := bind_eq_ok_iff.mp h
  obtain ⟨_, hallowed, h⟩ := bind_eq_ok_iff.mp h
  unfold permitted at hallowed
  split at hallowed
  · cases hallowed
  · rename_i hnew
    cases new with
    | unknown word => cases h
    | status target =>
      obtain ⟨deltas, hdeltas, h⟩ := bind_eq_ok_iff.mp h
      obtain rfl := pure_eq_ok_iff.mp h
      exact ⟨rfl, get?_of_attendee ha, rfl, (Judgement.outcome_eq_ok_iff _).mp hgranted,
        fun hsame => hnew (congrArg Target.status hsame), hallowed, hdeltas⟩

/-- A refusal by the checks is not about mails. -/
theorem not_mail_of_clearance {id : Int} {new : Target} {e : Failure}
    (h : clearance p actor o id new = .error e) (detail : String) :
    e ≠ .mailUnavailable detail := by
  rcases bind_eq_error_iff.mp h with h | ⟨a, _, h⟩
  · obtain ⟨-, rfl⟩ := error_of_attendee h
    exact Failure.noConfusion
  rcases bind_eq_error_iff.mp h with h | ⟨_, _, h⟩
  · exact not_mail_of_outcome h detail
  rcases bind_eq_error_iff.mp h with h | ⟨_, _, h⟩
  · unfold permitted at h
    split at h
    · rw [← Except.error.inj h]
      exact Failure.noConfusion
    · exact not_mail_of_precondition h detail
  cases new with
  | unknown word =>
    rw [← Except.error.inj h]
    exact Failure.noConfusion
  | status target =>
    rcases bind_eq_error_iff.mp h with h | ⟨_, _, h⟩
    · exact not_mail_of_allocation h detail
    · cases h

/-- Authorization changes the journal only. -/
theorem ends_authorize {a : Attendee} {old : Status} {new : Target} :
    (authorize p actor a old new).Ends o
      (fun _ o' => (judge p o.store actor a old new).outcome = .ok () ∧ o.Posted [] o')
      fun e o' => (judge p o.store actor a old new).outcome = .error e ∧ o.Posted [] o' := by
  have hjudged : ∀ o' : Office, o.Posted [] o' →
      (require (judge p o.store actor a old new).outcome).Ends o'
        (fun _ o' => (judge p o.store actor a old new).outcome = .ok () ∧ o.Posted [] o')
        fun e o' => (judge p o.store actor a old new).outcome = .error e ∧ o.Posted [] o' :=
    fun o' hp => ends_require (fun _ h => ⟨h, hp⟩) fun e h => ⟨h, hp⟩
  unfold authorize
  refine ends_bind (ends_store ?_)
  dsimp only
  split
  · exact ends_bind (ends_note (hjudged _ ((Office.Posted.refl o).noted _)))
  · exact hjudged _ (.refl o)

/-- The check of the balances changes nothing; it refuses, or is cut off. -/
theorem ends_checkPrecondition {a : Attendee} {old : Status} {new : Target} :
    (checkPrecondition p a old new).Ends o
      (fun _ o' => permitted p (o.ledger.history a.id) old new = .ok () ∧ o.Posted [] o')
      fun e o' =>
        (permitted p (o.ledger.history a.id) old new = .error e ∨ o.Cut e) ∧ o.Posted [] o' := by
  unfold checkPrecondition permitted
  split
  · exact ends_throw ⟨.inl rfl, .refl o⟩
  · refine ends_bind (ends_transactionHistory.mono (fun h o' hh => ?_) fun e o' he => ?_)
    · obtain ⟨rfl, hp⟩ := hh
      exact ends_require (fun _ hok => ⟨hok, hp⟩) fun e he => ⟨.inl he, hp⟩
    · exact ⟨.inr he.1, he.2⟩

/-- The checks of a change of status come to what they would come to if the ledger could be listed,
or are cut off; they change the journal only. -/
theorem ends_checkChange {id : Int} {new : Target} :
    (checkChange p actor id new).Ends o
      (fun r o' => clearance p actor o id new = .ok r ∧ o.Posted [] o')
      fun e o' => (clearance p actor o id new = .error e ∨ o.Cut e) ∧ o.Posted [] o' := by
  unfold checkChange clearance
  refine ends_bind (ends_store (ends_bind (ends_require (fun a ha => ?_) fun e he => ?_)))
  swap
  · exact ⟨.inl (bind_eq_error_iff.mpr (.inl he)), .refl o⟩
  rw [bind_of_eq_ok ha]
  refine ends_bind (ends_authorize.mono (fun _ o₁ h => ?_) fun e o₁ h => ?_)
  swap
  · exact ⟨.inl (bind_eq_error_iff.mpr (.inl h.1)), h.2⟩
  obtain ⟨hgranted, hp₁⟩ := h
  have hledger : o₁.ledger = o.ledger := hp₁.ledger
  rw [bind_of_eq_ok hgranted]
  refine ends_bind (ends_checkPrecondition.mono (fun _ o₂ h => ?_) fun e o₂ h => ?_)
  swap
  · rw [hledger] at h
    refine ⟨h.1.imp (fun he => bind_eq_error_iff.mpr (.inl he)) fun hc => hc.of_posted hp₁, ?_⟩
    exact hp₁.then_quiet h.2
  obtain ⟨hallowed, hp₂⟩ := h
  rw [hledger] at hallowed
  have hposted : o.Posted [] o₂ := hp₁.then_quiet hp₂
  rw [bind_of_eq_ok hallowed]
  cases new with
  | unknown word => exact ends_throw ⟨.inl rfl, hposted⟩
  | status target =>
    refine ends_bind (ends_store (ends_bind (ends_require (fun ds hds => ?_) fun e he => ?_)))
    · rw [hposted.store] at hds
      exact ends_pure ⟨bind_eq_ok_iff.mpr ⟨ds, hds, rfl⟩, hposted⟩
    · rw [hposted.store] at he
      exact ⟨.inl (bind_eq_error_iff.mpr (.inl he)), hposted⟩

/-! ## The requests -/

theorem ends_register {a : Attendee} :
    (register p actor a).Ends o (fun _ o' => RegisterEnd p actor o a o')
      fun _ o' => RegisterEnd p actor o a o' := by
  unfold register
  refine ends_bind (ends_checkUnique.mono (fun _ o₁ h => ?_) fun e o₁ h => ?_)
  · obtain ⟨rfl, hunique⟩ := h
    refine ends_bind (ends_store (ends_bind ?_))
    refine ends_require (fun deltas hdeltas => ?_) fun e _ => ?_
    · refine ends_bind (ends_modifyStore (ends_bind (ends_recordAll.mono (fun _ o₂ h => ?_)
        fun e o₂ h => ?_)))
      · obtain ⟨-, rfl⟩ := h
        exact ends_pure (.added (Nat.le_zero.mp hunique) hdeltas fun _ => rfl)
      · obtain ⟨hmissing, -, done, -, rfl⟩ := h
        exact .added (Nat.le_zero.mp hunique) hdeltas fun hall => absurd hall hmissing
    · exact .refused (.refl _)
  · obtain ⟨rfl, -⟩ := h
    exact .refused (.refl _)

theorem ends_update {a : Attendee} {suppress : Bool} :
    (update p actor a suppress).Ends o (fun c o' => UpdateEnd p o a (.ok c) o')
      fun e o' => UpdateEnd p o a (.error e) o' := by
  unfold update
  refine ends_bind (ends_store (ends_bind (ends_require (fun stored hget => ?_) fun e he => ?_)))
  swap
  · obtain ⟨-, rfl⟩ := error_of_attendee he
    exact .refused (fun _ => Failure.noConfusion) (.refl o)
  have hstored := get?_of_attendee hget
  refine ends_bind (ends_checkUnique.mono (fun _ o₁ h => ?_) fun e o₁ h => ?_)
  swap
  · obtain ⟨rfl, rfl⟩ := h
    exact .refused (fun _ => Failure.noConfusion) (.refl _)
  obtain ⟨rfl, hunique⟩ := h
  refine ends_bind (ends_require (fun deltas hdeltas => ?_) fun e he => ?_)
  swap
  · exact .refused (not_mail_of_allocation he) (.refl _)
  have hput : o₁.store.putAttendee (editedRecord stored a) =
      .ok (o₁.store.putRecord (editedRecord stored a)) :=
    Store.putAttendee_of_get? ((id_editedRecord stored a).symm ▸ hstored)
  refine ends_bind (ends_require (fun s hs => ?_) fun e he => ?_)
  swap
  · cases hput.symm.trans he
  obtain rfl := Except.ok.inj (hput.symm.trans hs)
  refine ends_bind (ends_modifyStore (ends_bind (ends_recordAll.mono (fun _ o₂ h => ?_)
    fun e o₂ h => ?_)))
  · obtain ⟨-, rfl⟩ := h
    exact (ends_commit (Table.get?_insert_self ..) suppress).mono
      (fun _ _ hc => .committed hstored hunique hdeltas hc)
      fun _ _ hc => .committed hstored hunique hdeltas hc
  · obtain ⟨hmissing, ⟨_, _, rfl⟩, done, -, rfl⟩ := h
    exact .unrecorded (fun _ => Failure.noConfusion) hstored hunique hdeltas hmissing

theorem ends_updateInfo {i : AdminInfo} (hid : ∀ a, o.store.attendees.get? i.attendeeId = some a →
    a.id = i.attendeeId) :
    (updateInfo p actor i).Ends o (fun c o' => InfoEnd p o i (.ok c) o')
      fun e o' => InfoEnd p o i (.error e) o' := by
  unfold updateInfo
  refine ends_bind (ends_modifyStore (ends_bind (ends_store (ends_bind
    (ends_require (fun a hget => ?_) fun e he => ?_)))))
  · have hstored : o.store.attendees.get? i.attendeeId = some a := get?_of_attendee hget
    have hself : (o.withInfo i).store.attendees.get? a.id = some a := by
      rw [hid a hstored]
      exact hstored
    exact (ends_commit hself false).mono (fun _ _ hc => .committed hstored hc)
      fun _ _ hc => .committed hstored hc
  · obtain ⟨hnone, rfl⟩ := error_of_attendee he
    exact .unknown hnone

theorem ends_changeStatus {id : Int} {new : Target} {comment override : String} {suppress : Bool}
    (hid : ∀ a, o.store.attendees.get? id = some a → a.id = id) :
    (changeStatus p actor id new comment override suppress).Ends o
      (fun c o' => StatusEnd p actor o id new override (.ok c) o')
      fun e o' => StatusEnd p actor o id new override (.error e) o' := by
  unfold changeStatus
  refine ends_bind (ends_checkChange.mono (fun r o₁ h => ?_) fun e o₁ h => ?_)
  · obtain ⟨hclear, hposted⟩ := h
    have hc := clears_of_clearance hclear
    obtain ⟨a, old, target, deltas⟩ := r
    obtain rfl : new = .status target := hc.asked
    obtain rfl : old = o.store.currentStatus a := hc.current
    have hself : o₁.store.attendees.get? a.id = some a := by
      rw [hposted.store, hid a hc.stored]
      exact hc.stored
    exact (ends_commit hself suppress).mono
      (fun _ _ h => .committed rfl hc.stored hc.granted hc.differs hc.allowed hc.fits hposted h)
      fun _ _ h => .committed rfl hc.stored hc.granted hc.differs hc.allowed hc.fits hposted h
  · obtain ⟨hrefused | hcut, hposted⟩ := h
    · exact .refused (not_mail_of_clearance hrefused) hposted
    · exact .refused hcut.not_mail hposted

end Desk

end Registration
