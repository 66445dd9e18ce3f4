import Registration.Proofs.Office.Atomicity

/-!
# Who may change a status

A caller without privileges may do two things: cancel a registration of one's own that is new or
approved, and check in somebody else who has paid, if a registration of one's own carries the desk
permission (`Entitled`). The judgement grants exactly that (`isGranted_judge_iff`), and nothing that
comes after the judgement refuses a request for its caller (`Desk.ends_commit_fault`). So a request
is refused for its caller exactly if the caller is not entitled to it, and then it has changed
nothing (`refused_iff_not_entitled`).
-/

namespace Registration

/-- The request was refused for its caller. -/
def Failure.isForbidden : Failure → Bool
  | loginNeeded | forbidden => true
  | _ => false

theorem Failure.isForbidden_eq_false_of_not_turnsDown {e : Failure} (h : e.turnsDown = false) :
    e.isForbidden = false := by
  cases e <;> first | rfl | cases h

/-! ## What a caller is entitled to -/

/-- A registration of the login carries the desk permission. -/
def HoldsDeskPermission (p : Policy) (s : Store) (subject : String) : Prop :=
  ∃ j b, s.attendees.get? j = some b ∧ b.identity = subject ∧
    p.deskPermission ∈ (s.info b.id).permissions

/-- What a caller without privileges may ask for about an attendee. -/
def Entitled (p : Policy) (s : Store) (subject : String) (a : Attendee) (asked : Status) : Prop :=
  subject ≠ "" ∧
    (subject = a.identity ∧ s.currentStatus a ∈ [Status.new, .approved] ∧ asked = .cancelled ∨
      subject ≠ a.identity ∧ s.currentStatus a = .paid ∧ asked = .checkedIn ∧
        HoldsDeskPermission p s subject)

theorem hasDeskPermission_iff {p : Policy} {s : Store} {subject : String} (h : subject ≠ "") :
    hasDeskPermission p s subject = true ↔ HoldsDeskPermission p s subject := by
  unfold hasDeskPermission HoldsDeskPermission Store.ownedBy
  rw [List.any_eq_true]
  constructor
  · rintro ⟨b, hb, hgrant⟩
    obtain ⟨hmem, howned⟩ := List.mem_filter.mp hb
    obtain ⟨j, hj⟩ := Table.mem_values_iff.mp hmem
    have hidentity : b.identity = subject := by simpa [h] using howned
    exact ⟨j, b, hj, hidentity, AdminInfo.grants_iff_mem.mp hgrant⟩
  · rintro ⟨j, b, hj, hidentity, hmem⟩
    refine ⟨b, List.mem_filter.mpr ⟨Table.mem_values_iff.mpr ⟨j, hj⟩, ?_⟩,
      AdminInfo.grants_iff_mem.mpr hmem⟩
    simp [h, hidentity]

/-- The judgement grants what the caller is entitled to. -/
theorem isGranted_judge_iff {p : Policy} {s : Store} {actor : Actor} {a : Attendee} {asked : Status}
    (hactor : actor.isPrivileged = false) :
    (judge p s actor a (s.currentStatus a) (.status asked)).isGranted = true ↔
      Entitled p s actor.subject a asked := by
  unfold judge Entitled
  by_cases hlogin : actor.subject = ""
  · simp [hactor, hlogin, Judgement.isGranted]
  rw [← Status.isSelfCancellable_iff_mem, ← hasDeskPermission_iff hlogin]
  by_cases hown : actor.subject = a.identity
  · -- owners are judged as such, whatever permission they hold
    by_cases hcancel : asked = .cancelled ∧ (s.currentStatus a).isSelfCancellable = true
    · simp [hactor, hown ▸ hlogin, hown, hcancel, Judgement.isGranted]
    · have hnot : ¬ ((s.currentStatus a).isSelfCancellable = true ∧ asked = .cancelled) :=
        fun h => hcancel ⟨h.2, h.1⟩
      simp [hactor, hown ▸ hlogin, hown, hcancel, hnot, Judgement.isGranted]
  · by_cases hdesk : s.currentStatus a = .paid ∧ asked = .checkedIn ∧
        hasDeskPermission p s actor.subject = true
    · simp [hactor, hlogin, hown, hdesk, Judgement.isGranted]
    · simp [hactor, hlogin, hown, hdesk, Judgement.isGranted]

/-! ## Notes that make no difference -/

theorem info_withInfo_of_ne {o : Office} {i : AdminInfo} {id : Int} (h : i.attendeeId ≠ id) :
    (o.withInfo i).store.info id = o.store.info id := by
  unfold Office.withInfo Store.putInfo Store.info
  rw [Table.get?_insert_of_ne _ _ h]

/-- What is noted about somebody who is no registration of the login does not give the login the
desk permission, nor takes it away. -/
theorem holdsDeskPermission_withInfo_iff {p : Policy} {o : Office} {subject : String}
    {i : AdminInfo} (hnumbered : ∀ j b, o.store.attendees.get? j = some b → b.id = j)
    (hother : ∀ b, o.store.attendees.get? i.attendeeId = some b → b.identity ≠ subject) :
    HoldsDeskPermission p (o.withInfo i).store subject ↔
      HoldsDeskPermission p o.store subject := by
  have hsame : ∀ j b, o.store.attendees.get? j = some b → b.identity = subject →
      (o.withInfo i).store.info b.id = o.store.info b.id := by
    intro j b hb hidentity
    refine info_withInfo_of_ne fun hid => ?_
    have hj : j = i.attendeeId := (hnumbered j b hb).symm.trans hid.symm
    exact hother b (hj ▸ hb) hidentity
  constructor
  · rintro ⟨j, b, hb, hidentity, hgrant⟩
    exact ⟨j, b, hb, hidentity, hsame j b hb hidentity ▸ hgrant⟩
  · rintro ⟨j, b, hb, hidentity, hgrant⟩
    exact ⟨j, b, hb, hidentity, (hsame j b hb hidentity).symm ▸ hgrant⟩

/-- Notes about the attendee in question, or about somebody who is no registration of the caller,
make no difference to what the caller is entitled to. -/
theorem entitled_withInfo_iff {p : Policy} {o : Office} {subject : String} {id : Int} {a : Attendee}
    {asked : Status} {i : AdminInfo}
    (hnumbered : ∀ j b, o.store.attendees.get? j = some b → b.id = j)
    (hstored : o.store.attendees.get? id = some a)
    (hother : i.attendeeId = id ∨
      ∀ b, o.store.attendees.get? i.attendeeId = some b → b.identity ≠ subject) :
    Entitled p (o.withInfo i).store subject a asked ↔ Entitled p o.store subject a asked := by
  have hstatus : (o.withInfo i).store.currentStatus a = o.store.currentStatus a := rfl
  unfold Entitled
  rw [hstatus]
  by_cases hown : subject = a.identity
  · simp [hown]
  · have hnobody : ∀ b, o.store.attendees.get? i.attendeeId = some b → b.identity ≠ subject := by
      rcases hother with rfl | hother
      · intro b hb hidentity
        obtain rfl := Option.some.inj (hstored.symm.trans hb)
        exact hown hidentity.symm
      · exact hother
    rw [holdsDeskPermission_withInfo_iff hnumbered hnobody]

/-! ## After the judgement -/

namespace Desk

variable {p : Policy} {actor : Actor} {o : Office}

section Commit

variable {a : Attendee} {old target : Status} {comment override : String} {suppress : Bool}
  {recorded : Desk Unit}

/-- A commit fails for a collaborator or for a number, or as its recording does, if the record is
stored. -/
theorem ends_commit_hindered {F : Failure → Prop}
    (hrecorded : ∀ o : Office,
      recorded.Ends o (fun _ o' => o'.ledger = o.ledger) fun e _ => F e) :
    (commit p a old target comment override suppress recorded).Ends o (fun _ _ => True)
      fun e _ => e.isHindrance = true ∨ F e ∨
        e = .attendeeNotFound a.id ∧ o.store.attendees.get? a.id = none := by
  refine ends_bind ((ends_commitUntold_booked fun o₁ _ => hrecorded o₁).mono (fun c o' _ => ?_)
    fun e _ h => ?_)
  · exact ends_iff.mpr ⟨fun _ _ => trivial, fun e he => .inl (isHindrance_of_tell he)⟩
  · rcases h with hfault | ⟨-, hhindrance | hunknown⟩
    · exact .inr (.inl hfault)
    · exact .inl hhindrance
    · exact .inr (.inr hunknown)

/-- What a commit fails for never turns the request down, if the record is stored. -/
theorem ends_commit_fault
    (hrecorded : ∀ o : Office,
      recorded.Ends o (fun _ o' => o'.ledger = o.ledger) fun e _ => e.turnsDown = false) :
    (commit p a old target comment override suppress recorded).Ends o (fun _ _ => True)
      fun e _ => e.turnsDown = false ∨
        e = .attendeeNotFound a.id ∧ o.store.attendees.get? a.id = none := by
  refine (ends_commit_hindered hrecorded).mono (fun _ _ h => h) fun e _ h => ?_
  rcases h with hhindrance | hfault | hunknown
  · exact .inl (Failure.turnsDown_eq_false_of_isHindrance hhindrance)
  · exact .inl hfault
  · exact .inr hunknown

end Commit

theorem ends_recording_fault (ds : List CountDelta) (o : Office) :
    (recording ds).Ends o (fun _ o' => o'.ledger = o.ledger) fun e _ => e.turnsDown = false := by
  refine ends_bind (ends_recordAll.mono (fun _ o' h => ends_pure ?_) fun e o' h => ?_)
  · obtain ⟨-, rfl⟩ := h
    rfl
  · obtain ⟨-, ⟨area, name, rfl⟩, -⟩ := h
    rfl

theorem isForbidden_eq_false_of_permitted {h : List Transaction} {old : Status} {new : Target}
    {e : Failure} (he : permitted p h old new = .error e) : e.isForbidden = false := by
  unfold permitted at he
  split at he
  · rw [← Except.error.inj he]
    rfl
  · unfold precondition at he
    dsimp only at he
    split at he <;> (try split_ifs at he) <;> cases he <;> rfl

theorem isForbidden_eq_false_of_allocation {t : CountTable} {before after : Attendee}
    {old target : Status} {e : Failure} (h : allocation p t before after old target = .error e) :
    e.isForbidden = false := by
  rcases error_of_deltasOn h with ⟨code, rfl⟩ | ⟨area, name, rfl⟩
  · rfl
  · rfl

/-- A request that the judgement grants is not refused for its caller by any later check. -/
theorem isForbidden_eq_false_of_clearance {id : Int} {a : Attendee} {new : Target} {e : Failure}
    (hstored : o.store.attendees.get? id = some a)
    (hgranted : (judge p o.store actor a (o.store.currentStatus a) new).isGranted = true)
    (h : clearance p actor o id new = .error e) : e.isForbidden = false := by
  have hfound : o.store.attendee id = .ok a := by
    unfold Store.attendee
    rw [hstored]
  have houtcome := (Judgement.outcome_eq_ok_iff _).mpr hgranted
  unfold clearance at h
  rw [bind_of_eq_ok hfound, bind_of_eq_ok houtcome] at h
  rcases bind_eq_error_iff.mp h with h | ⟨_, -, h⟩
  · exact isForbidden_eq_false_of_permitted h
  cases new with
  | unknown word =>
    rw [← Except.error.inj h]
    rfl
  | status target =>
    rcases bind_eq_error_iff.mp h with h | ⟨_, -, h⟩
    · exact isForbidden_eq_false_of_allocation h
    · cases h

/-- A judgement that does not grant a request refuses it for its caller. -/
theorem forbids_of_not_isGranted {j : Judgement} (h : j.isGranted = false) :
    ∃ e, j.outcome = .error e ∧ e.isForbidden = true := by
  cases j with
  | privileged => cases h
  | selfCancellation => cases h
  | deskCheckIn => cases h
  | anonymous => exact ⟨_, rfl, rfl⟩
  | forbiddenSelf => exact ⟨_, rfl, rfl⟩
  | forbiddenOther => exact ⟨_, rfl, rfl⟩

/-- The work ended in a refusal for its caller. -/
def Refused {α : Type} (x : Desk α) (o : Office) : Prop :=
  ∃ e, x.answer o = .error e ∧ e.isForbidden = true

/-- A granted request may fail, but not for its caller. -/
theorem not_refused_of_isGranted {id : Int} {a : Attendee} {new : Target}
    {comment override : String} {suppress : Bool} (hstored : o.store.attendees.get? id = some a)
    (hgranted : (judge p o.store actor a (o.store.currentStatus a) new).isGranted = true) :
    ¬ (changeStatus p actor id new comment override suppress).Refused o := by
  have hends : (changeStatus p actor id new comment override suppress).Ends o (fun _ _ => True)
      fun e _ => e.isForbidden = false := by
    unfold changeStatus
    refine ends_bind (ends_checkChange.mono (fun r o₁ _ => ?_) fun e o₁ h => ?_)
    · refine (ends_commit_fault (ends_recording_fault r.deltas)).mono (fun _ _ h => h)
        fun _ _ h => ?_
      rcases h with hfault | ⟨rfl, -⟩
      · exact Failure.isForbidden_eq_false_of_not_turnsDown hfault
      · rfl
    · rcases h.1 with hclear | hcut
      · exact isForbidden_eq_false_of_clearance hstored hgranted hclear
      · obtain ⟨detail, rfl⟩ := hcut.unavailable
        rfl
  rintro ⟨e, he, hforbidden⟩
  have hnot := hends.of_error he
  rw [hforbidden] at hnot
  cases hnot

/-- A request that is not granted is refused for its caller, with a line in the journal at most. -/
theorem refused_of_not_isGranted {id : Int} {a : Attendee} {new : Target}
    {comment override : String} {suppress : Bool} (hstored : o.store.attendees.get? id = some a)
    (hgranted : (judge p o.store actor a (o.store.currentStatus a) new).isGranted = false) :
    (changeStatus p actor id new comment override suppress).Refused o ∧
      o.Posted [] ((changeStatus p actor id new comment override suppress).after o) := by
  obtain ⟨f, hf, hforbidden⟩ := forbids_of_not_isGranted hgranted
  have hends : (changeStatus p actor id new comment override suppress).Ends o (fun _ _ => False)
      fun e o' => e = f ∧ o.Posted [] o' := by
    refine ends_bind ?_
    unfold checkChange
    refine ends_bind (ends_store (ends_bind (ends_require (fun b hb => ?_) fun e he => ?_)))
    · obtain rfl := Option.some.inj (hstored.symm.trans (get?_of_attendee hb))
      refine ends_bind (ends_authorize.mono (fun _ o₁ h => ?_) fun e o₁ h => ?_)
      · cases hf.symm.trans h.1
      · exact ⟨Except.error.inj (h.1.symm.trans hf), h.2⟩
    · rw [(error_of_attendee he).1] at hstored
      cases hstored
  cases hr : (changeStatus p actor id new comment override suppress).answer o with
  | ok c => exact (hends.of_ok hr).elim
  | error e =>
    obtain ⟨rfl, hposted⟩ := hends.of_error hr
    exact ⟨⟨e, hr, hforbidden⟩, hposted⟩

/-- Authorization lets exactly those requests through that the judgement grants. -/
theorem authorize_eq_ok_iff {a : Attendee} {old : Status} {new : Target} :
    (authorize p actor a old new).answer o = .ok () ↔
      (judge p o.store actor a old new).isGranted = true := by
  rw [← Judgement.outcome_eq_ok_iff]
  have hends : (authorize p actor a old new).Ends o _ _ := ends_authorize
  constructor
  · intro h
    exact (hends.of_ok h).1
  · intro h
    cases hr : (authorize p actor a old new).answer o with
    | ok _ => rfl
    | error e => cases h.symm.trans (hends.of_error hr).1

end Desk

/-! ## The whole request -/

section Whole

variable {p : Policy} {actor : Actor} {o : Office} {id : Int} {a : Attendee}

/-- Take any office, any attendee in it, any caller without privileges and any request for a status
of the attendee. The request passes authorization exactly if the caller is entitled to it: the
caller has logged in, and either owns the registration, which is new or approved, and asks for its
cancellation, or does not own it, the attendee has paid and is to be checked in, and a registration
of the caller carries the desk permission. It is refused for its caller, there or later, exactly if
the caller is not entitled to it, and then records, ledger and mails are what they were. Permissions
noted about the attendee in question, or about somebody who is no registration of the caller, make
no difference. -/
theorem refused_iff_not_entitled (hactor : actor.isPrivileged = false)
    (hstored : o.store.attendees.get? id = some a) (asked : Status) (comment override : String)
    (suppress : Bool) :
    let old := o.store.currentStatus a
    let work := Desk.changeStatus p actor id (.status asked) comment override suppress
    ((Desk.authorize p actor a old (.status asked)).answer o = .ok () ↔
        Entitled p o.store actor.subject a asked) ∧
      (work.Refused o ↔ ¬ Entitled p o.store actor.subject a asked) ∧
      (¬ Entitled p o.store actor.subject a asked → (work.after o).store = o.store ∧
        (work.after o).ledger = o.ledger ∧ (work.after o).outbox = o.outbox) ∧
      ((∀ j b, o.store.attendees.get? j = some b → b.id = j) → ∀ i : AdminInfo,
        (i.attendeeId = id ∨
          ∀ b, o.store.attendees.get? i.attendeeId = some b → b.identity ≠ actor.subject) →
        (work.Refused (o.withInfo i) ↔ work.Refused o)) := by
  intro old work
  have hrefused : ∀ o' : Office, o'.store.attendees.get? id = some a →
      (work.Refused o' ↔ ¬ Entitled p o'.store actor.subject a asked) := by
    intro o' hstored'
    rw [← isGranted_judge_iff hactor]
    constructor
    · intro hrefused hgranted
      exact Desk.not_refused_of_isGranted hstored' hgranted hrefused
    · intro hnot
      exact (Desk.refused_of_not_isGranted hstored' (Bool.eq_false_iff.mpr hnot)).1
  refine ⟨?_, hrefused o hstored, fun hnot => ?_, fun hnumbered i hother => ?_⟩
  · rw [Desk.authorize_eq_ok_iff]
    exact isGranted_judge_iff hactor
  · rw [← isGranted_judge_iff hactor] at hnot
    have hposted : o.Posted [] (work.after o) :=
      (Desk.refused_of_not_isGranted hstored (Bool.eq_false_iff.mpr hnot)).2
    exact ⟨hposted.store, hposted.ledger, hposted.outbox⟩
  · have hstored' : (o.withInfo i).store.attendees.get? id = some a := hstored
    rw [hrefused o hstored, hrefused _ hstored', entitled_withInfo_iff hnumbered hstored hother]

end Whole

/-- Somebody with the desk permission checks in an attendee who has paid. The attendee cannot do so,
nor can another one without the permission, and their attempts leave the records as they are. -/
theorem checkIn_refused_to_owner :
    let o := (Office.openingWith dayCounts newYear).run dayPolicy
      [.register (visitor "101") fox, .register (visitor "202") { fox with nickname := "Hare" },
        .register (visitor "303") { fox with nickname := "Wolf", packages := .empty },
        .change (.updateInfo clerk ⟨2, [], ["regdesk"], "", 0, ""⟩),
        .change (.changeStatus clerk 1 (.status .approved) "" "" false),
        .inject (receipt .payment 10000 0),
        .change (.changeStatus clerk 1 (.status .paid) "" "" false)]
    let checkIn := fun actor => Desk.changeStatus dayPolicy actor 1 (.status .checkedIn) "" "" false
    ¬ (checkIn (visitor "202")).Refused o ∧
      ((checkIn (visitor "101")).Refused o ∧
        ((checkIn (visitor "101")).after o).store = o.store) ∧
      (o.store.attendees.get? 3).map (·.identity) = some "303" ∧
      (checkIn (visitor "303")).Refused o ∧
        ((checkIn (visitor "303")).after o).store = o.store := by
  intro o checkIn
  have hfacts : (o.store.attendees.get? 1).map (fun a => (a.identity, o.store.currentStatus a)) =
      some ("101", .paid) := by decide +kernel
  obtain ⟨a, hstored, ha⟩ := Option.map_eq_some_iff.mp hfacts
  obtain ⟨hidentity, hstatus⟩ := Prod.mk.inj ha
  have hdesk : HoldsDeskPermission dayPolicy o.store "202" :=
    (hasDeskPermission_iff (by decide)).mp (by decide +kernel)
  have hentitled : Entitled dayPolicy o.store "202" a .checkedIn :=
    ⟨by decide, .inr ⟨by rw [hidentity]; decide, hstatus, rfl, hdesk⟩⟩
  have howns : ¬ Entitled dayPolicy o.store "101" a .checkedIn := by
    rintro ⟨-, ⟨-, -, hcancel⟩ | ⟨hother, -⟩⟩
    · cases hcancel
    · exact hother hidentity.symm
  have hlacks : ¬ Entitled dayPolicy o.store "303" a .checkedIn := by
    rintro ⟨-, ⟨-, -, hcancel⟩ | ⟨-, -, -, hholds⟩⟩
    · cases hcancel
    · have hnone : hasDeskPermission dayPolicy o.store "303" = false := by decide +kernel
      cases hnone.symm.trans ((hasDeskPermission_iff (by decide)).mpr hholds)
  have hvisitor : ∀ subject, (visitor subject).isPrivileged = false := fun _ => rfl
  obtain ⟨-, hhelper, -⟩ :=
    refused_iff_not_entitled (hvisitor "202") hstored .checkedIn "" "" false
  obtain ⟨-, howner, hkept, -⟩ :=
    refused_iff_not_entitled (hvisitor "101") hstored .checkedIn "" "" false
  obtain ⟨-, hstranger, hstays, -⟩ :=
    refused_iff_not_entitled (hvisitor "303") hstored .checkedIn "" "" false
  exact ⟨fun h => hhelper.mp h hentitled, ⟨howner.mpr howns, (hkept howns).1⟩,
    by decide +kernel, hstranger.mpr hlacks, (hstays hlacks).1⟩

end Registration
