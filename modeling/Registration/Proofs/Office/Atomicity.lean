import Registration.Proofs.Office.MailStep
import Registration.Proofs.Office.Resume

/-!
# All or nothing

A change of status writes the record, the history, the note of a deletion and the counts, one after
the other. All that can fail before the mail comes before the first of them: the checks, the ledger,
and the numbers and dates of the bookings. So up to the mail a change stores everything or nothing
(`Desk.ends_changeUntold`), and the mail stores nothing (`Desk.ends_tell`). What a change wants to
book is decided by its checks and its plan (`Office.wanted`), and a failure leaves a first part of
it in the ledger (`changeStatus_all_or_nothing`).
-/

namespace Registration

/-! ## Stopped work -/

/-- The failure turns the request down: it is rejected, or about nobody who is registered. -/
def Failure.turnsDown : Failure → Bool
  | attendeeNotFound _ => true
  | e => e.isRejection

theorem Failure.isRejection_eq_false_of_not_turnsDown {e : Failure} (h : e.turnsDown = false) :
    e.isRejection = false := by
  cases e <;> first | rfl | cases h

/-- The failure says that a collaborator was unavailable or a number cannot be represented. -/
def Failure.isHindrance : Failure → Bool
  | ledgerUnavailable _ | mailUnavailable _ => true
  | e => e.isUnrepresentable

theorem Failure.isHindrance_of_isUnrepresentable {e : Failure} (h : e.isUnrepresentable = true) :
    e.isHindrance = true := by
  cases e <;> first | rfl | cases h

theorem Failure.turnsDown_eq_false_of_isHindrance {e : Failure} (h : e.isHindrance = true) :
    e.turnsDown = false := by
  cases e <;> first | rfl | cases h

theorem Office.Cut.isHindrance {o : Office} {e : Failure} (h : o.Cut e) :
    e.isHindrance = true := by
  obtain ⟨_, rfl⟩ := h.unavailable
  rfl

/-- A failure before the mail that has stored nothing. A first part of what was wanted is booked:
nothing by a rejection, and all of it if everything works. -/
structure Office.Stopped (o : Office) (wanted : List Transaction) (e : Failure) (o' : Office) :
    Prop where
  store : o'.store = o.store
  mail : ∀ detail, e ≠ .mailUnavailable detail
  booked : ∃ n, o'.ledger = o.ledger.appendAll (wanted.take n) ∧
    (e.isRejection = true → wanted.take n = []) ∧ (o.outages = .none → wanted.take n = wanted)

namespace Office

variable {o o' : Office} {wanted : List Transaction} {e : Failure}

theorem Stopped.of_cut {n : ℕ} (hcut : o.Cut e) (hposted : o.Posted (wanted.take n) o') :
    o.Stopped wanted e o' := by
  refine ⟨hposted.store, hcut.not_mail, n, hposted.ledger, fun hrejection => ?_, fun hworking => ?_⟩
  · obtain ⟨detail, rfl⟩ := hcut.unavailable
    cases hrejection
  · exact absurd hworking hcut.outage

theorem Stopped.of_complete (hstore : o'.store = o.store)
    (hledger : o'.ledger = o.ledger.appendAll wanted)
    (hmail : ∀ detail, e ≠ .mailUnavailable detail) (hfault : e.isRejection = false) :
    o.Stopped wanted e o' := by
  refine ⟨hstore, hmail, wanted.length, ?_, fun hrejection => ?_, fun _ => List.take_length⟩
  · rw [List.take_length]
    exact hledger
  · rw [hfault] at hrejection
    cases hrejection

end Office

/-! ## A commit up to the mail -/

namespace Desk

variable {p : Policy} {o : Office}

/-- Storing a record keeps the ledger and the counts; it fails, changing nothing, only for a number
that is not known. -/
theorem ends_storeIfChanged_or_unknown {r : Reconciled} :
    (storeIfChanged r).Ends o
      (fun _ o' => o'.ledger = o.ledger ∧ o'.store.counts = o.store.counts)
      fun e o' => o' = o ∧ o.store.attendees.get? r.attendee.id = none ∧
        e = .attendeeNotFound r.attendee.id := by
  unfold storeIfChanged
  split
  · refine ends_bind (ends_store (ends_bind (ends_require (fun s hs => ?_) fun e he => ?_)))
    · refine ends_modifyStore ⟨rfl, ?_⟩
      unfold Store.putAttendee at hs
      split at hs
      · rw [← Except.ok.inj hs]
      · cases hs
    · unfold Store.putAttendee at he
      split at he
      · cases he
      · rename_i hunknown
        refine ⟨rfl, ?_, (Except.error.inj he).symm⟩
        simpa [Table.contains] using hunknown
  · exact ends_pure ⟨rfl, rfl⟩

/-- A commit up to the mail has booked all that was planned. If it fails, its recording has failed or
it was stopped, for an unknown number or for a hindrance. Here the record need not be stored under
its own number, so `Desk.ends_commitUntold` does not apply. -/
theorem ends_commitUntold_booked {a : Attendee} {old target : Status} {comment override : String}
    {suppress : Bool} {recorded : Desk Unit} {F : Failure → Prop}
    (hrecorded : ∀ o₁ : Office, o₁.store.counts = o.store.counts →
      recorded.Ends o₁ (fun _ o' => o'.ledger = o₁.ledger) fun e _ => F e) :
    (commitUntold p a old target comment override suppress recorded).Ends o
      (fun _ o' => o'.ledger = o.ledger.appendAll (o.plannedFor p a target override).transactions)
      fun e o' => F e ∨ o.Stopped (o.plannedFor p a target override).transactions e o' ∧
        (e.isHindrance = true ∨
          e = .attendeeNotFound a.id ∧ o.store.attendees.get? a.id = none) := by
  unfold commitUntold
  refine ends_bind (ends_store (ends_bind (ends_get ?_)))
  refine ends_bind ((ends_reconcile p a (o.store.info a.id) target override o.clock.today o).mono
    (fun r o₁ h => ?_) fun e o₁ h => .inr ?_)
  swap
  · rcases h with ⟨hfail, hposted⟩ | ⟨hcut, n, -, hposted⟩
    · have hnumber := isUnrepresentable_of_planned hfail
      have hhindrance := Failure.isHindrance_of_isUnrepresentable hnumber
      refine ⟨.of_complete hposted.store hposted.ledger (fun detail => ?_)
        (Failure.isRejection_eq_false_of_not_turnsDown
          (Failure.turnsDown_eq_false_of_isHindrance hhindrance)), .inl hhindrance⟩
      rintro rfl
      cases hnumber
    · exact ⟨.of_cut hcut hposted, .inl hcut.isHindrance⟩
  obtain ⟨-, hposted, hr⟩ := h
  refine ends_bind (ends_storeIfChanged_or_unknown.mono (fun _ o₂ h => ?_) fun e o₂ h => .inr ?_)
  swap
  · have hid : r.attendee.id = a.id := hr ▸ id_concluded ..
    obtain ⟨rfl, hnone, rfl⟩ := h
    rw [hid, hposted.store] at hnone
    exact ⟨.of_complete hposted.store hposted.ledger (fun _ => Failure.noConfusion) rfl,
      .inr ⟨by rw [hid], hnone⟩⟩
  obtain ⟨hledger, hcounts⟩ := h
  have hbooked : o₂.ledger = o.ledger.appendAll (o.plannedFor p a target override).transactions :=
    hledger.trans hposted.ledger
  dsimp only
  split
  · refine ends_bind (ends_enter.mono (fun _ o₃ h₃ => ?_) fun _ _ he => he)
    subst h₃
    have hrows : (o₂.store.enter r.attendee.id old r.status comment o₂.clock.now).counts =
        o.store.counts := by
      obtain ⟨deleted, henter⟩ := o₂.store.enter_eq r.attendee.id old r.status comment o₂.clock.now
      rw [henter, ← hposted.store]
      exact hcounts
    exact ends_bind ((hrecorded _ hrows).mono (fun _ o₄ h₄ => ends_pure (h₄.trans hbooked))
      fun _ _ he => .inl he)
  · exact ends_pure hbooked

end Desk

/-! ## A change of status up to the mail -/

section Changes

variable (p : Policy) (actor : Actor) (o : Office) (id : Int) (new : Target) (override : String)

/-- What a change of status wants to book: the plan of its commit, nothing if the checks refuse it.
-/
def Office.wanted : List Transaction :=
  match clearance p actor o id new with
  | .ok r => (o.plannedFor p r.attendee r.target override).transactions
  | .error _ => []

variable {p actor o id new override}

/-- What is wanted is for the account of the attendee. -/
theorem Office.debitor_of_mem_wanted {t : Transaction} (ht : t ∈ o.wanted p actor id new override) :
    ∃ a, o.store.attendees.get? id = some a ∧ t.debitor = a.id := by
  unfold wanted at ht
  split at ht
  · rename_i r hclear
    have hstored := (Desk.clears_of_clearance hclear).stored
    exact ⟨r.attendee, hstored, Office.debitor_of_mem_plannedFor ht⟩
  · cases ht

/-- What is planned depends on the records, the ledger and the day only. -/
theorem Office.plannedFor_of_posted {a : Attendee} {target : Status} {o₁ : Office}
    (h : o.Posted [] o₁) :
    o₁.plannedFor p a target override = o.plannedFor p a target override := by
  have hledger : o₁.ledger = o.ledger := h.ledger
  rw [plannedFor, plannedFor, h.store, hledger, h.clock]

variable (p actor o id new override) in
/-- Where every limited package has a row, a change of status up to the mail has booked all that was
wanted, or was stopped. -/
theorem Desk.ends_changeUntold (comment : String) (suppress : Bool)
    (hrows : ∀ code ∈ p.limitedPackages.map (·.1),
      (o.store.counts.get? (packageArea, code)).isSome) :
    (changeUntold p actor id new comment override suppress).Ends o
      (fun _ o' => o'.ledger = o.ledger.appendAll (o.wanted p actor id new override))
      fun e o' => o.Stopped (o.wanted p actor id new override) e o' := by
  unfold changeUntold Office.wanted
  refine ends_bind (ends_checkChange.mono (fun r o₁ h => ?_) fun e o₁ h => ?_)
  · obtain ⟨hclear, hposted⟩ := h
    have hledger : o₁.ledger = o.ledger := hposted.ledger
    simp only [hclear]
    -- the effects were checked, so there is a row for each of them
    have hrecorded : ∀ o₂ : Office, o₂.store.counts = o₁.store.counts →
        (recording r.deltas).Ends o₂ (fun _ o' => o'.ledger = o₂.ledger) fun _ _ => False := by
      intro o₂ hcounts
      have hcovers : o₂.store.counts.Covers r.deltas := by
        rw [hcounts, hposted.store]
        exact covers_of_allocation (clears_of_clearance hclear).fits hrows
      refine ends_bind (ends_recordAll.mono (fun _ o₃ h => ends_pure ?_) fun _ _ h => h.1 hcovers)
      rw [h.2]
      rfl
    refine (ends_commitUntold_booked hrecorded).mono (fun _ o' h => ?_) fun e o' h => ?_
    · rw [h, hledger, Office.plannedFor_of_posted hposted]
    · obtain ⟨hstore, hmail, n, hbooked, hrejection, hworking⟩ := (h.resolve_left not_false).1
      rw [Office.plannedFor_of_posted hposted] at hbooked hrejection hworking
      exact ⟨hstore.trans hposted.store, hmail, n, hledger ▸ hbooked, hrejection,
        fun hw => hworking (hposted.working hw)⟩
  · obtain ⟨hrefused | hcut, hposted⟩ := h
    · simp only [hrefused]
      exact ⟨hposted.store, not_mail_of_clearance hrefused, 0, hposted.ledger, fun _ => rfl,
        fun _ => rfl⟩
    · exact .of_cut (n := 0) hcut hposted

end Changes

/-! ## The mail -/

theorem isUnrepresentable_of_statusVariables {p : Policy} {a : Attendee} {s : Status}
    {comment : String} {e : Failure} (h : statusVariables p a s comment = .error e) :
    e.isUnrepresentable = true := by
  rcases bind_eq_error_iff.mp h with h | ⟨_, -, h⟩
  · exact isUnrepresentable_of_moneyText h
  rcases bind_eq_error_iff.mp h with h | ⟨_, -, h⟩
  · exact isUnrepresentable_of_moneyText h
  rcases bind_eq_error_iff.mp h with h | ⟨_, -, h⟩
  · exact isUnrepresentable_of_moneyText h
  · cases h

theorem Untellable.isUnrepresentable {p : Policy} {c : Committed × Option Notice} {e : Failure}
    (h : Untellable p e c) : e.isUnrepresentable = true := by
  obtain ⟨c, notice⟩ := c
  cases notice with
  | none => exact h.elim
  | some n => exact isUnrepresentable_of_statusVariables h

namespace Desk

variable {p : Policy} {o o' : Office} {c : Committed × Option Notice} {e : Failure}

theorem isHindrance_of_tell (h : (tell p c).answer o = .error e) : e.isHindrance = true := by
  rcases (ends_tell.of_error h).2 with hfigures | ⟨-, detail, -, rfl⟩
  · exact Failure.isHindrance_of_isUnrepresentable hfigures.isUnrepresentable
  · rfl

/-- A mail is never a reason to turn a request down. -/
theorem turnsDown_eq_false_of_tell (h : (tell p c).answer o = .error e) :
    e.turnsDown = false := Failure.turnsDown_eq_false_of_isHindrance (isHindrance_of_tell h)

/-- What could not be sent for an outage is sent when there is none. -/
theorem tell_of_mailUnavailable {detail : String}
    (h : (tell p c).answer o = .error (.mailUnavailable detail))
    (hmails : o'.outages.mailing = none) : ∃ d, (tell p c).answer o' = .ok d := by
  have htellable : ∀ e, ¬ Untellable p e c := by
    rcases (ends_tell.of_error h).2 with hfigures | ⟨htellable, -⟩
    · cases hfigures.isUnrepresentable
    · exact htellable
  cases hr : (tell p c).answer o' with
  | ok d => exact ⟨d, rfl⟩
  | error e =>
    rcases (ends_tell.of_error hr).2 with hfigures | ⟨-, detail', houtage, -⟩
    · exact absurd hfigures (htellable e)
    · rw [hmails] at houtage
      cases houtage

end Desk

/-! ## The whole change -/

section Whole

variable {p : Policy} {o : Office} {actor : Actor} {id : Int} {new : Target}
  {comment override : String} {suppress : Bool} {e : Failure}

namespace Desk

/-- After the change up to the mail, the mail leaves the records and the ledger. -/
theorem kept_of_untold {c : Committed × Option Notice}
    (h : (changeUntold p actor id new comment override suppress).answer o = .ok c) :
    ((changeUntold p actor id new comment override suppress).after o).Kept
      ((changeStatus p actor id new comment override suppress).after o) := by
  rw [changeStatus_eq, (bind_of_ok h _).2]
  exact kept_tell

section Rows

variable (hrows : ∀ code ∈ p.limitedPackages.map (·.1),
  (o.store.counts.get? (packageArea, code)).isSome)
include hrows

/-- While everything works, all that is wanted is booked. -/
theorem ledger_of_working (hworking : o.outages = .none) :
    ((changeStatus p actor id new comment override suppress).after o).ledger =
      o.ledger.appendAll (o.wanted p actor id new override) := by
  have hends := ends_changeUntold p actor o id new override comment suppress hrows
  cases hr : (changeUntold p actor id new comment override suppress).answer o with
  | ok c => exact (kept_of_untold hr).ledger.trans (hends.of_ok hr)
  | error e =>
    obtain ⟨n, hbooked, -, hall⟩ := (hends.of_error hr).booked
    rw [changeStatus_eq, (bind_of_error hr _).2, hbooked, hall hworking]

/-- A failure has booked a first part of what is wanted, a rejection nothing. -/
theorem booked_of_error
    (h : (changeStatus p actor id new comment override suppress).answer o = .error e) :
    ∃ n, ((changeStatus p actor id new comment override suppress).after o).ledger =
        o.ledger.appendAll ((o.wanted p actor id new override).take n) ∧
      (e.isRejection = true → (o.wanted p actor id new override).take n = []) := by
  have hends := ends_changeUntold p actor o id new override comment suppress hrows
  cases hr : (changeUntold p actor id new comment override suppress).answer o with
  | ok c =>
    refine ⟨(o.wanted p actor id new override).length, ?_, fun hrejection => ?_⟩
    · rw [List.take_length]
      exact (kept_of_untold hr).ledger.trans (hends.of_ok hr)
    · rw [changeStatus_eq, (bind_of_ok hr _).1] at h
      have hdown := turnsDown_eq_false_of_tell h
      cases (Failure.isRejection_eq_false_of_not_turnsDown hdown).symm.trans hrejection
  | error f =>
    rw [changeStatus_eq, (bind_of_error hr _).1] at h
    obtain rfl := Except.error.inj h
    obtain ⟨n, hbooked, hrejection, -⟩ := (hends.of_error hr).booked
    rw [changeStatus_eq, (bind_of_error hr _).2]
    exact ⟨n, hbooked, hrejection⟩

/-- What fails for the mail alone succeeds while mails work, and comes to the same records and the
same ledger. -/
theorem same_of_mailUnavailable {detail : String}
    (h : (changeStatus p actor id new comment override suppress).answer o =
      .error (.mailUnavailable detail)) :
    (∃ d, (changeStatus p actor id new comment override suppress).answer (o.withMailing none) =
        .ok d) ∧
      ((changeStatus p actor id new comment override suppress).after o).Kept
        ((changeStatus p actor id new comment override suppress).after (o.withMailing none)) := by
  have hends := ends_changeUntold p actor o id new override comment suppress hrows
  have hblind := blind_changeUntold (p := p) actor id new comment override suppress
  cases hr : (changeUntold p actor id new comment override suppress).answer o with
  | error f =>
    rw [changeStatus_eq, (bind_of_error hr _).1] at h
    exact absurd (Except.error.inj h) ((hends.of_error hr).mail detail)
  | ok c =>
    have hr' : (changeUntold p actor id new comment override suppress).answer
        (o.withMailing none) = .ok c := (hblind.answer o none).trans hr
    have hkept := kept_of_untold hr
    have hkept' := kept_of_untold hr'
    rw [hblind.after] at hkept'
    rw [changeStatus_eq, (bind_of_ok hr _).1] at h
    refine ⟨?_, hkept'.store.trans hkept.store.symm, hkept'.ledger.trans hkept.ledger.symm,
      hkept'.clock.trans hkept.clock.symm⟩
    rw [changeStatus_eq, (bind_of_ok hr' _).1, hblind.after]
    exact tell_of_mailUnavailable h rfl

end Rows

end Desk

/-- A change of status never leaves the records half changed. Take any office in which every limited
package has a row, with any outages, and any request for a change of status. The change is the
change up to the mail, followed by the mail. If it fails before the mail, the records are what they
were. If it comes to the mail, the mail leaves the records and the ledger that the change has made;
and if the mail is unavailable, the same request answers while mails work and leaves the same
records and the same ledger. Whenever the request fails, the ledger has grown by a first part of
what the same request books while everything works, by nothing if it was rejected, and all of it is
for the account of the attendee: no other account has changed. -/
theorem changeStatus_all_or_nothing
    (hrows : ∀ code ∈ p.limitedPackages.map (·.1),
      (o.store.counts.get? (packageArea, code)).isSome)
    (actor : Actor) (id : Int) (new : Target) (comment override : String) (suppress : Bool) :
    let work := Desk.changeStatus p actor id new comment override suppress
    let untold := Desk.changeUntold p actor id new comment override suppress
    work = untold >>= Desk.tell p ∧
      (∀ e, untold.answer o = .error e →
        work.answer o = .error e ∧ (work.after o).store = o.store) ∧
      (∀ c, untold.answer o = .ok c → (work.after o).store = (untold.after o).store ∧
        (work.after o).ledger = (untold.after o).ledger) ∧
      (∀ detail, work.answer o = .error (.mailUnavailable detail) →
        let mailed := o.withMailing none
        (∃ d, work.answer mailed = .ok d) ∧ (work.after mailed).store = (work.after o).store ∧
          (work.after mailed).ledger = (work.after o).ledger) ∧
      ∀ e, work.answer o = .error e → ∃ bookings n,
        (work.after (o.withOutages .none)).ledger = o.ledger.appendAll bookings ∧
        (work.after o).ledger = o.ledger.appendAll (bookings.take n) ∧
        (e.isRejection = true → bookings.take n = []) ∧
        (∀ t ∈ bookings, ∃ a, o.store.attendees.get? id = some a ∧ t.debitor = a.id) ∧
        ∀ debitor, (∀ a, o.store.attendees.get? id = some a → a.id ≠ debitor) →
          (work.after o).ledger.history debitor = o.ledger.history debitor := by
  intro work untold
  have hwork : work = untold >>= Desk.tell p := Desk.changeStatus_eq ..
  have hends := Desk.ends_changeUntold p actor o id new override comment suppress hrows
  refine ⟨hwork, fun e he => ?_, fun c hc => ?_, fun detail hmail => ?_, fun e he => ?_⟩
  · rw [hwork, (Desk.bind_of_error he _).1, (Desk.bind_of_error he _).2]
    exact ⟨rfl, (hends.of_error he).store⟩
  · have hkept : (untold.after o).Kept (work.after o) := Desk.kept_of_untold hc
    exact ⟨hkept.store, hkept.ledger⟩
  · obtain ⟨hanswer, hkept⟩ := Desk.same_of_mailUnavailable hrows hmail
    exact ⟨hanswer, hkept.store, hkept.ledger⟩
  · obtain ⟨n, hbooked, hrejection⟩ := Desk.booked_of_error hrows he
    have hwhole : (work.after (o.withOutages .none)).ledger =
        o.ledger.appendAll (o.wanted p actor id new override) :=
      Desk.ledger_of_working (o := o.withOutages .none) hrows rfl
    refine ⟨_, n, hwhole, hbooked, hrejection, fun t => Office.debitor_of_mem_wanted,
      fun debitor hother => ?_⟩
    have hnone : ((o.wanted p actor id new override).take n).filter (·.debitor = debitor) = [] := by
      refine List.filter_eq_nil_iff.mpr fun t ht hdebitor => ?_
      obtain ⟨a, hstored, ha⟩ := Office.debitor_of_mem_wanted (List.mem_of_mem_take ht)
      exact hother a hstored (ha.symm.trans (of_decide_eq_true hdebitor))
    rw [hbooked, Ledger.history_appendAll, hnone, List.append_nil]

/-- While mails are down, an approval takes the place and books the dues; with mails it would have
left the same. -/
theorem approved_without_mail :
    let o := (Office.openingWith dayCounts newYear).run dayPolicy
      [.register clerk fox, .outage { Outages.none with mailing := some "down" }]
    let work := Desk.changeStatus dayPolicy clerk 1 (.status .approved) "" "" false
    work.answer o = .error (.mailUnavailable "down") ∧
      (work.after o).store.statusOf 1 = .approved ∧
      (work.after o).store.counts.get? (packageArea, "day") = some ⟨packageArea, "day", 0, 1⟩ ∧
      ((work.after o).ledger.history 1).map (·.amount.cents) = [10000] ∧
      (work.after (o.withMailing none)).store = (work.after o).store ∧
      (work.after (o.withMailing none)).ledger = (work.after o).ledger := by
  intro o work
  have hrows : ∀ code ∈ dayPolicy.limitedPackages.map (·.1),
      (o.store.counts.get? (packageArea, code)).isSome := by decide +kernel
  have hmail : work.answer o = .error (.mailUnavailable "down") := by decide +kernel
  obtain ⟨-, -, -, hmailed, -⟩ :=
    changeStatus_all_or_nothing hrows clerk 1 (.status .approved) "" "" false
  exact ⟨hmail, by decide +kernel, by decide +kernel, by decide +kernel, (hmailed _ hmail).2⟩

end Whole

end Registration
