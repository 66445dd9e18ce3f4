import Registration.Proofs.Office.Run
import Registration.Proofs.Store.Occupancy

/-!
# Counts do not drift

The rows of the limited packages are kept by differences, which are worked out before a change is
carried out and for the status that was asked for. Still every row is at all times the sum over the
registrations (`Store.Occupied`): the status that a change comes to takes as many places as the one
asked for, and what is refused or cut off changes neither side (`occupied_run`). So deriving a count
anew finds nothing to correct (`recalculate_of_occupied`).
-/

namespace Registration

/-- The row of every limited package is what the registrations hold of it. -/
def Store.Occupied (p : Policy) (s : Store) : Prop :=
  ∀ code ∈ p.limitedPackages.map (·.1), s.counts.get? (packageArea, code) =
    some ⟨packageArea, code, s.held code Status.pendingMultiplier,
      s.held code Status.attendingMultiplier⟩

variable {p : Policy} {o o' : Office}

/-! ## Rows and effects -/

/-- Rows that follow the effects of a change stay what is held. -/
theorem Store.Occupied.of_apply {s s' : Store} (h : s.Occupied p) (before after : Attendee)
    (old target : Status)
    (hcounts : ∀ code ∈ p.limitedPackages.map (·.1),
      s'.counts.get? (packageArea, code) = (s.counts.get? (packageArea, code)).map fun c =>
        c.apply (packageDelta code (before.packageCount code) (after.packageCount code) old target))
    (hpending : ∀ code, s'.held code Status.pendingMultiplier =
      s.held code Status.pendingMultiplier + (after.packageCount code * target.pendingMultiplier -
        before.packageCount code * old.pendingMultiplier))
    (hattending : ∀ code, s'.held code Status.attendingMultiplier =
      s.held code Status.attendingMultiplier +
        (after.packageCount code * target.attendingMultiplier -
          before.packageCount code * old.attendingMultiplier)) : s'.Occupied p := by
  intro code hcode
  rw [hcounts code hcode, h code hcode, hpending, hattending]
  rfl

theorem Store.Occupied.rows {s : Store} (h : s.Occupied p) :
    ∀ code ∈ p.limitedPackages.map (·.1), (s.counts.get? (packageArea, code)).isSome :=
  fun code hcode => by rw [h code hcode]; rfl

/-- A change that asks for the status there is has no effect on its own record. -/
theorem apply_packageDelta_self (c : Count) (code : String) (n : Int) (s : Status) :
    c.apply (packageDelta code n n s s) = c :=
  Count.apply_of_isEmpty (by simp [packageDelta, CountDelta.isEmpty])

/-- The status that a change comes to takes as many places as the one that was asked for. -/
theorem pendingMultiplier_resultingStatus (b : Balances) (grace : Int) (s : Status) :
    (b.resultingStatus grace s).pendingMultiplier = s.pendingMultiplier := by
  refine Balances.apply_resultingStatus (fun s t hs ht => ?_) b grace s
  cases s <;> cases hs <;> cases t <;> cases ht <;> rfl

theorem attendingMultiplier_resultingStatus (b : Balances) (grace : Int) (s : Status) :
    (b.resultingStatus grace s).attendingMultiplier = s.attendingMultiplier := by
  refine Balances.apply_resultingStatus (fun s t hs ht => ?_) b grace s
  cases s <;> cases hs <;> cases t <;> cases ht <;> rfl

/-! ## Commits -/

/-- The recording of a commit is complete wherever the counts are those of `o`, and the table it
makes has the effects of the change. -/
structure Records (p : Policy) (o : Office) (a : Attendee) (old target : Status)
    (recorded : Desk Unit) (t : CountTable) : Prop where
  complete : ∀ o₁ : Office, o₁.store.counts = o.store.counts →
    recorded.answer o₁ = .ok () ∧ recorded.after o₁ = o₁.withCounts t
  effects : ∀ code ∈ p.limitedPackages.map (·.1),
    t.get? (packageArea, code) = (o.store.counts.get? (packageArea, code)).map fun c =>
      c.apply (packageDelta code (a.packageCount code) (a.packageCount code) old target)

theorem records_pure (p : Policy) (o : Office) (a : Attendee) (s : Status) :
    Records p o a s s (pure ()) o.store.counts where
  complete o₁ h := ⟨rfl, by rw [← h]; rfl⟩
  effects code _ := by simp only [apply_packageDelta_self, Option.map_id']

theorem records_recording {a : Attendee} {old target : Status} {ds : List CountDelta}
    (hocc : o.store.Occupied p)
    (hds : allocation p o.store.counts a a old target = .ok ds) :
    Records p o a old target (recording ds) (o.store.counts.applyAll ds) where
  complete o₁ h := by
    have hcovers : o₁.store.counts.Covers ds := h ▸ covers_of_allocation hds hocc.rows
    have hends : (recording ds).Ends o₁
        (fun _ o₂ => o₂ = o₁.withCounts (o.store.counts.applyAll ds)) fun _ _ => False :=
      Desk.ends_bind (Desk.ends_recordAll.mono (fun _ _ hr => Desk.ends_pure (h ▸ hr.2))
        fun _ _ hr => hr.1 hcovers)
    cases hr : (recording ds).answer o₁ with
    | ok _ => exact ⟨rfl, hends.of_ok hr⟩
    | error e => exact (hends.of_error hr).elim
  effects code hcode := get?_applyAll_deltas hds hcode o.store.counts

/-- A commit keeps the rows at what is held. -/
theorem CommitEnd.occupied {a : Attendee} {old target : Status} {comment override : String}
    {recorded : Desk Unit} {answer : Except Failure Committed} {t : CountTable}
    (h : CommitEnd p a old target comment override recorded o answer o')
    (hrec : Records p o a old target recorded t) (hocc : o.store.Occupied p)
    (hstored : o.store.attendees.get? a.id = some a) (hold : old = o.store.statusOf a.id) :
    o'.store.Occupied p := by
  have hcounts : ∀ {r o₁}, o.Settles p a old target comment override r o₁ →
      o₁.store.counts = o.store.counts := fun hs => by rw [hs.store, Store.counts_settle]
  have hheld : ∀ {r o₁}, o.Settles p a old target comment override r o₁ → ∀ code weight,
      o₁.store.held code weight = o.store.held code weight +
        (a.packageCount code * weight r.status - a.packageCount code * weight old) := by
    intro r o₁ hs code weight
    have hid := hs.id_eq
    have hpackages : r.attendee.packages = a.packages := by rw [hs.result]; rfl
    rw [hs.store, Store.held_settle (hid ▸ hstored) hpackages (hid ▸ hold)]
  cases h with
  | refused _ hposted => exact hposted.store ▸ hocc
  | unrecorded hsettles _ hrecorded =>
    -- every row is there, so recording does not fail
    cases (hrec.complete _ (hcounts hsettles)).1.symm.trans hrecorded
  | @changed r o₁ _ _ hsettles _ _ hkept =>
    have hstatus : r.status = (Balances.ofHistory (o₁.ledger.history a.id)).resultingStatus
        p.graceCents target := by rw [hsettles.result]; rfl
    have hstore : o'.store = { o₁.store with counts := t } := by
      rw [hkept.store, (hrec.complete _ (hcounts hsettles)).2]
      rfl
    refine hocc.of_apply a a old target ?_ ?_ ?_
    · rw [hstore]
      exact hrec.effects
    · intro code
      rw [hstore, ← pendingMultiplier_resultingStatus, ← hstatus]
      exact hheld hsettles code _
    · intro code
      rw [hstore, ← attendingMultiplier_resultingStatus, ← hstatus]
      exact hheld hsettles code _
  | @unchanged r o₁ _ _ hsettles hsame hkept =>
    intro code hcode
    have hsum : ∀ weight, o₁.store.held code weight = o.store.held code weight := fun weight => by
      rw [hheld hsettles, hsame]
      omega
    have hrow := hocc code hcode
    rw [← hsum, ← hsum, ← hcounts hsettles] at hrow
    rw [hkept.store]
    exact hrow

/-! ## Requests -/

theorem RegisterEnd.occupied {actor : Actor} {a : Attendee} (h : RegisterEnd p actor o a o')
    (hs : o.store.WellKept) (hocc : o.store.Occupied p) : o'.store.Occupied p := by
  cases h with
  | refused hkept => exact hkept.store ▸ hocc
  | @added deltas done hunique hdeltas hdone =>
    set b := Desk.newRecord actor a
    have hnone : ∀ code, ({ b with packages := .empty } : Attendee).packageCount code = 0 :=
      fun _ => rfl
    rw [hdone (covers_of_allocation hdeltas hocc.rows)]
    have hheld : ∀ code weight, (o.withNewRecord b (o.store.counts.applyAll deltas)).store.held
        code weight = o.store.held code weight + b.packageCount code * weight .new :=
      fun code weight => Store.held_addAttendee hs b code weight
    refine hocc.of_apply { b with packages := .empty } b .new .new
      (fun code hcode => get?_applyAll_deltas hdeltas hcode _) (fun code => ?_) fun code => ?_
    · rw [hheld, hnone, zero_mul, sub_zero]
    · rw [hheld, hnone, zero_mul, sub_zero]

theorem UpdateEnd.occupied {a : Attendee} {answer : Except Failure Committed}
    (h : UpdateEnd p o a answer o') (hs : o.store.WellKept) (hocc : o.store.Occupied p) :
    o'.store.Occupied p := by
  cases h with
  | refused _ hkept => exact hkept.store ▸ hocc
  | unrecorded _ _ _ hdeltas hmissing =>
    exact absurd (covers_of_allocation hdeltas hocc.rows) hmissing
  | @committed _ stored deltas comment _ hstored _ hdeltas hcommit =>
    have hid : (Desk.editedRecord stored a).id = a.id := Desk.id_editedRecord stored a
    have hold := currentStatus_withRecord hs hstored (o.store.counts.applyAll deltas)
    have hcurrent : o.store.currentStatus stored = o.store.statusOf a.id := by
      rw [Store.currentStatus_eq, hs.numbered _ _ hstored]
    -- what was edited does not matter from here on
    generalize Desk.editedRecord stored a = b at hdeltas hcommit hid hold
    rw [← hid] at hstored hcurrent
    have hput : (o.withRecord b (o.store.counts.applyAll deltas)).store.Occupied p := by
      refine hocc.of_apply stored b _ _ (fun code hcode => get?_applyAll_deltas hdeltas hcode _)
        (fun code => ?_) fun code => ?_
      · rw [hcurrent]
        exact Store.held_putRecord hstored code _
      · rw [hcurrent]
        exact Store.held_putRecord hstored code _
    exact hcommit.occupied (records_pure p _ b _) hput (Table.get?_insert_self ..) hold

theorem InfoEnd.occupied {i : AdminInfo} {answer : Except Failure Committed}
    (h : InfoEnd p o i answer o') (hs : o.store.WellKept) (hocc : o.store.Occupied p) :
    o'.store.Occupied p := by
  have hinfo : (o.withInfo i).store.Occupied p := hocc
  cases h with
  | unknown _ => exact hinfo
  | @committed _ a _ _ hstored hcommit =>
    rw [← hs.numbered _ a hstored] at hstored
    exact hcommit.occupied (records_pure p _ a _) hinfo hstored (Store.currentStatus_eq _ a)

theorem StatusEnd.occupied {actor : Actor} {id : Int} {new : Target} {override : String}
    {answer : Except Failure Committed} (h : StatusEnd p actor o id new override answer o')
    (hs : o.store.WellKept) (hocc : o.store.Occupied p) : o'.store.Occupied p := by
  cases h with
  | refused _ hposted => exact hposted.store ▸ hocc
  | @committed _ a target deltas _ o₁ _ _ hstored _ _ _ hdeltas hposted hcommit =>
    rw [← hs.numbered _ a hstored] at hstored
    have hcounts : o₁.store.counts = o.store.counts := by rw [hposted.store]
    have hocc₁ : o₁.store.Occupied p := hposted.store ▸ hocc
    rw [← hcounts] at hdeltas
    refine hcommit.occupied (records_recording hocc₁ hdeltas) hocc₁ ?_ ?_
    · rw [hposted.store]
      exact hstored
    · rw [hposted.store]
      exact Store.currentStatus_eq _ a

/-- Every event keeps the rows at what is held. -/
theorem Event.occupied_apply (hs : o.store.WellKept) (hocc : o.store.Occupied p) (e : Event) :
    (e.apply p o).store.Occupied p := by
  cases e with
  | register actor a => exact (registerEnd p o actor a).occupied hs hocc
  | change c =>
    cases c with
    | update actor a suppress => exact (updateEnd p o actor a suppress).occupied hs hocc
    | updateInfo actor i => exact (infoEnd p hs actor i).occupied hs hocc
    | changeStatus actor id new comment override suppress =>
      exact (statusEnd p hs actor id new comment override suppress).occupied hs hocc
  | inject _ => exact hocc
  | outage _ => exact hocc
  | tick _ => exact hocc

/-- Every run keeps the rows at what is held. -/
theorem occupied_run (hs : o.store.WellKept) (hocc : o.store.Occupied p) (events : List Event) :
    (o.run p events).store.Occupied p :=
  Office.run_of_wellKept (fun o => o.store.Occupied p) (fun _ e _ => e.occupied_apply) hs hocc

/-! ## Deriving a count anew -/

/-- Deriving the count of a package anew answers with the row there is and changes nothing, not even
the journal. -/
theorem recalculate_of_occupied (hs : o.store.WellKept) (hocc : o.store.Occupied p) {code : String}
    (hcode : code ∈ p.limitedPackages.map (·.1))
    (hcounts : ∀ a ∈ o.store.attendees.values, 0 ≤ a.packageCount code) :
    (Desk.recalculate code).Ends o
      (fun row o' => o.store.counts.get? (packageArea, code) = some row ∧ o' = o)
      fun _ _ => False := by
  have hrow : o.store.counts.get? (packageArea, code) = some (occupancy o.store code) := by
    rw [hocc code hcode, occupancy, Store.unitsHeld_holding hs hcounts rfl,
      Store.unitsHeld_holding hs hcounts rfl]
  have hget : o.store.counts.get packageArea code = .ok (occupancy o.store code) :=
    CountTable.get_eq_ok_iff.mpr hrow
  have hreset : o.store.counts.reset (occupancy o.store code) = .ok o.store.counts := by
    have hinsert : o.store.counts.insert (packageArea, code) (occupancy o.store code) =
        o.store.counts := Table.insert_of_get? hrow
    change (o.store.counts.get packageArea code >>= fun _ => pure _) = _
    rw [hget]
    exact congrArg Except.ok hinsert
  unfold Desk.recalculate
  refine Desk.ends_bind (Desk.ends_store (Desk.ends_bind (Desk.ends_require (fun row h => ?_)
    fun e h => ?_)))
  · obtain rfl := Except.ok.inj (hget.symm.trans h)
    rw [if_neg (fun hne => hne rfl)]
    refine Desk.ends_bind (Desk.ends_require (fun t ht => ?_) fun e he => ?_)
    · obtain rfl := Except.ok.inj (hreset.symm.trans ht)
      exact Desk.ends_bind (Desk.ends_modifyStore (Desk.ends_pure ⟨hrow, rfl⟩))
    · cases hreset.symm.trans he
  · cases hget.symm.trans h

theorem occupied_openingWith {counts : CountTable}
    (hzero : ∀ code ∈ p.limitedPackages.map (·.1),
      counts.get? (packageArea, code) = some ⟨packageArea, code, 0, 0⟩) (clock : Clock) :
    (Office.openingWith counts clock).store.Occupied p := fun code hcode => hzero code hcode

/-- Start without registrations and with a zero row for every limited package, and let any events
happen, with requests that end in any way and any outages. Then the row of every limited package is
the sum over all registrations of their units, counted provisionally or for good as their statuses
say. So, unless some registration has a negative count, deriving the row anew gives the row and
leaves the office as it is. -/
theorem counts_exact_after_run {counts : CountTable}
    (hzero : ∀ code ∈ p.limitedPackages.map (·.1),
      counts.get? (packageArea, code) = some ⟨packageArea, code, 0, 0⟩) (clock : Clock)
    (events : List Event) {code : String} (hcode : code ∈ p.limitedPackages.map (·.1)) :
    let o := (Office.openingWith counts clock).run p events
    ∃ row, o.store.counts.get? (packageArea, code) = some row ∧
      row.pending = unitsHeld code (fun a => (o.store.currentStatus a).pendingMultiplier)
        o.store.attendees.values ∧
      row.attending = unitsHeld code (fun a => (o.store.currentStatus a).attendingMultiplier)
        o.store.attendees.values ∧
      ((∀ a ∈ o.store.attendees.values, 0 ≤ a.packageCount code) →
        (Desk.recalculate code).answer o = .ok row ∧ (Desk.recalculate code).after o = o) := by
  intro o
  have hopen := Office.wellKept_openingWith counts clock
  have hs : o.store.WellKept := Office.wellKept_run hopen events
  have hocc : o.store.Occupied p := occupied_run hopen (occupied_openingWith hzero clock) events
  refine ⟨_, hocc code hcode, (Store.unitsHeld_values hs code _).symm,
    (Store.unitsHeld_values hs code _).symm, fun hcounts => ?_⟩
  obtain ⟨row, hanswer, hrow, hafter⟩ :=
    (recalculate_of_occupied hs hocc hcode hcounts).exists_answer
  rw [hocc code hcode] at hrow
  exact ⟨hanswer.trans (congrArg Except.ok (Option.some.inj hrow).symm), hafter⟩

/-- A place that was taken provisionally and then for good is counted once, and deriving the count
anew finds it so. -/
theorem counts_exact_after_approval :
    let o := (Office.openingWith dayCounts newYear).run dayPolicy
      [.register clerk fox, .change (.changeStatus clerk 1 (.status .approved) "" "" false)]
    o.store.counts.get? (packageArea, "day") = some ⟨packageArea, "day", 0, 1⟩ ∧
      (Desk.recalculate "day").answer o = .ok ⟨packageArea, "day", 0, 1⟩ ∧
      (Desk.recalculate "day").after o = o := by
  intro o
  have hzero : ∀ code ∈ dayPolicy.limitedPackages.map (·.1),
      dayCounts.get? (packageArea, code) = some ⟨packageArea, code, 0, 0⟩ := by decide +kernel
  have hrow : o.store.counts.get? (packageArea, "day") = some ⟨packageArea, "day", 0, 1⟩ := by
    decide +kernel
  have hcounts : ∀ a ∈ o.store.attendees.values, 0 ≤ a.packageCount "day" := by decide +kernel
  obtain ⟨row, hget, -, -, hanew⟩ := counts_exact_after_run hzero newYear
    [.register clerk fox, .change (.changeStatus clerk 1 (.status .approved) "" "" false)]
    (show "day" ∈ dayPolicy.limitedPackages.map (·.1) by decide +kernel)
  obtain rfl := Option.some.inj (hget.symm.trans hrow)
  exact ⟨hrow, hanew hcounts⟩

end Registration
