import Registration.Proofs.Office.RecordSteps

/-!
# Due dates never move back

The due date that the ledger gives jumps back and forth: forth when a payment covers a due, back
when the payment is taken away, and none is left without dues. The date in the record follows it
forth only (`le_laterDueDate`). An edit keeps the date that is stored, whatever date it comes with, and
nothing else writes the record; so once a registration has a due date, the date moves forward only,
along every run (`due_date_moves_forward_only`).
-/

namespace Registration

open Calendar (Date)

/-- The later one of two due dates is there if the first one is, and not before it. -/
theorem le_laterDueDate (c : Date) (derived : Option Date) :
    ∃ e, laterDueDate (some c) derived = some e ∧ c ≤ e := by
  cases derived with
  | none => exact ⟨c, rfl, Date.le_iff.mpr (Nat.le_refl _)⟩
  | some d =>
    by_cases hback : d < c
    · exact ⟨c, if_pos hback, Date.le_iff.mpr (Nat.le_refl _)⟩
    · exact ⟨d, if_neg hback, Date.le_iff.mpr (Nat.le_of_not_lt hback)⟩

namespace Attendee

/-- The record has a due date, and it is not before the given one. -/
def DueFrom (a : Attendee) (d : Date) : Prop := ∃ e, a.cachedDueDate = some e ∧ d ≤ e

variable {a b : Attendee} {d : Date}

theorem DueFrom.refresh (h : a.DueFrom d) (balances : Balances) (s : Status) :
    (a.refresh balances s).DueFrom d := by
  obtain ⟨c, hc, hdc⟩ := h
  obtain ⟨e, he, hce⟩ := le_laterDueDate c balances.dueDate
  have hdate : (a.refresh balances s).cachedDueDate =
      laterDueDate a.cachedDueDate balances.dueDate := rfl
  refine ⟨e, ?_, Date.le_iff.mpr (Nat.le_trans hdc hce)⟩
  rw [hdate, hc, he]

/-- An edit keeps the due date that is stored. -/
theorem dueDate_editedRecord (stored x : Attendee) :
    (Desk.editedRecord stored x).cachedDueDate = stored.cachedDueDate := by
  unfold Desk.editedRecord withFiguresOf
  rfl

theorem IsEditOf.dueDate_eq (h : b.IsEditOf a) : b.cachedDueDate = a.cachedDueDate := by
  rcases h with rfl | ⟨x, -, rfl⟩
  · rfl
  · exact dueDate_editedRecord a x

end Attendee

/-- A step moves the due date forward or leaves it. -/
theorem RecordStep.dueFrom {e : Event} {a b : Attendee} {s s' : Status} {d : Date}
    (h : RecordStep e a s b s') (ha : a.DueFrom d) : b.DueFrom d := by
  cases h with
  | kept => exact ha
  | submitted _ _ =>
    unfold Attendee.DueFrom
    rwa [Attendee.dueDate_editedRecord]
  | @refreshed b balances target _ hb _ =>
    refine Attendee.DueFrom.refresh ?_ balances target
    unfold Attendee.DueFrom
    rwa [hb.dueDate_eq]

/-! ## Runs -/

/-- The registration with the number is stored and has a due date from the given one on. -/
def Store.DueFrom (s : Store) (id : Int) (d : Date) : Prop :=
  ∃ a, s.attendees.get? id = some a ∧ a.DueFrom d

section Runs

variable {p : Policy} {o : Office} {id : Int} {d : Date}

theorem Event.dueFrom_apply (hs : o.store.WellKept) (h : o.store.DueFrom id d) (e : Event) :
    (e.apply p o).store.DueFrom id d := by
  obtain ⟨a, ha, hdue⟩ := h
  obtain rfl := hs.numbered id a ha
  obtain ⟨b, hb, hstep⟩ := e.recordStep (p := p) hs ha
  exact ⟨b, hb, hstep.dueFrom hdue⟩

theorem Office.dueFrom_run (hs : o.store.WellKept) (h : o.store.DueFrom id d)
    (events : List Event) : (o.run p events).store.DueFrom id d :=
  run_of_wellKept (fun o => o.store.DueFrom id d)
    (fun _ e _ hs hdue => e.dueFrom_apply hs hdue) hs h

end Runs

/-- Start without registrations, and let any events happen, with requests that end in any way, any
outages, any days of booking and any transactions that come in. If a registration that is stored by
then has a due date, it is stored with a due date that is not before that one after any further
events, whatever dates the edits come with and whatever statuses the registration goes through. -/
theorem due_date_moves_forward_only {p : Policy} {counts : CountTable} {clock : Clock}
    {earlier : List Event} {id : Int} {a : Attendee} {d : Date}
    (hstored : ((Office.openingWith counts clock).run p earlier).store.attendees.get? id = some a)
    (hdate : a.cachedDueDate = some d) (later : List Event) :
    ∃ b e, (((Office.openingWith counts clock).run p earlier).run p later).store.attendees.get? id =
      some b ∧ b.cachedDueDate = some e ∧ d ≤ e := by
  have hs := Office.wellKept_run (p := p) (Office.wellKept_openingWith counts clock) earlier
  have hdue : d ≤ d := Date.le_iff.mpr (Nat.le_refl _)
  obtain ⟨b, hb, e, he, hle⟩ := Office.dueFrom_run hs ⟨a, hstored, d, hdate, hdue⟩ later
  exact ⟨b, e, hb, he, hle⟩

/-- The first day is paid, so the second one, which was booked in March, is due next. When the
payment is taken back, the first day is due again, but the date stays in March, also when an edit
comes without a due date and the attendee cancels and is let in again. -/
theorem due_date_after_refund :
    let approval := Event.change (.changeStatus clerk 1 (.status .approved) "" "" false)
    let secondDay := { fox with packages := .ofList [("day", 2)] }
    let booked := (Office.openingWith dayCounts newYear).run dayPolicy
      [.register clerk fox, approval, .tick ⟨⟨2024, 3, 1, by decide⟩, newYear.now⟩,
        .change (.update clerk secondDay false), .inject (receipt .payment 10000 0),
        .change (.update clerk secondDay false)]
    let refunded := booked.run dayPolicy [.inject (receipt .payment (-10000) 0)]
    let later := [Event.inject (receipt .payment (-10000) 0),
      .change (.update clerk { secondDay with cachedDueDate := none } false),
      .change (.changeStatus clerk 1 (.status .cancelled) "" "" false), approval]
    (Balances.ofHistory (refunded.ledger.history 1)).dueDate = some ⟨2024, 1, 15, by decide⟩ ∧
      ∃ b e, (booked.run dayPolicy later).store.attendees.get? 1 = some b ∧
        b.cachedDueDate = some e ∧ (⟨2024, 3, 15, by decide⟩ : Date) ≤ e := by
  intro approval secondDay booked refunded later
  have hdate : (booked.store.attendees.get? 1).map (·.cachedDueDate) =
      some (some ⟨2024, 3, 15, by decide⟩) := by decide +kernel
  obtain ⟨a, hstored, ha⟩ := Option.map_eq_some_iff.mp hdate
  exact ⟨by decide +kernel, due_date_moves_forward_only hstored ha later⟩

end Registration
