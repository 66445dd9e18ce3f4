import Registration.Proofs.Office.Run

/-!
# What requests book

Three plans lead to bookings, they are reached from three requests, and a failure can cut them off
after any of them. Still all that a request adds to the ledger are dues of its own attendee, booked
that day (`Office.Gains`), each in the form that every booking has (`Transaction.IsBookedDue`). So
the ledger only grows, and no request changes what anybody has paid (`ledger_grows_by_dues`).
-/

namespace Registration

/-- A due that was booked for a debitor on a day: it counts, is settled internally, moves some cents
in the currency of the event at a rate that is its own key, and is to be paid by some date exactly
if it is owed. -/
structure Transaction.IsBookedDue (p : Policy) (debitor : Int) (today : Calendar.Date)
    (t : Transaction) : Prop where
  debitor : t.debitor = debitor
  due : t.kind = .due
  valid : t.state = .valid
  internal : t.method = .internal
  currency : t.amount.currency = p.currency
  nonzero : t.amount.cents ≠ 0
  key : rateKey t.amount.rate = .ok t.amount.rate
  booked : t.effectiveDate = some today
  owed : 0 < t.amount.cents → ∃ d, p.dueDateFor today = .ok d ∧ t.dueDate = some d
  refunded : t.amount.cents < 0 → t.dueDate = none

section Bookings

variable {p : Policy} {a : Attendee} {info : AdminInfo} {s : Status} {id : Int}
  {comment override : String} {today : Calendar.Date}

theorem Transaction.IsBookedDue.isValidDue {t : Transaction} (h : t.IsBookedDue p id today) :
    t.isValidDue = true := by
  simp [Transaction.isValidDue, h.valid, h.due]

/-- The posting of a booking that is not zero is a due of that day. -/
theorem Booking.isBookedDue_of_posting {b : Booking} {t : Transaction} (hb : b.cents ≠ 0)
    (h : b.posting p id comment today = .ok t) : t.IsBookedDue p id today := by
  obtain ⟨key, hkey, due, hdue, rfl⟩ := Booking.posting_eq_ok_iff.mp h
  unfold Booking.dueDate at hdue
  refine ⟨rfl, rfl, rfl, rfl, rfl, hb, rateKey_rateKey hkey, rfl, fun howed => ?_, fun hback => ?_⟩
  · rw [if_pos howed] at hdue
    obtain ⟨d, hd, hsome⟩ := map_eq_ok_iff.mp hdue
    exact ⟨d, hd, hsome.symm⟩
  · rw [if_neg (not_lt_of_gt hback)] at hdue
    exact (pure_eq_ok_iff.mp hdue).symm

/-- All that is planned are dues of that day. -/
theorem isBookedDue_of_mem_planned {h : List Transaction} {t : Transaction}
    (ht : t ∈ (planned p a info s override today h).transactions) :
    t.IsBookedDue p a.id today := by
  unfold planned at ht
  split at ht
  · cases ht
  · rename_i plan hplan
    obtain ⟨b, hb, hposting⟩ := exists_of_mem_postings ht
    exact Booking.isBookedDue_of_posting (ne_zero_of_mem_bookingPlan hplan b hb) hposting

end Bookings

/-! ## What a request adds -/

/-- The second office has the ledger of the first one with some dues of the attendee added, which
have finite rates if the attendee's transactions have. -/
def Office.Gains (p : Policy) (id : Int) (o o' : Office) : Prop :=
  ∃ ts, o'.ledger = o.ledger.appendAll ts ∧ (∀ t ∈ ts, t.IsBookedDue p id o.clock.today) ∧
    (p.FiniteRates → FiniteRates (o.ledger.history id) → FiniteRates ts)

section Gains

variable {p : Policy} {o o' : Office} {id : Int} {answer : Except Failure Committed}

theorem Office.gains_of_same (h : o'.ledger = o.ledger) : o.Gains p id o' :=
  ⟨[], h, by simp, fun _ _ => by simp [FiniteRates]⟩

/-- What was gained shows at the end of the attendee's history and nowhere else. -/
theorem Office.Gains.history (h : o.Gains p id o') (debitor : Int) :
    ∃ added, o'.ledger.history debitor = o.ledger.history debitor ++ added ∧
      (debitor ≠ id → added = []) ∧
      (∀ t ∈ added, t.IsBookedDue p debitor o.clock.today) ∧
      (p.FiniteRates → FiniteRates (o.ledger.history debitor) → FiniteRates added) := by
  obtain ⟨ts, hledger, hdues, hfinite⟩ := h
  by_cases hid : debitor = id
  · subst hid
    refine ⟨ts, ?_, fun hne => absurd rfl hne, hdues, hfinite⟩
    rw [hledger, Ledger.history_appendAll_self fun t ht => (hdues t ht).debitor]
  · refine ⟨[], ?_, fun _ => rfl, by simp, fun _ _ => by simp [FiniteRates]⟩
    have hnone : (ts.filter fun t => t.debitor = debitor) = [] :=
      List.filter_eq_nil_iff.mpr fun t ht hsame =>
        hid ((of_decide_eq_true hsame).symm.trans (hdues t ht).debitor)
    rw [hledger, Ledger.history_appendAll, hnone]

/-- A commit from an office with the ledger and the clock of the first one. -/
theorem CommitEnd.gains {a : Attendee} {old target : Status} {comment override : String}
    {recorded : Desk Unit} {o₁ : Office}
    (h : CommitEnd p a old target comment override recorded o₁ answer o')
    (hrec : ∀ o, ∃ t, recorded.after o = o.withCounts t) (hledger : o₁.ledger = o.ledger)
    (hclock : o₁.clock = o.clock) (hid : a.id = id) : o.Gains p id o' := by
  subst hid
  obtain ⟨n, hbooked⟩ := h.ledger_eq hrec
  refine ⟨_, hledger ▸ hbooked, fun t ht => ?_, fun hp hh t ht => ?_⟩
  · exact hclock ▸ isBookedDue_of_mem_planned (List.mem_of_mem_take ht)
  · rw [← hledger] at hh
    exact finiteRates_planned hp hh t (List.mem_of_mem_take ht)

theorem UpdateEnd.gains {a : Attendee} (h : UpdateEnd p o a answer o') : o.Gains p a.id o' := by
  cases h with
  | refused _ hkept => exact Office.gains_of_same hkept.ledger
  | unrecorded _ _ _ _ _ => exact Office.gains_of_same rfl
  | committed _ _ _ hcommit => exact hcommit.gains after_pure rfl rfl (Desk.id_editedRecord _ a)

theorem InfoEnd.gains {i : AdminInfo} (h : InfoEnd p o i answer o')
    (hid : ∀ a, o.store.attendees.get? i.attendeeId = some a → a.id = i.attendeeId) :
    o.Gains p i.attendeeId o' := by
  cases h with
  | unknown _ => exact Office.gains_of_same rfl
  | committed hstored hcommit => exact hcommit.gains after_pure rfl rfl (hid _ hstored)

theorem StatusEnd.gains {actor : Actor} {new : Target} {override : String}
    (h : StatusEnd p actor o id new override answer o')
    (hid : ∀ a, o.store.attendees.get? id = some a → a.id = id) : o.Gains p id o' := by
  cases h with
  | refused _ hposted => exact Office.gains_of_same hposted.ledger
  | committed _ hstored _ _ _ _ hposted hcommit =>
    exact hcommit.gains (after_recording _) hposted.ledger hposted.clock (hid _ hstored)

theorem RegisterEnd.ledger {actor : Actor} {a : Attendee} (h : RegisterEnd p actor o a o') :
    o'.ledger = o.ledger := by
  cases h with
  | refused hkept => exact hkept.ledger
  | added _ _ _ => rfl

/-- A change gains dues of its attendee, however it ends. -/
theorem Change.gains (c : Change)
    (hid : ∀ a, o.store.attendees.get? c.attendeeId = some a → a.id = c.attendeeId) :
    o.Gains p c.attendeeId ((c.perform p).after o) := by
  cases c with
  | update actor a suppress => exact (updateEnd p o actor a suppress).gains
  | updateInfo actor i =>
    exact ((Desk.ends_updateInfo hid).mono (fun _ _ h => h.gains hid)
      fun _ _ h => h.gains hid).after_of
  | changeStatus actor id new comment override suppress =>
    exact ((Desk.ends_changeStatus hid).mono (fun _ _ h => h.gains hid)
      fun _ _ h => h.gains hid).after_of

end Gains

/-! ## Every request -/

/-- Take any office whose records stand under their numbers, with any transactions in the ledger and
anything out of order. Registering leaves the ledger. A change, whatever it ends in, leaves the
transactions of every debitor as a first part of those afterwards, of everybody but its attendee as
all of them. What it adds are dues booked that day, at finite rates if there are no others. So what
was paid, what is being paid and whether anything was paid stays for everybody. -/
theorem ledger_grows_by_dues {p : Policy} {o : Office} (hnumbered : o.store.Numbered) :
    (∀ actor a, ((Desk.register p actor a).after o).ledger = o.ledger) ∧
    ∀ (c : Change) (debitor : Int),
      let before := o.ledger.history debitor
      let after := ((c.perform p).after o).ledger.history debitor
      (∃ added, after = before ++ added ∧ (debitor ≠ c.attendeeId → added = []) ∧
        (∀ t ∈ added, t.IsBookedDue p debitor o.clock.today) ∧
        (p.FiniteRates → FiniteRates before → FiniteRates added)) ∧
      paymentsOf after = paymentsOf before ∧ openPaymentsOf after = openPaymentsOf before ∧
      hasValidPayments after = hasValidPayments before := by
  refine ⟨fun actor a => (registerEnd p o actor a).ledger, fun c debitor => ?_⟩
  intro before after
  have hgains : o.Gains p c.attendeeId ((c.perform p).after o) := c.gains (hnumbered _)
  obtain ⟨added, hadded, hothers, hdues, hfinite⟩ := hgains.history debitor
  have hafter : after = before ++ added := hadded
  have hvalid : ∀ t ∈ added, t.isValidDue = true := fun t ht => (hdues t ht).isValidDue
  rw [hafter]
  exact ⟨⟨added, rfl, hothers, hdues, hfinite⟩, paymentsOf_append_dues hvalid before,
    openPaymentsOf_append_dues hvalid before, hasValidPayments_append_dues hvalid before⟩

/-- An approved attendee who has paid a part asks for a second day: one due is added, and the part
paid stays. -/
theorem ledger_grows_by_second_day :
    let o := (Office.openingWith dayCounts newYear).run dayPolicy
      [.register clerk fox, .change (.changeStatus clerk 1 (.status .approved) "" "" false),
        .inject (receipt .payment 4000 0)]
    let c := Change.update (visitor "101") { fox with packages := .ofList [("day", 2)] } false
    let after := ((c.perform dayPolicy).after o).ledger.history 1
    (∃ t, after = o.ledger.history 1 ++ [t] ∧ t.IsBookedDue dayPolicy 1 newYear.today) ∧
      paymentsOf after = 4000 := by
  intro o c after
  have hs : o.store.WellKept := Office.wellKept_run (Office.wellKept_openingWith _ _) _
  obtain ⟨⟨added, hadded, -, hdues, -⟩, hpaid, -⟩ := (ledger_grows_by_dues hs.numbered).2 c 1
  have hafter : after = o.ledger.history 1 ++ added := hadded
  have hlength : after.length = (o.ledger.history 1).length + 1 := by decide +kernel
  rw [hafter, List.length_append, Nat.add_left_cancel_iff] at hlength
  obtain ⟨t, rfl⟩ := List.length_eq_one_iff.mp hlength
  have hbefore : paymentsOf (o.ledger.history 1) = 4000 := by decide +kernel
  have htoday : o.clock.today = newYear.today := by decide +kernel
  exact ⟨⟨t, hadded, htoday ▸ hdues t List.mem_cons_self⟩, hpaid.trans hbefore⟩

end Registration
