import Registration.Proofs.Dues.Plan
import Registration.Proofs.Office.Logic

/-!
# What a reconciliation does

`planned` is a reconciliation seen from its history alone: the transactions that it wants to append,
and the failure that would stop it although the ledger works. A run at the desk appends a first part
of these transactions; it appends them all unless it is cut off (`ends_reconcile`).
-/

namespace Registration

/-- Transactions to be appended in order, and the failure that follows on them. -/
structure Postings where
  transactions : List Transaction
  failure : Option Failure

/-- Work on the postings can be cut off after the first `n` of them: before a failure that follows
on them, or after all of them if none follows. -/
def Postings.CutAt (ps : Postings) (n : ℕ) : Prop :=
  n = 0 ∨ n < ps.transactions.length ∨ n = ps.transactions.length ∧ ps.failure = none

section Postings

/-- What the bookings of a plan add. A booking that cannot be shown in the journal still adds its
transaction. -/
def postings (p : Policy) (id : Int) (comment : String) (today : Calendar.Date) :
    List Booking → Postings
  | [] => ⟨[], none⟩
  | b :: rest =>
    match b.posting p id comment today with
    | .error e => ⟨[], some e⟩
    | .ok t =>
      match p.moneyText b.cents with
      | .error e => ⟨[t], some e⟩
      | .ok _ => ⟨t :: (postings p id comment today rest).transactions,
          (postings p id comment today rest).failure⟩

variable {p : Policy} {id : Int} {comment : String} {today : Calendar.Date}

theorem Booking.posting_eq_ok_iff {b : Booking} {t : Transaction} :
    b.posting p id comment today = .ok t ↔ ∃ key, rateKey b.rate = .ok key ∧
      ∃ due, b.dueDate p today = .ok due ∧
        ⟨id, .due, ⟨p.currency, b.cents, key⟩, .valid, .internal, comment, some today, due,
          none⟩ = t := by
  simp only [Booking.posting, bind_eq_ok_iff, pure_eq_ok_iff]

theorem Booking.exists_posting_iff {b : Booking} :
    (∃ t, b.posting p id comment today = .ok t) ↔
      HasKey b.rate ∧ ∃ due, b.dueDate p today = .ok due := by
  constructor
  · rintro ⟨t, ht⟩
    obtain ⟨key, hkey, due, hdue, -⟩ := Booking.posting_eq_ok_iff.mp ht
    exact ⟨⟨key, hkey⟩, due, hdue⟩
  · rintro ⟨⟨key, hkey⟩, due, hdue⟩
    exact ⟨_, Booking.posting_eq_ok_iff.mpr ⟨key, hkey, due, hdue, rfl⟩⟩

theorem Booking.isPostedAs_of_posting {b : Booking} {t : Transaction}
    (h : b.posting p id comment today = .ok t) : b.IsPostedAs t ∧ t.debitor = id := by
  obtain ⟨key, hkey, due, -, rfl⟩ := Booking.posting_eq_ok_iff.mp h
  exact ⟨⟨rfl, rfl, hkey⟩, rfl⟩

theorem Booking.isUnrepresentable_of_posting {b : Booking} {e : Failure}
    (h : b.posting p id comment today = .error e) : e.isUnrepresentable = true := by
  rcases bind_eq_error_iff.mp h with h | ⟨key, -, h⟩
  · rw [error_of_rateKey h]
    rfl
  rcases bind_eq_error_iff.mp h with h | ⟨due, -, h⟩
  · unfold Booking.dueDate Policy.dueDateFor at h
    split at h
    · cases ht : today.addDays p.dueDays with
      | none =>
        simp only [ht, Functor.map, Except.map, Except.error.injEq] at h
        rw [← h]
        rfl
      | some due => simp [ht, Functor.map, Except.map] at h
    · cases h
  · cases h

theorem isUnrepresentable_of_moneyText {cents : Int} {e : Failure}
    (h : p.moneyText cents = .error e) : e.isUnrepresentable = true := by
  unfold Policy.moneyText at h
  split at h
  · cases h
  · rw [← Except.error.inj h]
    rfl

/-- Postings fail only for numbers and dates. -/
theorem isUnrepresentable_of_postings {plan : List Booking} {e : Failure}
    (h : (postings p id comment today plan).failure = some e) : e.isUnrepresentable = true := by
  induction plan with
  | nil => cases h
  | cons b rest ih =>
    rw [postings] at h
    cases hb : b.posting p id comment today with
    | error f =>
      rw [hb] at h
      exact Option.some.inj h ▸ Booking.isUnrepresentable_of_posting hb
    | ok t =>
      cases hm : p.moneyText b.cents with
      | error f =>
        rw [hb, hm] at h
        exact Option.some.inj h ▸ isUnrepresentable_of_moneyText hm
      | ok m =>
        rw [hb, hm] at h
        exact ih h

/-- A plan whose first booking can be posted adds something. -/
theorem postings_ne_nil {b : Booking} {rest : List Booking} {t : Transaction}
    (h : b.posting p id comment today = .ok t) :
    (postings p id comment today (b :: rest)).transactions ≠ [] := by
  rw [postings, h]
  cases p.moneyText b.cents <;> simp

/-- Whatever is added is the posting of a booking of the plan. -/
theorem exists_of_mem_postings {plan : List Booking} {t : Transaction}
    (h : t ∈ (postings p id comment today plan).transactions) :
    ∃ b ∈ plan, b.posting p id comment today = .ok t := by
  induction plan with
  | nil => cases h
  | cons b rest ih =>
    rw [postings] at h
    cases hb : b.posting p id comment today with
    | error e => simp [hb] at h
    | ok u =>
      rw [hb] at h
      cases hm : p.moneyText b.cents <;> simp only [hm, List.mem_cons] at h
      case error =>
        rcases h with rfl | h
        · exact ⟨b, List.mem_cons_self, hb⟩
        · cases h
      case ok =>
        rcases h with rfl | h
        · exact ⟨b, List.mem_cons_self, hb⟩
        · obtain ⟨c, hc, hposting⟩ := ih h
          exact ⟨c, List.mem_cons_of_mem b hc, hposting⟩

/-- Postings do not fail exactly if every booking can be posted and shown. -/
theorem complete_postings_iff {plan : List Booking} :
    (postings p id comment today plan).failure = none ↔
      ∀ b ∈ plan, (∃ t, b.posting p id comment today = .ok t) ∧
        ∃ m, p.moneyText b.cents = .ok m := by
  induction plan with
  | nil => exact ⟨fun _ => List.forall_mem_nil _, fun _ => rfl⟩
  | cons b rest ih =>
    rw [List.forall_mem_cons, ← ih, postings]
    cases hb : b.posting p id comment today with
    | error e => simp
    | ok t =>
      cases hm : p.moneyText b.cents with
      | error e => simp
      | ok m => simp

/-- Without a failure every booking is posted. -/
theorem forall₂_postings {plan : List Booking}
    (h : (postings p id comment today plan).failure = none) :
    List.Forall₂ Booking.IsPostedAs plan (postings p id comment today plan).transactions := by
  induction plan with
  | nil => exact .nil
  | cons b rest ih =>
    unfold postings at h ⊢
    cases hb : b.posting p id comment today with
    | error e => simp [hb] at h
    | ok t =>
      rw [hb] at h
      cases hm : p.moneyText b.cents with
      | error e => simp [hm] at h
      | ok m =>
        simp only [hm] at h ⊢
        exact .cons (Booking.isPostedAs_of_posting hb).1 (ih h)

theorem forall₂_of_postings {plan : List Booking} {ts : List Transaction}
    (h : postings p id comment today plan = ⟨ts, none⟩) :
    List.Forall₂ Booking.IsPostedAs plan ts := by
  have hposted := forall₂_postings (congrArg Postings.failure h)
  rwa [h] at hposted

/-- What is added up to a failure is posted for the first bookings. -/
theorem forall₂_take_postings (plan : List Booking) (n : ℕ) :
    let ts := (postings p id comment today plan).transactions.take n
    List.Forall₂ Booking.IsPostedAs (plan.take ts.length) ts := by
  induction plan generalizing n with
  | nil => simp [postings]
  | cons b rest ih =>
    cases n with
    | zero => simp
    | succ n =>
      rw [postings]
      cases hb : b.posting p id comment today with
      | error e => simp
      | ok t =>
        have hposted := (Booking.isPostedAs_of_posting hb).1
        cases hm : p.moneyText b.cents with
        | error e => simpa using hposted
        | ok m => exact .cons hposted (ih n)

/-- A first part of the postings comes from a first part of the plan; the other part is what the
rest of the plan adds. -/
theorem postings_split {plan : List Booking} {n : ℕ}
    (hn : (postings p id comment today plan).CutAt n) :
    ∃ bs rest, plan = bs ++ rest ∧
      List.Forall₂ Booking.IsPostedAs bs
        ((postings p id comment today plan).transactions.take n) ∧
      postings p id comment today rest =
        ⟨(postings p id comment today plan).transactions.drop n,
          (postings p id comment today plan).failure⟩ := by
  induction plan generalizing n with
  | nil => exact ⟨[], [], rfl, by simp [postings], by simp [postings]⟩
  | cons b rest ih =>
    cases n with
    | zero => exact ⟨[], b :: rest, rfl, .nil, rfl⟩
    | succ n =>
      unfold Postings.CutAt at hn ih
      rw [postings] at hn ⊢
      cases hb : b.posting p id comment today with
      | error e => simp [hb] at hn
      | ok t =>
        cases hm : p.moneyText b.cents with
        | error e => simp [hb, hm] at hn
        | ok m =>
          simp only [hb, hm, List.length_cons, Nat.add_lt_add_iff_right,
            Nat.add_right_cancel_iff, Nat.add_eq_zero_iff, one_ne_zero, and_false,
            false_or] at hn
          obtain ⟨bs, tail, hplan, hposted, htail⟩ := ih (.inr hn)
          exact ⟨b :: bs, tail, by rw [hplan, List.cons_append],
            .cons (Booking.isPostedAs_of_posting hb).1 hposted, htail⟩

end Postings

/-! ## Booking at the desk -/

namespace Desk

variable {p : Policy} {id : Int} {comment : String} {today : Calendar.Date} {o : Office}

theorem ends_warnIgnored {codes : List String} {E : Failure → Office → Prop} :
    (warnIgnored id codes).Ends o (fun _ o' => o.Posted [] o') E := by
  induction codes generalizing o with
  | nil => exact ends_pure (.refl o)
  | cons code rest ih =>
    refine ends_bind (ends_note (ih.mono (fun _ o' h => ?_) fun _ _ h => h))
    exact ((Office.Posted.refl o).noted _).trans h

/-- A booking adds its posting; it fails by itself or is cut off. -/
theorem ends_book {b : Booking} :
    (book p id comment today b).Ends o
      (fun _ o' => ∃ t m, b.posting p id comment today = .ok t ∧ p.moneyText b.cents = .ok m ∧
        o.Posted [t] o')
      fun e o' =>
        (b.posting p id comment today = .error e ∧ o.Posted [] o') ∨
        ∃ t, b.posting p id comment today = .ok t ∧
          (p.moneyText b.cents = .error e ∧ o.Posted [t] o' ∨ o.Cut e ∧ o.Posted [] o') := by
  refine ends_bind (ends_require (fun t ht => ?_) fun e he => .inl ⟨he, .refl o⟩)
  refine ends_bind (ends_appendTransaction.mono (fun _ o' hp => ?_) fun e o' h => ?_)
  · refine ends_bind (ends_require (fun m hm => ?_) fun e he => .inr ⟨t, ht, .inl ⟨he, hp⟩⟩)
    exact ends_note ⟨t, m, ht, hm, hp.noted _⟩
  · exact .inr ⟨t, ht, .inr h⟩

/-- Booking a plan adds its postings; cut off, it has added a first part of them. -/
theorem ends_bookAll {plan : List Booking} :
    (bookAll p id comment today plan).Ends o
      (fun _ o' => (postings p id comment today plan).failure = none ∧
        o.Posted (postings p id comment today plan).transactions o')
      fun e o' =>
        ((postings p id comment today plan).failure = some e ∧
          o.Posted (postings p id comment today plan).transactions o') ∨
        o.Cut e ∧ ∃ n < (postings p id comment today plan).transactions.length,
          o.Posted ((postings p id comment today plan).transactions.take n) o' := by
  induction plan generalizing o with
  | nil => exact ends_pure ⟨rfl, .refl o⟩
  | cons b rest ih =>
    refine ends_bind (ends_book.mono (fun _ o₁ h => ?_) fun e o₁ h => ?_)
    · obtain ⟨t, m, ht, hm, hp⟩ := h
      simp only [postings, ht, hm]
      refine ih.mono (fun _ o' h => ⟨h.1, hp.trans h.2⟩) fun e o' h => ?_
      rcases h with ⟨hf, hq⟩ | ⟨hcut, n, hn, hq⟩
      · exact .inl ⟨hf, hp.trans hq⟩
      · exact .inr ⟨hcut.of_posted hp, n + 1, Nat.succ_lt_succ hn, hp.trans hq⟩
    · rcases h with ⟨he, hp⟩ | ⟨t, ht, ⟨hm, hp⟩ | ⟨hcut, hp⟩⟩
      · simp only [postings, he]
        exact .inl ⟨trivial, hp⟩
      · simp only [postings, ht, hm]
        exact .inl ⟨trivial, hp⟩
      · refine .inr ⟨hcut, 0, ?_, hp⟩
        cases hm : p.moneyText b.cents <;> simp [postings, ht, hm]

end Desk

/-! ## Reconciling at the desk -/

/-- What a desired status comes to, given the history that shows it. -/
def concluded (p : Policy) (a : Attendee) (s : Status) (history : List Transaction)
    (booked : Nat) : Reconciled :=
  let balances := Balances.ofHistory history
  let refreshed := a.refresh balances s
  ⟨refreshed, balances.resultingStatus p.graceCents s, refreshed != a, balances, booked⟩

/-- What a reconciliation wants to append to a history. -/
def planned (p : Policy) (a : Attendee) (info : AdminInfo) (s : Status) (override : String)
    (today : Calendar.Date) (history : List Transaction) : Postings :=
  match bookingPlan p a info s history with
  | .error e => ⟨[], some e⟩
  | .ok plan => postings p a.id (bookingComment s override) today plan

section Concluded

variable (p : Policy) (a : Attendee) (s : Status) (h : List Transaction) (n : ℕ)

theorem id_concluded : (concluded p a s h n).attendee.id = a.id := rfl

variable {p a s h n}

/-- What was concluded as unchanged is the record itself. -/
theorem attendee_of_not_changed (hc : (concluded p a s h n).changed = false) :
    (concluded p a s h n).attendee = a := by
  simpa [concluded] using hc

end Concluded

variable {p : Policy} {a : Attendee} {info : AdminInfo} {s : Status} {override : String}
  {today : Calendar.Date}

theorem debitor_of_mem_planned {h : List Transaction} {t : Transaction}
    (ht : t ∈ (planned p a info s override today h).transactions) : t.debitor = a.id := by
  unfold planned at ht
  split at ht
  · cases ht
  · obtain ⟨b, -, hposting⟩ := exists_of_mem_postings ht
    exact (Booking.isPostedAs_of_posting hposting).2

theorem isValidDue_of_mem_planned {h : List Transaction} {t : Transaction}
    (ht : t ∈ (planned p a info s override today h).transactions) : t.isValidDue = true := by
  unfold planned at ht
  split at ht
  · cases ht
  · obtain ⟨b, -, hposting⟩ := exists_of_mem_postings ht
    exact (Booking.isPostedAs_of_posting hposting).1.due

variable (p a info s override today) in
/-- What is planned are dues, so payments stay as they are. -/
theorem paymentsOf_planned (h : List Transaction) :
    paymentsOf (h ++ (planned p a info s override today h).transactions) = paymentsOf h :=
  paymentsOf_append_dues (fun _ => isValidDue_of_mem_planned) h

/-- A reconciliation fails by itself only for numbers and dates. -/
theorem isUnrepresentable_of_planned {h : List Transaction} {e : Failure}
    (he : (planned p a info s override today h).failure = some e) : e.isUnrepresentable = true := by
  unfold planned at he
  split at he
  · rename_i f hplan
    rw [← Option.some.inj he, error_of_bookingPlan hplan]
    rfl
  · exact isUnrepresentable_of_postings he

theorem finiteRates_planned (hp : p.FiniteRates) {h : List Transaction} (hh : FiniteRates h) :
    FiniteRates (planned p a info s override today h).transactions := by
  intro t ht
  unfold planned at ht
  split at ht
  · cases ht
  · rename_i plan hplan
    obtain ⟨b, hb, hposting⟩ := exists_of_mem_postings ht
    have hrate : b.rate.isFinite = true := isFinite_of_mem_bookingPlan hp hh hplan b hb
    exact (isRateKey_of_rateKey hrate (Booking.isPostedAs_of_posting hposting).1.key).1

/-- A first part of what is planned leaves the rest to be planned. -/
theorem planned_append (hp : p.FiniteRates) {h : List Transaction} (hh : Resumable s h) {n : ℕ}
    (hn : (planned p a info s override today h).CutAt n) :
    planned p a info s override today
        (h ++ (planned p a info s override today h).transactions.take n) =
      ⟨(planned p a info s override today h).transactions.drop n,
        (planned p a info s override today h).failure⟩ := by
  cases hplan : bookingPlan p a info s h with
  | error e => simp [planned, hplan]
  | ok plan =>
    have hps : planned p a info s override today h =
        postings p a.id (bookingComment s override) today plan := by rw [planned, hplan]
    rw [hps] at hn ⊢
    obtain ⟨bs, rest, rfl, hposted, hrest⟩ := postings_split hn
    obtain ⟨-, hplan'⟩ := bookingPlan_append hp hposted hh hplan
    rw [planned, hplan']
    exact hrest

namespace Desk

variable {o : Office}

theorem ends_conclude {h : List Transaction} {booked : Nat} {E : Failure → Office → Prop} :
    (conclude p a s h booked).Ends o
      (fun r o' => r = concluded p a s h booked ∧ o.Posted [] o') E := by
  unfold conclude
  dsimp only
  split
  · exact ends_bind (ends_note (ends_pure ⟨rfl, (Office.Posted.refl o).noted _⟩))
  · exact ends_pure ⟨rfl, .refl o⟩

variable (p a info s override today o) in
/-- A reconciliation appends what is planned and concludes from the history it has made. Cut off, it
has appended a first part of what is planned. -/
theorem ends_reconcile :
    (reconcile p a info s override today).Ends o
      (fun r o' =>
        let ps := planned p a info s override today (o.ledger.history a.id)
        ps.failure = none ∧ o.Posted ps.transactions o' ∧
          r = concluded p a s (o'.ledger.history a.id) ps.transactions.length)
      fun e o' =>
        let ps := planned p a info s override today (o.ledger.history a.id)
        (ps.failure = some e ∧ o.Posted ps.transactions o') ∨
        o.Cut e ∧ ∃ n, ps.CutAt n ∧ o.Posted (ps.transactions.take n) o' := by
  unfold reconcile
  refine ends_bind (ends_transactionHistory.mono (fun h o₁ hh => ?_)
    fun e o₁ he => .inr ⟨he.1, 0, .inl rfl, he.2⟩)
  obtain ⟨rfl, hp₁⟩ := hh
  refine ends_bind (ends_warnIgnored.mono (fun _ o₂ hp₂ => ?_) fun e o₂ he => he)
  have hp := hp₁.then_quiet hp₂
  refine ends_bind (ends_require (fun plan hplan => ?_) fun e he => ?_)
  swap
  · -- there is no plan
    simp only [planned, he]
    exact .inl ⟨trivial, hp⟩
  simp only [planned, hplan]
  set ps := postings p a.id (bookingComment s override) today plan
  refine ends_bind (ends_bookAll.mono (fun _ o₃ h => ?_) fun e o₃ h => ?_)
  · obtain ⟨hnone, hp₃⟩ := h
    have hposted : o.Posted ps.transactions o₃ := hp.trans hp₃
    have hlength : plan.length = ps.transactions.length := (forall₂_postings hnone).length_eq
    split
    · -- without bookings the history read before is that of now
      rename_i hempty
      have hsame : o₃.ledger.history a.id = o.ledger.history a.id := by
        have hzero : ps.transactions = [] :=
          List.length_eq_zero_iff.mp (hlength ▸ by simpa using hempty)
        rw [hposted.ledger, hzero, Ledger.appendAll_nil]
      refine ends_bind (ends_pure (ends_conclude.mono (fun r o' hr => ?_) fun _ _ he => he))
      refine ⟨hnone, hposted.then_quiet hr.2, ?_⟩
      rw [hr.1, hr.2.ledger, Ledger.appendAll_nil, hsame, hlength]
    · refine ends_bind (ends_transactionHistory.mono (fun h o₄ hh => ?_) fun e o₄ he => ?_)
      · obtain ⟨rfl, hp₄⟩ := hh
        refine ends_conclude.mono (fun r o' hr => ?_) fun _ _ he => he
        refine ⟨hnone, (hposted.then_quiet hp₄).then_quiet hr.2, ?_⟩
        rw [hr.1, hr.2.ledger, hp₄.ledger, Ledger.appendAll_nil, Ledger.appendAll_nil, hlength]
      · -- cut off after all bookings, before the history is read again
        refine .inr ⟨he.1.of_posted hposted, ps.transactions.length, .inr (.inr ⟨rfl, hnone⟩), ?_⟩
        rw [List.take_length]
        exact hposted.then_quiet he.2
  · rcases h with ⟨hfail, hp₃⟩ | ⟨hcut, n, hn, hp₃⟩
    · exact .inl ⟨hfail, hp.trans hp₃⟩
    · exact .inr ⟨hcut.of_posted hp, n, .inr (.inl hn), hp.trans hp₃⟩

variable (p a info s override today o) in
/-- However a reconciliation ends, it has appended a first part of what it planned. -/
theorem exists_posted_reconcile :
    ∃ n, o.Posted ((planned p a info s override today (o.ledger.history a.id)).transactions.take n)
      ((reconcile p a info s override today).after o) := by
  set ps := planned p a info s override today (o.ledger.history a.id)
  refine Ends.after_of (P := fun o' => ∃ n, o.Posted (ps.transactions.take n) o')
    ((ends_reconcile p a info s override today o).mono (fun r o' h => ?_) fun e o' h => ?_)
  · obtain ⟨-, hposted, -⟩ := h
    exact ⟨ps.transactions.length, by rwa [List.take_length]⟩
  · rcases h with ⟨-, hposted⟩ | ⟨-, n, -, hposted⟩
    · exact ⟨ps.transactions.length, by rwa [List.take_length]⟩
    · exact ⟨n, hposted⟩

/-- A reconciliation that ends normally has posted its whole plan. -/
theorem posted_of_reconciled {r : Reconciled}
    (hdone : (reconcile p a info s override today).answer o = .ok r) :
    ∃ plan ts, bookingPlan p a info s (o.ledger.history a.id) = .ok plan ∧
      postings p a.id (bookingComment s override) today plan = ⟨ts, none⟩ ∧
      o.Posted ts ((reconcile p a info s override today).after o) ∧
      ((reconcile p a info s override today).after o).ledger.history a.id =
        o.ledger.history a.id ++ ts ∧
      r = concluded p a s (o.ledger.history a.id ++ ts) ts.length := by
  obtain ⟨hcomplete, hposted, hr⟩ := (ends_reconcile p a info s override today o).of_ok hdone
  have hhist : ((reconcile p a info s override today).after o).ledger.history a.id =
      o.ledger.history a.id ++
        (planned p a info s override today (o.ledger.history a.id)).transactions := by
    rw [hposted.ledger, Ledger.history_appendAll_self fun t => debitor_of_mem_planned]
  cases hplan : bookingPlan p a info s (o.ledger.history a.id) with
  | error e =>
    rw [planned, hplan] at hcomplete
    cases hcomplete
  | ok plan =>
    have hps : planned p a info s override today (o.ledger.history a.id) =
        postings p a.id (bookingComment s override) today plan := by rw [planned, hplan]
    refine ⟨plan, _, rfl, ?_, hposted, hhist, hhist ▸ hr⟩
    rw [← hps, ← hcomplete]

end Desk

end Registration
