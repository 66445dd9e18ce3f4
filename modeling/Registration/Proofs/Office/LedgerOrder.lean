import Registration.Proofs.Dues.Order
import Registration.Proofs.Office.Run

/-!
# The order of the ledger

`x.Alike y o₁ o₂` says that the work `x` from one office and the work `y` from another come to the
same answer or the same failure, and append the same transactions. Reconciling reads the ledger only
through sums and through the valid dues in order, so two offices in which an account has the same
transactions, and its dues in the same order, reconcile it alike (`Desk.alike_reconcile`). If the
dues come in another order, the figures and the buckets are still the same
(`only_order_of_dues_matters`).
-/

namespace Registration

/-- Two offices have come to two others by the same transactions, and the same is out of order in
them. -/
structure Office.GrownAlike (o₁ o₂ o₁' o₂' : Office) : Prop where
  outages : o₂'.outages = o₁'.outages
  posted : ∃ ts, o₁'.ledger = o₁.ledger.appendAll ts ∧ o₂'.ledger = o₂.ledger.appendAll ts

namespace Office.GrownAlike

variable {o₁ o₂ o₁' o₂' o₁'' o₂'' : Office}

/-- Where nothing was appended. -/
theorem of_same (houtages : o₂'.outages = o₁'.outages) (h₁ : o₁'.ledger = o₁.ledger)
    (h₂ : o₂'.ledger = o₂.ledger) : GrownAlike o₁ o₂ o₁' o₂' :=
  ⟨houtages, [], h₁, h₂⟩

theorem trans (h : GrownAlike o₁ o₂ o₁' o₂') (k : GrownAlike o₁' o₂' o₁'' o₂'') :
    GrownAlike o₁ o₂ o₁'' o₂'' := by
  obtain ⟨ts, h₁, h₂⟩ := h.posted
  obtain ⟨us, k₁, k₂⟩ := k.posted
  refine ⟨k.outages, ts ++ us, ?_, ?_⟩
  · rw [k₁, h₁, Ledger.appendAll_append]
  · rw [k₂, h₂, Ledger.appendAll_append]

/-- What is appended to both keeps an account reordered. -/
theorem reordered (h : GrownAlike o₁ o₂ o₁' o₂') {id : Int}
    (hid : Reordered (o₁.ledger.history id) (o₂.ledger.history id)) :
    Reordered (o₁'.ledger.history id) (o₂'.ledger.history id) := by
  obtain ⟨ts, h₁, h₂⟩ := h.posted
  rw [h₁, h₂, Ledger.history_appendAll, Ledger.history_appendAll]
  exact hid.append _

end Office.GrownAlike

namespace Desk

variable {α β : Type}

/-- Both works come to the same answer or failure, and append the same transactions. -/
structure Alike (x y : Desk α) (o₁ o₂ : Office) : Prop where
  answer : y.answer o₂ = x.answer o₁
  grown : Office.GrownAlike o₁ o₂ (x.after o₁) (y.after o₂)

/-! ## Rules -/

section Rules

variable {x y : Desk α} {f g : α → Desk β} {o₁ o₂ : Office}

theorem alike_bind (h : x.Alike y o₁ o₂)
    (hf : ∀ a o₁' o₂', Office.GrownAlike o₁ o₂ o₁' o₂' → (f a).Alike (g a) o₁' o₂') :
    (x >>= f).Alike (y >>= g) o₁ o₂ := by
  cases hx : x.answer o₁ with
  | error e =>
    obtain ⟨hanswer₁, hafter₁⟩ := bind_of_error hx f
    obtain ⟨hanswer₂, hafter₂⟩ := bind_of_error (h.answer.trans hx) g
    exact ⟨hanswer₂.trans hanswer₁.symm, by rw [hafter₁, hafter₂]; exact h.grown⟩
  | ok a =>
    obtain ⟨hanswer₁, hafter₁⟩ := bind_of_ok hx f
    obtain ⟨hanswer₂, hafter₂⟩ := bind_of_ok (h.answer.trans hx) g
    have hnext := hf a _ _ h.grown
    refine ⟨?_, ?_⟩
    · rw [hanswer₂, hnext.answer, hanswer₁]
    · rw [hafter₁, hafter₂]
      exact h.grown.trans hnext.grown

theorem alike_get {f g : Office → Desk β} (h : (f o₁).Alike (g o₂) o₁ o₂) :
    (get >>= f).Alike (get >>= g) o₁ o₂ := ⟨h.answer, h.grown⟩

theorem alike_set {f g : PUnit → Desk β} {o₁' o₂' : Office}
    (h : Office.GrownAlike o₁ o₂ o₁' o₂') (hf : (f ⟨⟩).Alike (g ⟨⟩) o₁' o₂') :
    (set o₁' >>= f).Alike (set o₂' >>= g) o₁ o₂ := ⟨hf.answer, h.trans hf.grown⟩

variable (houtages : o₂.outages = o₁.outages)
include houtages

theorem alike_pure (a : α) : (pure a : Desk α).Alike (pure a) o₁ o₂ :=
  ⟨rfl, .of_same houtages rfl rfl⟩

theorem alike_throw (e : Failure) : (throw e : Desk α).Alike (throw e) o₁ o₂ :=
  ⟨rfl, .of_same houtages rfl rfl⟩

theorem alike_note (level : Level) (text : String) :
    (note level text).Alike (note level text) o₁ o₂ :=
  ⟨rfl, .of_same houtages rfl rfl⟩

/-- What comes after an answer starts from the same offices. -/
theorem alike_require {v : Except Failure α} (hf : ∀ a, (f a).Alike (g a) o₁ o₂) :
    (require v >>= f).Alike (require v >>= g) o₁ o₂ := by
  cases v with
  | ok a => exact ⟨(hf a).answer, (hf a).grown⟩
  | error e => exact ⟨rfl, .of_same houtages rfl rfl⟩

end Rules

/-! ## The ledger -/

section Ledgers

variable {o₁ o₂ : Office} (houtages : o₂.outages = o₁.outages)
include houtages

/-- Listing an account from two ledgers, and going on with what each of them shows. -/
theorem alike_history {f g : List Transaction → Desk β} {id : Int}
    (hf : ∀ o₁' o₂', o₂'.outages = o₁'.outages → o₁'.ledger = o₁.ledger → o₂'.ledger = o₂.ledger →
      (f (o₁.ledger.history id)).Alike (g (o₂.ledger.history id)) o₁' o₂') :
    (transactionHistory id >>= f).Alike (transactionHistory id >>= g) o₁ o₂ := by
  simp only [transactionHistory, listing, takeListing, bind_assoc]
  refine alike_get ?_
  rw [houtages]
  refine alike_require houtages fun left => alike_set (.of_same rfl rfl rfl) (alike_get ?_)
  cases o₁.outages.listing with
  | some detail => exact ⟨rfl, .of_same rfl rfl rfl⟩
  | none =>
    simp only [pure_bind]
    exact hf _ _ rfl rfl rfl

theorem alike_appendTransaction (t : Transaction) :
    (appendTransaction t).Alike (appendTransaction t) o₁ o₂ := by
  simp only [appendTransaction, takeAppend, bind_assoc]
  refine alike_get ?_
  rw [houtages]
  refine alike_require houtages fun left => alike_set (.of_same rfl rfl rfl) (alike_get ?_)
  cases o₁.outages.appending with
  | some detail => exact alike_throw (by rfl) _
  | none => exact alike_set ⟨rfl, [t], rfl, rfl⟩ (alike_note (by rfl) _ _)

variable (p : Policy) (id : Int) (comment : String) (today : Calendar.Date)

theorem alike_bookAll (plan : List Booking) :
    (bookAll p id comment today plan).Alike (bookAll p id comment today plan) o₁ o₂ := by
  induction plan generalizing o₁ o₂ with
  | nil => exact alike_pure houtages ()
  | cons b rest ih =>
    have hbook : (book p id comment today b).Alike (book p id comment today b) o₁ o₂ :=
      alike_require houtages fun t =>
        alike_bind (alike_appendTransaction houtages t) fun _ _ _ h =>
          alike_require h.outages fun _ => alike_note h.outages _ _
    exact alike_bind hbook fun _ _ _ h => ih h.outages

theorem alike_warnIgnored (codes : List String) :
    (warnIgnored id codes).Alike (warnIgnored id codes) o₁ o₂ := by
  induction codes generalizing o₁ o₂ with
  | nil => exact alike_pure houtages ()
  | cons code rest ih => exact alike_bind (alike_note houtages _ _) fun _ _ _ h => ih h.outages

end Ledgers

/-! ## Reconciling -/

section Reconciling

variable {p : Policy} {a : Attendee} {info : AdminInfo} {s : Status} {override : String}
  {today : Calendar.Date} {o₁ o₂ : Office} {h k : List Transaction}

theorem bookingPlan_of_reordered (hk : Reordered h k) :
    bookingPlan p a info s k = bookingPlan p a info s h := by
  unfold bookingPlan
  rw [hk.buckets, hk.cancellation]

theorem planWarnings_of_reordered (hk : Reordered h k) :
    planWarnings p a info s k = planWarnings p a info s h := by
  unfold planWarnings
  rw [hk.buckets]

theorem alike_conclude (houtages : o₂.outages = o₁.outages) (hk : Reordered h k) (n : ℕ) :
    (conclude p a s h n).Alike (conclude p a s k n) o₁ o₂ := by
  unfold conclude
  rw [hk.balances]
  dsimp only
  split
  · exact alike_bind (alike_note houtages _ _) fun _ _ _ h => alike_pure h.outages _
  · exact alike_pure houtages _

variable (p a info s override today) in
/-- Offices in which the account of an attendee is reordered reconcile it alike. -/
theorem alike_reconcile (houtages : o₂.outages = o₁.outages)
    (hid : Reordered (o₁.ledger.history a.id) (o₂.ledger.history a.id)) :
    (reconcile p a info s override today).Alike (reconcile p a info s override today) o₁ o₂ := by
  refine alike_history houtages fun o₁' o₂' h h₁ h₂ => ?_
  rw [planWarnings_of_reordered hid, bookingPlan_of_reordered hid]
  refine alike_bind (alike_warnIgnored h _ _) fun _ o₃ o₃' h₃ => ?_
  refine alike_require h₃.outages fun plan => ?_
  refine alike_bind (alike_bookAll h₃.outages _ _ _ _ plan) fun _ o₄ o₄' h₄ => ?_
  split
  · -- nothing was booked, and the first listing stands
    rw [pure_bind, pure_bind]
    exact alike_conclude h₄.outages hid _
  · -- the second listing shows both histories with the same bookings after them
    have hgrown : Office.GrownAlike o₁ o₂ o₄ o₄' :=
      (Office.GrownAlike.of_same h h₁ h₂).trans (h₃.trans h₄)
    exact alike_history h₄.outages fun _ _ h _ _ => alike_conclude h (hgrown.reordered hid) _

end Reconciling

end Desk

/-- Let two histories have the same transactions in some order. If their valid dues come in the same
order, both have the same balances with their due date, and offices in which an account has the one
and the other reconcile it to any status alike: they append the same transactions in the same order
and come to the same answer. In any order, the sums, the refunds, the presence of payments and every
bucket are the same, and the buckets add up to the dues. -/
theorem only_order_of_dues_matters {h k : List Transaction} (hperm : k.Perm h) :
    let b := Balances.ofHistory h
    let b' := Balances.ofHistory k
    (validDues k = validDues h →
      b' = b ∧
      ∀ (p : Policy) (a : Attendee) (info : AdminInfo) (target : Status) (comment : String)
        (today : Calendar.Date) (o₁ o₂ : Office), o₂.outages = o₁.outages →
        o₁.ledger.history a.id = h → o₂.ledger.history a.id = k →
        let work := Desk.reconcile p a info target comment today
        work.answer o₂ = work.answer o₁ ∧
        ∃ ts, (work.after o₁).ledger = o₁.ledger.appendAll ts ∧
          (work.after o₂).ledger = o₂.ledger.appendAll ts) ∧
    (b'.dues = b.dues ∧ b'.payments = b.payments ∧ b'.openPayments = b.openPayments ∧
      refundsOf k = refundsOf h ∧ hasValidPayments k = hasValidPayments h) ∧
    (∀ e, Buckets.ofHistory h = .error e → Buckets.ofHistory k = .error e) ∧
    ∀ B, Buckets.ofHistory h = .ok B → B.total = b.dues ∧
      ∃ C, Buckets.ofHistory k = .ok C ∧ C.total = b'.dues ∧
        ∀ key, C.hasKey key = B.hasKey key ∧ C.cents key = B.cents key := by
  intro b b'
  obtain ⟨hfails, hbuckets⟩ := Buckets.buckets_of_perm hperm
  refine ⟨fun hdues => ?_, ⟨duesOf_of_perm hperm, paymentsOf_of_perm hperm,
    openPaymentsOf_of_perm hperm, refundsOf_of_perm hperm, hasValidPayments_of_perm hperm⟩,
    hfails, fun B hB => ?_⟩
  · have hk : Reordered h k := ⟨hperm, hdues⟩
    refine ⟨hk.balances, fun p a info target comment today o₁ o₂ houtages h₁ h₂ => ?_⟩
    subst h₁ h₂
    have halike := Desk.alike_reconcile p a info target comment today houtages hk
    exact ⟨halike.answer, halike.grown.posted⟩
  · obtain ⟨C, hC, hsame⟩ := hbuckets B hB
    exact ⟨Buckets.total_ofHistory hB, C, hC, Buckets.total_ofHistory hC, hsame⟩

/-- An office with the transactions of some accounts in the ledger. -/
def officeWith (entries : List Transaction) : Office :=
  { Office.opening newYear with ledger := entries.foldl Ledger.inject .empty }

/-- Two dues and two payments that cover one of them; the payments come after the dues, or between
them and before. A cancellation voids the second due in both. -/
theorem second_due_voided_in_both :
    let h := [receipt .due 10000 19, receipt .due 5000 7, receipt .payment 4000 19,
      receipt .payment 6000 19]
    let k := [receipt .payment 6000 19, receipt .due 10000 19, receipt .payment 4000 19,
      receipt .due 5000 7]
    let work := Desk.reconcile dayPolicy fox (.blank 1) .cancelled "" newYear.today
    k.Perm h ∧ validDues k = validDues h ∧
      work.answer (officeWith k) = work.answer (officeWith h) ∧
      ((work.after (officeWith h)).ledger.history 1).map (·.amount.cents) =
        [10000, 5000, 4000, 6000, -5000] ∧
      ((work.after (officeWith k)).ledger.history 1).map (·.amount.cents) =
        [6000, 10000, 4000, 5000, -5000] := by
  intro h k work
  have hperm : k.Perm h := by decide +kernel
  have hdues : validDues k = validDues h := by decide +kernel
  have hh : (officeWith h).ledger.history fox.id = h := by decide +kernel
  have hk : (officeWith k).ledger.history fox.id = k := by decide +kernel
  obtain ⟨hanswer, -⟩ := ((only_order_of_dues_matters hperm).1 hdues).2 dayPolicy fox (.blank 1)
    .cancelled "" newYear.today (officeWith h) (officeWith k) rfl hh hk
  exact ⟨hperm, hdues, hanswer, by decide +kernel, by decide +kernel⟩

end Registration
