import Registration.Office.Reconciliation

/-!
# Reasoning about desk work

`x.Ends o Q E` says that the work `x`, begun in the office `o`, ends in an answer and an office of
which `Q` holds, or in a failure and an office of which `E` holds. There is a rule for each way of
putting work together. Work on the ledger is described by `Office.Posted`: the ledger has grown by
some transactions, and the records, the clock and the mails are what they were.
-/

namespace Registration

namespace Desk

variable {α β : Type}

/-- The work `x` from `o` gives an answer as `Q` says or fails as `E` says. -/
def Ends (x : Desk α) (o : Office) (Q : α → Office → Prop) (E : Failure → Office → Prop) : Prop :=
  match x.run o with
  | .ok a o' => Q a o'
  | .error e o' => E e o'

/-- The office that the work leaves behind. -/
def after (x : Desk α) (o : Office) : Office :=
  match x.run o with
  | .ok _ o' => o'
  | .error _ o' => o'

/-- The answer of the work or its failure. -/
def answer (x : Desk α) (o : Office) : Except Failure α :=
  match x.run o with
  | .ok a _ => .ok a
  | .error e _ => .error e

theorem ends_iff {x : Desk α} {o : Office} {Q : α → Office → Prop} {E : Failure → Office → Prop} :
    x.Ends o Q E ↔
      (∀ a, x.answer o = .ok a → Q a (x.after o)) ∧
        ∀ e, x.answer o = .error e → E e (x.after o) := by
  unfold Ends answer after
  cases x.run o <;> simp

theorem Ends.of_ok {x : Desk α} {o : Office} {Q : α → Office → Prop}
    {E : Failure → Office → Prop} (h : x.Ends o Q E) {a : α} (hr : x.answer o = .ok a) :
    Q a (x.after o) := (ends_iff.mp h).1 a hr

theorem Ends.of_error {x : Desk α} {o : Office} {Q : α → Office → Prop}
    {E : Failure → Office → Prop} (h : x.Ends o Q E) {e : Failure} (hr : x.answer o = .error e) :
    E e (x.after o) := (ends_iff.mp h).2 e hr

/-- How work ends, if one relation says it for answers and failures. -/
theorem Ends.answer_after {x : Desk α} {o : Office} {R : Except Failure α → Office → Prop}
    (h : x.Ends o (fun a o' => R (.ok a) o') fun e o' => R (.error e) o') :
    R (x.answer o) (x.after o) := by
  unfold Ends at h
  unfold answer after
  cases hx : x.run o <;> rw [hx] at h <;> exact h

theorem Ends.after_of {x : Desk α} {o : Office} {P : Office → Prop}
    (h : x.Ends o (fun _ o' => P o') fun _ o' => P o') : P (x.after o) :=
  Ends.answer_after (R := fun _ o' => P o') h

/-- Work that cannot fail gives an answer. -/
theorem Ends.exists_answer {x : Desk α} {o : Office} {Q : α → Office → Prop}
    (h : x.Ends o Q fun _ _ => False) : ∃ a, x.answer o = .ok a ∧ Q a (x.after o) := by
  cases hr : x.answer o with
  | ok a => exact ⟨a, rfl, h.of_ok hr⟩
  | error e => exact (h.of_error hr).elim

/-- Work that cannot give an answer fails. -/
theorem Ends.exists_error {x : Desk α} {o : Office} {E : Failure → Office → Prop}
    (h : x.Ends o (fun _ _ => False) E) : ∃ e, x.answer o = .error e ∧ E e (x.after o) := by
  cases hr : x.answer o with
  | ok a => exact (h.of_ok hr).elim
  | error e => exact ⟨e, rfl, h.of_error hr⟩

theorem Ends.mono {x : Desk α} {o : Office} {Q Q' : α → Office → Prop}
    {E E' : Failure → Office → Prop} (h : x.Ends o Q E) (hQ : ∀ a o', Q a o' → Q' a o')
    (hE : ∀ e o', E e o' → E' e o') : x.Ends o Q' E' :=
  ends_iff.mpr ⟨fun a hr => hQ a _ (h.of_ok hr), fun e hr => hE e _ (h.of_error hr)⟩

/-- Work that fails is not followed by anything. -/
theorem bind_of_error {x : Desk α} {o : Office} {e : Failure} (h : x.answer o = .error e)
    (f : α → Desk β) : (x >>= f).answer o = .error e ∧ (x >>= f).after o = x.after o := by
  unfold answer after at *
  rw [EStateM.run_bind]
  cases hx : x.run o with
  | ok a o' => simp [hx] at h
  | error e' o' => simpa [hx] using h

/-- Work that gives an answer is followed by what comes next. -/
theorem bind_of_ok {x : Desk α} {o : Office} {a : α} (h : x.answer o = .ok a) (f : α → Desk β) :
    (x >>= f).answer o = (f a).answer (x.after o) ∧
      (x >>= f).after o = (f a).after (x.after o) := by
  unfold answer after at *
  rw [EStateM.run_bind]
  cases hx : x.run o with
  | ok b o' =>
    obtain rfl : b = a := by simpa [hx] using h
    exact ⟨rfl, rfl⟩
  | error e o' => simp [hx] at h

variable {o : Office} {E : Failure → Office → Prop}

/-! ## Rules -/

theorem ends_pure {a : α} {Q : α → Office → Prop} (h : Q a o) : (pure a : Desk α).Ends o Q E := h

theorem ends_throw {e : Failure} {Q : α → Office → Prop} (h : E e o) :
    (throw e : Desk α).Ends o Q E := h

theorem ends_get {Q : Office → Office → Prop} (h : Q o o) : (get : Desk Office).Ends o Q E := h

theorem ends_set {Q : PUnit → Office → Prop} {o' : Office} (h : Q ⟨⟩ o') :
    (set o' : Desk PUnit).Ends o Q E := h

theorem ends_bind {x : Desk α} {f : α → Desk β} {Q : β → Office → Prop}
    (h : x.Ends o (fun a o' => (f a).Ends o' Q E) E) : (x >>= f).Ends o Q E := by
  unfold Ends at h ⊢
  rw [EStateM.run_bind]
  cases hx : x.run o <;> rw [hx] at h <;> exact h

theorem ends_require {x : Except Failure α} {Q : α → Office → Prop} (hok : ∀ a, x = .ok a → Q a o)
    (herr : ∀ e, x = .error e → E e o) : (require x).Ends o Q E := by
  cases x with
  | ok a => exact hok a rfl
  | error e => exact herr e rfl

theorem ends_store {Q : Store → Office → Prop} (h : Q o.store o) : store.Ends o Q E := h

theorem ends_modifyStore {f : Store → Store} {Q : Unit → Office → Prop}
    (h : Q () { o with store := f o.store }) : (modifyStore f).Ends o Q E := h

theorem ends_note {level : Level} {text : String} {Q : Unit → Office → Prop}
    (h : Q () { o with journal := o.journal ++ [⟨level, text⟩] }) :
    (note level text).Ends o Q E := h

end Desk

/-! ## The ledger grows -/

/-- The ledger with some transactions added in order. -/
def Ledger.appendAll (l : Ledger) (ts : List Transaction) : Ledger := ts.foldl Ledger.append l

@[simp] theorem Ledger.appendAll_nil (l : Ledger) : l.appendAll [] = l := rfl

theorem Ledger.appendAll_append (l : Ledger) (ts us : List Transaction) :
    l.appendAll (ts ++ us) = (l.appendAll ts).appendAll us := List.foldl_append

theorem Ledger.history_appendAll (l : Ledger) (ts : List Transaction) (debitor : Int) :
    (l.appendAll ts).history debitor =
      l.history debitor ++ ts.filter fun t => t.debitor = debitor := by
  induction ts generalizing l with
  | nil => simp
  | cons t ts ih =>
    have hstep : l.appendAll (t :: ts) = (l.append t).appendAll ts := rfl
    rw [hstep, ih, Ledger.history_append, List.filter_cons]
    by_cases h : t.debitor = debitor <;> simp [h]

theorem Ledger.history_appendAll_self {l : Ledger} {ts : List Transaction} {debitor : Int}
    (h : ∀ t ∈ ts, t.debitor = debitor) :
    (l.appendAll ts).history debitor = l.history debitor ++ ts := by
  rw [history_appendAll, List.filter_eq_self.mpr fun t ht => decide_eq_true (h t ht)]

namespace Office

/-- The second office is the first one after the transactions were booked. -/
structure Posted (o : Office) (ts : List Transaction) (o' : Office) : Prop where
  store : o'.store = o.store
  ledger : o'.ledger = o.ledger.appendAll ts
  clock : o'.clock = o.clock
  outbox : o'.outbox = o.outbox
  working : o.outages = .none → o'.outages = .none

theorem Posted.refl (o : Office) : o.Posted [] o := ⟨rfl, rfl, rfl, rfl, id⟩

theorem Posted.trans {o o₁ o₂ : Office} {ts us : List Transaction} (h : o.Posted ts o₁)
    (k : o₁.Posted us o₂) : o.Posted (ts ++ us) o₂ where
  store := k.store.trans h.store
  ledger := by rw [k.ledger, h.ledger, Ledger.appendAll_append]
  clock := k.clock.trans h.clock
  outbox := k.outbox.trans h.outbox
  working hw := k.working (h.working hw)

/-- Work that books nothing leaves what was booked before. -/
theorem Posted.then_quiet {o o₁ o₂ : Office} {ts : List Transaction} (h : o.Posted ts o₁)
    (k : o₁.Posted [] o₂) : o.Posted ts o₂ := by
  have := h.trans k
  rwa [List.append_nil] at this

theorem Posted.noted {o o' : Office} {ts : List Transaction} (h : o.Posted ts o')
    (journal : List LogLine) : o.Posted ts { o' with journal := journal } :=
  ⟨h.store, h.ledger, h.clock, h.outbox, h.working⟩

end Office

/-! ## Outages -/

/-- The failure says that the ledger was not available, which happens only in an outage. -/
structure Office.Cut (o : Office) (e : Failure) : Prop where
  outage : o.outages ≠ .none
  unavailable : ∃ detail, e = .ledgerUnavailable detail

theorem Office.Cut.of_posted {o o' : Office} {ts : List Transaction} {e : Failure} (h : o'.Cut e)
    (hp : o.Posted ts o') : o.Cut e :=
  ⟨fun hw => h.outage (hp.working hw), h.unavailable⟩

theorem Office.Cut.not_mail {o : Office} {e : Failure} (h : o.Cut e) (detail : String) :
    e ≠ .mailUnavailable detail := by
  obtain ⟨_, rfl⟩ := h.unavailable
  exact Failure.noConfusion

theorem Outages.take_eq_error {left : Option Int} {detail : String} {e : Failure}
    (h : take left detail = .error e) : left ≠ .none ∧ e = .ledgerUnavailable detail := by
  cases left with
  | none => cases h
  | some n =>
    unfold take at h
    dsimp only at h
    split at h
    · exact ⟨by simp, (Except.error.inj h).symm⟩
    · cases h

theorem Outages.take_none {detail : String} {left : Option Int}
    (h : take .none detail = .ok left) : left = .none := (Except.ok.inj h).symm

namespace Desk

variable {o : Office}

/-- Using up one unit of a quota changes nothing but the quota. -/
theorem ends_take (left : Outages → Option Int) (leave : Outages → Option Int → Outages)
    {detail : String} (hleft : left .none = .none) (hleave : leave .none .none = .none) :
    (do
      let o ← get
      let n ← require (Outages.take (left o.outages) detail)
      set { o with outages := leave o.outages n } : Desk PUnit).Ends o
        (fun _ o' => o.Posted [] o') fun e o' => o.Cut e ∧ o.Posted [] o' := by
  refine ends_bind (ends_get (ends_bind (ends_require (fun n hn => ?_) fun e he => ?_)))
  · refine ends_set ⟨rfl, rfl, rfl, rfl, fun hw => ?_⟩
    rw [hw, hleft] at hn
    rw [hw, Outages.take_none hn, hleave]
  · obtain ⟨hsome, rfl⟩ := Outages.take_eq_error he
    exact ⟨⟨fun hw => hsome (by rw [hw, hleft]), _, rfl⟩, .refl o⟩

theorem ends_takeListing :
    takeListing.Ends o (fun _ o' => o.Posted [] o') fun e o' => o.Cut e ∧ o.Posted [] o' :=
  ends_take (·.listingsLeft) (fun x n => { x with listingsLeft := n }) rfl rfl

theorem ends_takeAppend :
    takeAppend.Ends o (fun _ o' => o.Posted [] o') fun e o' => o.Cut e ∧ o.Posted [] o' :=
  ends_take (·.appendsLeft) (fun x n => { x with appendsLeft := n }) rfl rfl

/-- Listing shows the ledger as it is, or is cut off. -/
theorem ends_listing :
    listing.Ends o (fun l o' => l = o.ledger ∧ o.Posted [] o')
      fun e o' => o.Cut e ∧ o.Posted [] o' := by
  refine ends_bind (ends_takeListing.mono (fun _ o' hp => ?_) fun _ _ h => h)
  refine ends_bind (ends_get ?_)
  cases hl : o'.outages.listing with
  | none => exact ends_pure ⟨hp.ledger, hp⟩
  | some detail =>
    have hout : o'.outages ≠ .none := fun hw => by simp [hw, Outages.none] at hl
    exact ends_throw ⟨Office.Cut.of_posted ⟨hout, detail, rfl⟩ hp, hp⟩

theorem ends_transactionHistory {id : Int} :
    (transactionHistory id).Ends o (fun h o' => h = o.ledger.history id ∧ o.Posted [] o')
      fun e o' => o.Cut e ∧ o.Posted [] o' := by
  refine ends_bind (ends_listing.mono (fun l o' h => ?_) fun _ _ h => h)
  obtain ⟨rfl, hp⟩ := h
  exact ends_pure ⟨rfl, hp⟩

/-- An append adds the transaction, or is cut off and adds nothing. -/
theorem ends_appendTransaction {t : Transaction} :
    (appendTransaction t).Ends o (fun _ o' => o.Posted [t] o')
      fun e o' => o.Cut e ∧ o.Posted [] o' := by
  refine ends_bind (ends_takeAppend.mono (fun _ o' hp => ?_) fun _ _ h => h)
  refine ends_bind (ends_get ?_)
  cases hl : o'.outages.appending with
  | none =>
    have happ : o'.Posted [t] { o' with ledger := o'.ledger.append t } :=
      ⟨rfl, rfl, rfl, rfl, id⟩
    exact ends_bind (ends_set (ends_note ((hp.trans happ).noted _)))
  | some detail =>
    have hout : o'.outages ≠ .none := fun hw => by simp [hw, Outages.none] at hl
    exact ends_throw ⟨Office.Cut.of_posted ⟨hout, detail, rfl⟩ hp, hp⟩

end Desk

end Registration
