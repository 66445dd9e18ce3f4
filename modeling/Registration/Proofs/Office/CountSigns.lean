import Registration.Proofs.Office.Occupancy

/-!
# Signs of counts

A record holds the packages that were submitted for it (`packagesPass_run`), and the rows of the
limited packages show what all records hold. So no row falls below zero as long as nobody submits a
negative number of a limited package. Nothing else keeps the rows there: a negative number is a
release, releases are never refused, and a single registration with one brings its row below zero
(`nonneg_run_iff`).
-/

namespace Registration

/-- A table of one entry. -/
theorem Table.get?_ofList_single {κ α : Type} [DecidableEq κ] (k j : κ) (v : α) :
    (Table.ofList [(k, v)]).get? j = if k = j then some v else none := by
  simp [Table.ofList]

variable {p : Policy} {o o' : Office}

/-! ## Packages held are packages submitted -/

/-- The packages of all records pass a test. -/
def Store.PackagesPass (ok : Table String Int → Prop) (s : Store) : Prop :=
  ∀ id a, s.attendees.get? id = some a → ok a.packages

/-- The packages submitted with the event, if there are any, pass a test. -/
def Event.PackagesPass (ok : Table String Int → Prop) : Event → Prop
  | register _ a | change (.update _ a _) => ok a.packages
  | _ => True

section Passing

variable {ok : Table String Int → Prop}

theorem Store.PackagesPass.insert {s s' : Store} (h : s.PackagesPass ok) (k : Int) (a : Attendee)
    (hrecords : s'.attendees = s.attendees.insert k a) (ha : ok a.packages) :
    s'.PackagesPass ok := by
  intro id b hb
  rw [hrecords, Table.get?_insert] at hb
  split_ifs at hb with hid
  · obtain rfl := Option.some.inj hb
    exact ha
  · exact h id b hb

theorem Desk.packages_newRecord (actor : Actor) (a : Attendee) :
    (newRecord actor a).packages = a.packages := by
  unfold newRecord
  rfl

theorem Desk.packages_editedRecord (stored a : Attendee) :
    (editedRecord stored a).packages = a.packages := by
  unfold editedRecord
  rfl

/-- A commit leaves the packages of its record as they were. -/
theorem CommitEnd.packagesPass {a : Attendee} {old target : Status} {comment override : String}
    {recorded : Desk Unit} {answer : Except Failure Committed}
    (h : CommitEnd p a old target comment override recorded o answer o')
    (hrec : ∀ o, ∃ t, recorded.after o = o.withCounts t) (hs : o.store.PackagesPass ok)
    (ha : ok a.packages) : o'.store.PackagesPass ok := by
  rcases h.store_eq hrec with hstore | ⟨r, o₁, t, hsettles, hstore⟩
  · exact hstore ▸ hs
  · have hrecords : o'.store.attendees = o.store.attendees.insert r.attendee.id r.attendee := by
      rw [hstore]
      change o₁.store.attendees = _
      rw [hsettles.store, Store.attendees_settle]
    refine hs.insert _ _ hrecords ?_
    rw [hsettles.result]
    exact ha

theorem RegisterEnd.packagesPass {actor : Actor} {a : Attendee} (h : RegisterEnd p actor o a o')
    (hs : o.store.PackagesPass ok) (ha : ok a.packages) : o'.store.PackagesPass ok := by
  cases h with
  | refused hkept => exact hkept.store ▸ hs
  | added _ _ _ =>
    rw [← Desk.packages_newRecord actor a] at ha
    generalize Desk.newRecord actor a = b at ha
    exact hs.insert o.store.nextId { b with id := o.store.nextId } rfl ha

theorem UpdateEnd.packagesPass {a : Attendee} {answer : Except Failure Committed}
    (h : UpdateEnd p o a answer o') (hs : o.store.PackagesPass ok) (ha : ok a.packages) :
    o'.store.PackagesPass ok := by
  have hput : ∀ b t, ok b.packages → (o.withRecord b t).store.PackagesPass ok :=
    fun b t hb => hs.insert b.id b rfl hb
  have hedited : ∀ stored, ok (Desk.editedRecord stored a).packages := fun stored => by
    rw [Desk.packages_editedRecord]
    exact ha
  cases h with
  | refused _ hkept => exact hkept.store ▸ hs
  | unrecorded _ _ _ _ _ => exact hput _ _ (hedited _)
  | committed _ _ _ hcommit =>
    exact hcommit.packagesPass after_pure (hput _ _ (hedited _)) (hedited _)

theorem InfoEnd.packagesPass {i : AdminInfo} {answer : Except Failure Committed}
    (h : InfoEnd p o i answer o') (hs : o.store.PackagesPass ok) : o'.store.PackagesPass ok := by
  have hnoted : (o.withInfo i).store.PackagesPass ok := hs
  cases h with
  | unknown _ => exact hnoted
  | committed hstored hcommit => exact hcommit.packagesPass after_pure hnoted (hs _ _ hstored)

theorem StatusEnd.packagesPass {actor : Actor} {id : Int} {new : Target} {override : String}
    {answer : Except Failure Committed} (h : StatusEnd p actor o id new override answer o')
    (hs : o.store.PackagesPass ok) : o'.store.PackagesPass ok := by
  cases h with
  | refused _ hposted => exact hposted.store ▸ hs
  | committed _ hstored _ _ _ _ hposted hcommit =>
    exact hcommit.packagesPass (after_recording _) (hposted.store ▸ hs) (hs _ _ hstored)

theorem Event.packagesPass_apply (hw : o.store.WellKept) (hs : o.store.PackagesPass ok) {e : Event}
    (he : e.PackagesPass ok) : (e.apply p o).store.PackagesPass ok := by
  cases e with
  | register actor a => exact (registerEnd p o actor a).packagesPass hs he
  | change c =>
    cases c with
    | update actor a suppress => exact (updateEnd p o actor a suppress).packagesPass hs he
    | updateInfo actor i => exact (infoEnd p hw actor i).packagesPass hs
    | changeStatus actor id new comment override suppress =>
      exact (statusEnd p hw actor id new comment override suppress).packagesPass hs
  | inject _ => exact hs
  | outage _ => exact hs
  | tick _ => exact hs

/-- Whatever test all submitted packages pass, the packages held pass. -/
theorem packagesPass_run (hw : o.store.WellKept) (hs : o.store.PackagesPass ok)
    {events : List Event} (hevents : ∀ e ∈ events, e.PackagesPass ok) :
    (o.run p events).store.PackagesPass ok :=
  Office.run_of_wellKept (fun o => o.store.PackagesPass ok)
    (fun _ e he hw hs => e.packagesPass_apply hw hs (hevents e he)) hw hs

end Passing

/-! ## Rows above zero -/

theorem Status.pendingMultiplier_nonneg (s : Status) : 0 ≤ s.pendingMultiplier := by
  unfold pendingMultiplier
  split <;> decide

theorem Status.attendingMultiplier_nonneg (s : Status) : 0 ≤ s.attendingMultiplier := by
  unfold attendingMultiplier
  split <;> decide

/-- Where nobody holds a negative number, the places held are not negative. -/
theorem Store.held_nonneg {s : Store} {code : String} {weight : Status → Int}
    (hcounts : s.PackagesPass fun t => 0 ≤ (t.get? code).getD 0) (hweight : ∀ s, 0 ≤ weight s) :
    0 ≤ s.held code weight := by
  refine List.sum_nonneg fun n hn => ?_
  obtain ⟨⟨id, a⟩, ha, rfl⟩ := List.mem_map.mp hn
  exact mul_nonneg (hcounts id a (Table.mem_entries_iff.mp ha)) (hweight _)

/-! ## Releases -/

/-- A change that takes no more places of any package is not refused. -/
theorem exists_deltasOn_of_growth_nonpos {t : CountTable} {before after : Attendee}
    {old target : Status} {limited : List (String × PackageConfig)}
    (h : ∀ e ∈ limited, (packageDelta e.1 (before.packageCount e.1) (after.packageCount e.1) old
      target).growth ≤ 0) : ∃ ds, deltasOn t before after old target limited = .ok ds := by
  induction limited with
  | nil => exact ⟨[], rfl⟩
  | cons e rest ih =>
    obtain ⟨ds, hds⟩ := ih fun f hf => h f (List.mem_cons_of_mem e hf)
    have hgrowth := h e List.mem_cons_self
    unfold deltasOn
    dsimp only
    split
    · exact ⟨ds, hds⟩
    · rw [checkLimit, if_neg (not_lt_of_ge hgrowth), hds]
      exact ⟨_, rfl⟩

/-- A registration that is unique and passes the limits is added. -/
theorem Desk.after_register {actor : Actor} {a : Attendee} {ds : List CountDelta}
    (hunique : o.store.countKey (newRecord actor a).key = 0)
    (hds : allocation p o.store.counts { newRecord actor a with packages := .empty }
      (newRecord actor a) .new .new = .ok ds) :
    ∃ t, (register p actor a).after o = o.withNewRecord (newRecord actor a) t := by
  have hends : (register p actor a).Ends o
      (fun _ o' => ∃ t, o' = o.withNewRecord (newRecord actor a) t)
      fun _ o' => ∃ t, o' = o.withNewRecord (newRecord actor a) t := by
    unfold register checkUnique
    refine ends_bind (ends_bind (ends_store ?_))
    rw [hunique, if_neg (lt_irrefl 0)]
    refine ends_pure (ends_bind (ends_store (ends_bind (ends_require (fun es _ => ?_)
      fun e he => ?_))))
    · refine ends_bind (ends_modifyStore (ends_bind (ends_recordAll.mono (fun _ _ h => ?_)
        fun _ _ h => ?_)))
      · exact ends_pure ⟨_, h.2⟩
      · obtain ⟨-, -, done, -, rfl⟩ := h
        exact ⟨_, rfl⟩
    · cases hds.symm.trans he
  exact hends.after_of

/-- A registration for a number of one package. -/
def registrationFor (code : String) (n : Int) : Attendee :=
  { fox with packages := .ofList [(code, n)] }

theorem packageCount_registrationFor (code other : String) (n : Int) :
    (registrationFor code n).packageCount other = if code = other then n else 0 := by
  unfold registrationFor Attendee.packageCount
  rw [Table.get?_ofList_single]
  split_ifs <;> rfl

/-- The effects of a registration are the numbers asked for. -/
theorem growth_packageDelta_new (code : String) (n : Int) :
    (packageDelta code 0 n .new .new).growth = n := by
  simp [packageDelta, CountDelta.growth, Status.pendingMultiplier, Status.attendingMultiplier,
    Status.isPending, Status.isAttending]

/-- A first registration for a negative number of a package leads its row there. -/
theorem row_after_negative {counts : CountTable}
    (hzero : ∀ code ∈ p.limitedPackages.map (·.1),
      counts.get? (packageArea, code) = some ⟨packageArea, code, 0, 0⟩) (clock : Clock)
    {code : String} (hcode : code ∈ p.limitedPackages.map (·.1)) {n : Int} (hn : n < 0) :
    ((Office.openingWith counts clock).run p
      [.register clerk (registrationFor code n)]).store.counts.get? (packageArea, code) =
      some ⟨packageArea, code, n, 0⟩ := by
  have hs := Office.wellKept_openingWith counts clock
  have hrow := occupied_run hs (occupied_openingWith hzero clock)
    [.register clerk (registrationFor code n)] code hcode
  have hcount : ∀ other, (Desk.newRecord clerk (registrationFor code n)).packageCount other =
      if code = other then n else 0 := fun other => by
    rw [Attendee.packageCount, Desk.packages_newRecord]
    exact packageCount_registrationFor code other n
  have hunique : (Office.openingWith counts clock).store.countKey
      (Desk.newRecord clerk (registrationFor code n)).key = 0 := rfl
  have hadded : ∃ ds, allocation p (Office.openingWith counts clock).store.counts
      { Desk.newRecord clerk (registrationFor code n) with packages := .empty }
      (Desk.newRecord clerk (registrationFor code n)) .new .new = .ok ds := by
    refine exists_deltasOn_of_growth_nonpos fun e _ => ?_
    rw [hcount]
    refine (growth_packageDelta_new e.1 _).trans_le ?_
    split_ifs <;> omega
  obtain ⟨ds, hds⟩ := hadded
  obtain ⟨t, ht⟩ := Desk.after_register hunique hds
  have hheld : ∀ weight : Status → Int, ((Office.openingWith counts clock).run p
      [.register clerk (registrationFor code n)]).store.held code weight = n * weight .new := by
    intro weight
    have hsum := Store.held_addAttendee hs (Desk.newRecord clerk (registrationFor code n)) code
      weight
    rw [hcount, if_pos rfl] at hsum
    change ((Desk.register p clerk (registrationFor code n)).after _).store.held code weight = _
    rw [ht]
    exact hsum.trans (zero_add _)
  rw [hrow, hheld, hheld]
  simp [Status.pendingMultiplier, Status.attendingMultiplier, Status.isPending, Status.isAttending]

/-! ## Runs -/

/-- Start without registrations and with a zero row for every limited package, and let any events
happen in which only admitted numbers of packages are submitted, with requests that end in any way
and any outages. Then no row of a limited package ever falls below zero, provisional or final,
exactly if no negative number of a limited package is admitted. -/
theorem nonneg_run_iff {counts : CountTable}
    (hzero : ∀ code ∈ p.limitedPackages.map (·.1),
      counts.get? (packageArea, code) = some ⟨packageArea, code, 0, 0⟩) (clock : Clock)
    (admits : String → Int → Prop) :
    (∀ events : List Event,
      (∀ e ∈ events, e.PackagesPass fun t => ∀ code n, t.get? code = some n → admits code n) →
      ∀ code ∈ p.limitedPackages.map (·.1), ∃ row,
        ((Office.openingWith counts clock).run p events).store.counts.get? (packageArea, code) =
          some row ∧ 0 ≤ row.pending ∧ 0 ≤ row.attending) ↔
      ∀ code ∈ p.limitedPackages.map (·.1), ∀ n, admits code n → 0 ≤ n := by
  constructor
  · intro hrows code hcode n hn
    by_contra hneg
    have hsubmitted : ∀ e ∈ [Event.register clerk (registrationFor code n)],
        e.PackagesPass fun t => ∀ code n, t.get? code = some n → admits code n := by
      intro e he
      rw [List.mem_singleton.mp he]
      intro other m hm
      rw [registrationFor, Table.get?_ofList_single] at hm
      split_ifs at hm with hsame
      exact hsame ▸ Option.some.inj hm ▸ hn
    obtain ⟨row, hrow, hpending, -⟩ := hrows _ hsubmitted code hcode
    rw [row_after_negative hzero clock hcode (not_le.mp hneg)] at hrow
    obtain rfl := Option.some.inj hrow
    exact hneg hpending
  · intro hadmits events hevents code hcode
    have hopen := Office.wellKept_openingWith counts clock
    have hrow := occupied_run hopen (occupied_openingWith hzero clock) events code hcode
    have hpass := packagesPass_run (p := p) hopen (fun _ _ ha => by cases ha) hevents
    have hcounts : ((Office.openingWith counts clock).run p events).store.PackagesPass
        fun t => 0 ≤ (t.get? code).getD 0 := by
      intro id a ha
      cases hn : a.packages.get? code with
      | none => exact le_rfl
      | some n => exact hadmits code hcode n (hpass id a ha code n hn)
    exact ⟨_, hrow, Store.held_nonneg hcounts Status.pendingMultiplier_nonneg,
      Store.held_nonneg hcounts Status.attendingMultiplier_nonneg⟩

/-- A place is taken and given up again by an edit, so the row is back where it was. -/
theorem nonneg_after_giving_up :
    let events := [Event.register clerk (registrationFor "day" 1),
      .change (.update clerk (registrationFor "day" 0) false)]
    ∃ row, ((Office.openingWith dayCounts newYear).run dayPolicy events).store.counts.get?
      (packageArea, "day") = some row ∧ 0 ≤ row.pending ∧ 0 ≤ row.attending := by
  intro events
  have hzero : ∀ code ∈ dayPolicy.limitedPackages.map (·.1),
      dayCounts.get? (packageArea, code) = some ⟨packageArea, code, 0, 0⟩ := by decide +kernel
  have hday : "day" ∈ dayPolicy.limitedPackages.map (·.1) := by decide +kernel
  have hsingle : ∀ n : Int, 0 ≤ n → ∀ code m, (Table.ofList [("day", n)]).get? code = some m →
      0 ≤ m := by
    intro n hn code m hm
    rw [Table.get?_ofList_single] at hm
    split_ifs at hm
    exact Option.some.inj hm ▸ hn
  have hevents : ∀ e ∈ events, e.PackagesPass fun t => ∀ code n, t.get? code = some n → 0 ≤ n := by
    simp only [events, List.mem_cons, List.not_mem_nil, or_false, forall_eq_or_imp, forall_eq]
    exact ⟨hsingle 1 (by decide), hsingle 0 (by decide)⟩
  exact (nonneg_run_iff hzero newYear fun _ n => 0 ≤ n).mpr (fun _ _ _ h => h) events hevents _ hday

/-- One registration for minus five days makes room for a second one for seven, although there are
two. -/
theorem seven_days_of_two :
    let o := (Office.openingWith dayCounts newYear).run dayPolicy
      [.register clerk (registrationFor "day" (-5))]
    let o' := o.run dayPolicy
      [.register clerk { registrationFor "day" 7 with nickname := "Hare" }]
    o.store.counts.get? (packageArea, "day") = some ⟨packageArea, "day", -5, 0⟩ ∧
      (o'.store.attendees.get? 2).map (·.packageCount "day") = some 7 ∧
      o'.store.counts.get? (packageArea, "day") = some ⟨packageArea, "day", 2, 0⟩ := by
  decide +kernel

end Registration
