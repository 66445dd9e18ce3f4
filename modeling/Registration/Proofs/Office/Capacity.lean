import Registration.Proofs.Office.Occupancy

/-!
# Limits hold

Only growth is checked against a limit, and it is checked against the row as it was before the dues
were booked and the change was stored. That is enough: an event leaves the rows alone or applies to
them the very effects that were checked against them (`Event.moved_apply`), so no row ever shows
more places than its package has (`capacity_after_run`).
-/

namespace Registration

variable {p : Policy} {t u : CountTable} {o o' : Office}

/-! ## Rows and limits -/

/-- No row of a limited package shows more places than the limit. -/
def CountTable.Fits (p : Policy) (t : CountTable) : Prop :=
  ∀ e ∈ p.limitedPackages, ∀ row, t.get? (packageArea, e.1) = some row → row.total ≤ e.2.limit

/-- The rows stay, or get the effects of a change that was checked against them. -/
def CountTable.Moved (p : Policy) (t u : CountTable) : Prop :=
  u = t ∨ ∃ before after old target ds,
    allocation p t before after old target = .ok ds ∧ u = t.applyAll ds

theorem Count.total_apply (c : Count) (d : CountDelta) :
    (c.apply d).total = c.total + d.growth := by
  simp only [total, apply, CountDelta.growth]
  omega

theorem CountDelta.growth_of_isEmpty {d : CountDelta} (h : d.isEmpty = true) : d.growth = 0 := by
  simp only [isEmpty, Bool.and_eq_true, decide_eq_true_eq] at h
  rw [growth, h.1, h.2, add_zero]

/-- What passes the check of a limit leaves its row within the limit, if it grows at all. -/
theorem total_le_of_checkLimit {conf : PackageConfig} {d : CountDelta} {row : Count}
    (h : checkLimit t conf d = .ok ()) (hrow : t.get? d.key = some row) (hgrows : 0 < d.growth) :
    row.total + d.growth ≤ conf.limit := by
  have hget : t.get d.area d.name = .ok row := CountTable.get_eq_ok_iff.mpr hrow
  rw [checkLimit, if_pos hgrows, hget] at h
  by_contra hover
  have hthrow : conf.limit < row.total + d.growth := by omega
  simp [bind, Except.bind, hthrow, throw, throwThe, MonadExceptOf.throw] at h

/-- Every effect of a change that grows leaves the row of its package within the limit. -/
theorem total_le_of_deltasOn {before after : Attendee} {old target : Status}
    {limited : List (String × PackageConfig)} {ds : List CountDelta}
    (h : deltasOn t before after old target limited = .ok ds) {e : String × PackageConfig}
    (he : e ∈ limited) {row : Count} (hrow : t.get? (packageArea, e.1) = some row) :
    let d := packageDelta e.1 (before.packageCount e.1) (after.packageCount e.1) old target
    0 < d.growth → row.total + d.growth ≤ e.2.limit := by
  induction limited generalizing ds with
  | nil => cases he
  | cons f rest ih =>
    intro d hgrows
    rcases List.mem_cons.mp he with rfl | he
    · rcases deltasOn_cons h with ⟨hempty, -⟩ | ⟨-, hcheck, -⟩
      · have hzero : d.growth = 0 := CountDelta.growth_of_isEmpty hempty
        omega
      · exact total_le_of_checkLimit hcheck hrow hgrows
    · rcases deltasOn_cons h with ⟨-, hrest⟩ | ⟨-, -, es, hrest, -⟩
      · exact ih hrest he hgrows
      · exact ih hrest he hgrows

/-- Rows that fit still fit after the effects of a change that was checked against them. -/
theorem CountTable.Moved.fits (h : t.Moved p u) (hfits : t.Fits p) : u.Fits p := by
  rcases h with rfl | ⟨before, after, old, target, ds, hds, rfl⟩
  · exact hfits
  · intro e he row hrow
    have hcode : e.1 ∈ p.limitedPackages.map (·.1) := List.mem_map_of_mem he
    rw [get?_applyAll_deltas hds hcode] at hrow
    obtain ⟨c, hc, rfl⟩ := Option.map_eq_some_iff.mp hrow
    have hbefore := hfits e he c hc
    have hroom := total_le_of_deltasOn hds he hc
    rw [Count.total_apply]
    by_cases hgrows : 0 < (packageDelta e.1 (before.packageCount e.1) (after.packageCount e.1) old
        target).growth
    · exact hroom hgrows
    · omega

/-! ## What an event does to the rows -/

/-- A commit leaves the rows, or makes the table that its recording makes. -/
theorem CommitEnd.counts_eq {a : Attendee} {old target : Status} {comment override : String}
    {recorded : Desk Unit} {answer : Except Failure Committed}
    (h : CommitEnd p a old target comment override recorded o answer o')
    (hrec : Records p o a old target recorded u) :
    o'.store.counts = o.store.counts ∨ o'.store.counts = u := by
  have hcounts : ∀ {r o₁}, o.Settles p a old target comment override r o₁ →
      o₁.store.counts = o.store.counts := fun hs => by rw [hs.store, Store.counts_settle]
  cases h with
  | refused _ hposted => exact .inl (by rw [hposted.store])
  | unrecorded hsettles _ hrecorded =>
    cases (hrec.complete _ (hcounts hsettles)).1.symm.trans hrecorded
  | changed hsettles _ _ hkept =>
    refine .inr ?_
    rw [hkept.store, (hrec.complete _ (hcounts hsettles)).2]
    rfl
  | unchanged hsettles _ hkept => exact .inl (by rw [hkept.store, hcounts hsettles])

theorem RegisterEnd.moved {actor : Actor} {a : Attendee} (h : RegisterEnd p actor o a o')
    (hocc : o.store.Occupied p) : o.store.counts.Moved p o'.store.counts := by
  cases h with
  | refused hkept => exact .inl (by rw [hkept.store])
  | added _ hdeltas hdone =>
    rw [hdone (covers_of_allocation hdeltas hocc.rows)]
    exact .inr ⟨_, _, _, _, _, hdeltas, rfl⟩

theorem UpdateEnd.moved {a : Attendee} {answer : Except Failure Committed}
    (h : UpdateEnd p o a answer o') (hocc : o.store.Occupied p) :
    o.store.counts.Moved p o'.store.counts := by
  cases h with
  | refused _ hkept => exact .inl (by rw [hkept.store])
  | unrecorded _ _ _ hdeltas hmissing =>
    exact absurd (covers_of_allocation hdeltas hocc.rows) hmissing
  | committed _ _ hdeltas hcommit =>
    -- the rows are changed before the commit, which then leaves them
    have hsame := (hcommit.counts_eq (records_pure p _ _ _)).elim id id
    exact .inr ⟨_, _, _, _, _, hdeltas, hsame⟩

theorem InfoEnd.moved {i : AdminInfo} {answer : Except Failure Committed}
    (h : InfoEnd p o i answer o') : o.store.counts.Moved p o'.store.counts := by
  cases h with
  | unknown _ => exact .inl rfl
  | committed _ hcommit => exact .inl ((hcommit.counts_eq (records_pure p _ _ _)).elim id id)

theorem StatusEnd.moved {actor : Actor} {id : Int} {new : Target} {override : String}
    {answer : Except Failure Committed} (h : StatusEnd p actor o id new override answer o')
    (hocc : o.store.Occupied p) : o.store.counts.Moved p o'.store.counts := by
  cases h with
  | refused _ hposted => exact .inl (by rw [hposted.store])
  | @committed _ _ _ _ _ o₁ _ _ _ _ _ _ hdeltas hposted hcommit =>
    have hcounts : o₁.store.counts = o.store.counts := by rw [hposted.store]
    have hocc₁ : o₁.store.Occupied p := hposted.store ▸ hocc
    rw [← hcounts] at hdeltas ⊢
    rcases hcommit.counts_eq (records_recording hocc₁ hdeltas) with hsame | hmoved
    · exact .inl hsame
    · exact .inr ⟨_, _, _, _, _, hdeltas, hmoved⟩

/-- An event leaves the rows, or applies to them effects that were checked against them. -/
theorem Event.moved_apply (hs : o.store.WellKept) (hocc : o.store.Occupied p) (e : Event) :
    o.store.counts.Moved p (e.apply p o).store.counts := by
  cases e with
  | register actor a => exact (registerEnd p o actor a).moved hocc
  | change c =>
    cases c with
    | update actor a suppress => exact (updateEnd p o actor a suppress).moved hocc
    | updateInfo actor i => exact (infoEnd p hs actor i).moved
    | changeStatus actor id new comment override suppress =>
      exact (statusEnd p hs actor id new comment override suppress).moved hocc
  | inject _ => exact .inl rfl
  | outage _ => exact .inl rfl
  | tick _ => exact .inl rfl

/-! ## Runs -/

/-- Rows that show what is held and fit their limits do so along every run. -/
theorem fits_run (hs : o.store.WellKept) (hocc : o.store.Occupied p)
    (hfits : o.store.counts.Fits p) (events : List Event) :
    (o.run p events).store.counts.Fits p := by
  have hboth : (o.run p events).store.Occupied p ∧ (o.run p events).store.counts.Fits p :=
    Office.run_of_wellKept (fun o => o.store.Occupied p ∧ o.store.counts.Fits p)
      (fun _ e _ hs h => ⟨e.occupied_apply hs h.1, (e.moved_apply hs h.1).fits h.2⟩) hs
      ⟨hocc, hfits⟩
  exact hboth.2

theorem CountTable.fits_of_zero
    (hzero : ∀ code ∈ p.limitedPackages.map (·.1),
      t.get? (packageArea, code) = some ⟨packageArea, code, 0, 0⟩) : t.Fits p := by
  intro e he row hrow
  obtain rfl := Option.some.inj ((hzero e.1 (List.mem_map_of_mem he)).symm.trans hrow)
  have hlimit := (Policy.mem_limitedPackages.mp he).2
  simp only [Count.total]
  omega

/-- Start without registrations and with a zero row for every limited package, and let any events
happen, with requests that end in any way and any outages. Then every limited package has a row, and
the places it shows, provisional and final together, are at most the limit. -/
theorem capacity_after_run {counts : CountTable}
    (hzero : ∀ code ∈ p.limitedPackages.map (·.1),
      counts.get? (packageArea, code) = some ⟨packageArea, code, 0, 0⟩) (clock : Clock)
    (events : List Event) {code : String} {conf : PackageConfig}
    (hlimited : (code, conf) ∈ p.limitedPackages) :
    ∃ row, ((Office.openingWith counts clock).run p events).store.counts.get?
        (packageArea, code) = some row ∧ row.pending + row.attending ≤ conf.limit := by
  have hopen := Office.wellKept_openingWith counts clock
  have hstart := occupied_openingWith hzero clock
  have hocc := occupied_run hopen hstart events
  have hfits := fits_run hopen hstart (CountTable.fits_of_zero hzero) events
  have hrow := hocc code (List.mem_map_of_mem hlimited)
  exact ⟨_, hrow, hfits (code, conf) hlimited _ hrow⟩

/-- A second registration for the day. -/
def hare : Attendee := { fox with nickname := "Hare", email := "hare@example.org" }

/-- Two places are given, one of them for good; a third registration is refused, and the row stays
at the limit. -/
theorem capacity_after_refusal :
    let o := (Office.openingWith dayCounts newYear).run dayPolicy
      [.register clerk fox, .change (.changeStatus clerk 1 (.status .approved) "" "" false),
        .register clerk hare]
    let third := { fox with nickname := "Wolf", email := "wolf@example.org" }
    (Desk.register dayPolicy clerk third).answer o = .error (.overrun "day") ∧
      ∃ row, (o.run dayPolicy [.register clerk third]).store.counts.get? (packageArea, "day") =
        some row ∧ row.pending + row.attending ≤ 2 := by
  intro o third
  have hzero : ∀ code ∈ dayPolicy.limitedPackages.map (·.1),
      dayCounts.get? (packageArea, code) = some ⟨packageArea, code, 0, 0⟩ := by decide +kernel
  exact ⟨by decide +kernel, capacity_after_run hzero newYear
    [.register clerk fox, .change (.changeStatus clerk 1 (.status .approved) "" "" false),
      .register clerk hare, .register clerk third]
    (show ("day", ⟨10000, .finite false 19 0, 2, 1⟩) ∈ dayPolicy.limitedPackages by decide +kernel)⟩

end Registration
