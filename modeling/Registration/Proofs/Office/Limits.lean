import Registration.Proofs.Office.Overtaking

/-!
# What the limits accept

A request for other packages or another status holds other places than before, provisional and final
ones together. The limits look at the packages in the order of their codes and stop at the first one
that is overrun: of which the request takes more places, and more than are left (`check_eq`). So a
request is accepted exactly if no package is overrun; its effects are those on the packages of which
places change; and a refusal names the first code of all that are overrun
(`limits_accept_what_fits`).
-/

namespace Registration

namespace Attendee

/-- The places of a package that are held provisionally under a status. -/
def pendingPlaces (a : Attendee) (s : Status) (code : String) : Int :=
  if s.isPending then a.packageCount code else 0

/-- The places of a package that are held for good under a status. -/
def attendingPlaces (a : Attendee) (s : Status) (code : String) : Int :=
  if s.isAttending then a.packageCount code else 0

def places (a : Attendee) (s : Status) (code : String) : Int :=
  a.pendingPlaces s code + a.attendingPlaces s code

end Attendee

/-- The package is configured with a limit. -/
def Policy.Limits (p : Policy) (code : String) (limit : Int) : Prop :=
  0 < limit ∧ ∃ conf, p.packages.get? code = some conf ∧ conf.limit = limit

namespace Reallocation

variable (r : Reallocation) (code : String)

/-- How many more places of a package are held provisionally. -/
def pendingRise : Int := r.after.pendingPlaces r.target code - r.before.pendingPlaces r.old code

/-- How many more places of a package are held for good. -/
def attendingRise : Int :=
  r.after.attendingPlaces r.target code - r.before.attendingPlaces r.old code

/-- How many more places of a package are held. -/
def rise : Int := r.after.places r.target code - r.before.places r.old code

/-- The request takes more places of a limited package than before, and more than are left. -/
def Overruns (p : Policy) (t : CountTable) : Prop :=
  ∃ limit, p.Limits code limit ∧ 0 < r.rise code ∧ limit < t.taken code + r.rise code

theorem delta_eq :
    r.delta code = ⟨packageArea, code, r.pendingRise code, r.attendingRise code⟩ := by
  simp [delta, packageDelta, pendingRise, attendingRise, Attendee.pendingPlaces,
    Attendee.attendingPlaces, Status.pendingMultiplier, Status.attendingMultiplier]

theorem growth_delta : (r.delta code).growth = r.rise code := by
  rw [delta_eq]
  simp only [CountDelta.growth, pendingRise, attendingRise, rise, Attendee.places]
  omega

theorem isEmpty_delta :
    (r.delta code).isEmpty = true ↔ r.pendingRise code = 0 ∧ r.attendingRise code = 0 := by
  simp [delta_eq, CountDelta.isEmpty]

/-- The request overruns a configured package, which has a limit. -/
def overrunsAt (t : CountTable) (e : String × PackageConfig) : Bool :=
  0 < r.rise e.1 && e.2.limit < t.taken e.1 + r.rise e.1

/-- The effects on the packages of a list that change something. -/
def effects (limited : List (String × PackageConfig)) : List CountDelta :=
  (limited.map fun e => r.delta e.1).filter fun d => !d.isEmpty

end Reallocation

/-! ## Packages in order -/

namespace Policy

theorem mem_limitedPackages_iff {p : Policy} {e : String × PackageConfig} :
    e ∈ p.limitedPackages ↔ p.packages.get? e.1 = some e.2 ∧ 0 < e.2.limit := by
  rw [mem_limitedPackages, ← Table.mem_entries_iff]

/-- The limits come in the order of the codes. -/
theorem pairwise_limitedPackages (p : Policy) :
    p.limitedPackages.Pairwise fun e f => e.1 < f.1 := by
  have hsorted : p.limitedPackages.Pairwise fun e f => e.1 ≤ f.1 := by
    let byCode : String × PackageConfig → String × PackageConfig → Bool :=
      fun e f => decide (e.1 ≤ f.1)
    have htrans : ∀ e f g, byCode e f = true → byCode f g = true → byCode e g = true :=
      fun e f g hef hfg =>
        decide_eq_true ((of_decide_eq_true hef).trans (of_decide_eq_true hfg))
    have htotal : ∀ e f, (byCode e f || byCode f e) = true := fun e f => by
      simpa [byCode] using le_total e.1 f.1
    exact (List.pairwise_mergeSort htrans htotal _).imp of_decide_eq_true
  have hdistinct : p.limitedPackages.Pairwise fun e f => e.1 ≠ f.1 :=
    List.pairwise_map.mp (nodup_limitedPackages p)
  exact hsorted.imp₂ (fun e f hle hne => lt_of_le_of_ne hle hne) hdistinct

end Policy

/-! ## One package after the other -/

namespace Reallocation

variable (r : Reallocation) {t : CountTable}

/-- Where the package has a row, its limit is passed unless it is overrun. -/
theorem checkLimit_delta {e : String × PackageConfig}
    (hrow : (t.get? (packageArea, e.1)).isSome) :
    checkLimit t e.2 (r.delta e.1) =
      if r.overrunsAt t e then .error (.overrun e.1) else .ok () := by
  obtain ⟨row, hrow⟩ := Option.isSome_iff_exists.mp hrow
  have hget : t.get (r.delta e.1).area (r.delta e.1).name = .ok row :=
    CountTable.get_eq_ok_iff.mpr hrow
  rw [checkLimit, growth_delta, overrunsAt, CountTable.taken_of_get? hrow]
  by_cases hgrows : 0 < r.rise e.1
  · rw [if_pos hgrows, bind_of_eq_ok hget]
    simp only [hgrows, decide_true, Bool.true_and, decide_eq_true_eq]
    rfl
  · simp only [hgrows, if_false, decide_false, Bool.false_and, Bool.false_eq_true]
    rfl

/-- An empty effect overruns nothing. -/
theorem overrunsAt_of_isEmpty {e : String × PackageConfig} (h : (r.delta e.1).isEmpty = true) :
    r.overrunsAt t e = false := by
  have hzero : r.rise e.1 = 0 := by
    rw [← growth_delta]
    exact CountDelta.growth_of_isEmpty h
  simp [overrunsAt, hzero]

/-- The first package of a list that is overrun stops the check; without one, all effects on the
list are found. -/
theorem deltasOn_eq {limited : List (String × PackageConfig)}
    (hrows : ∀ e ∈ limited, (t.get? (packageArea, e.1)).isSome) :
    deltasOn t r.before r.after r.old r.target limited =
      match limited.find? (r.overrunsAt t) with
      | some e => .error (.overrun e.1)
      | none => .ok (r.effects limited) := by
  induction limited with
  | nil => rfl
  | cons e rest ih =>
    obtain ⟨hrow, hrest⟩ := List.forall_mem_cons.mp hrows
    have hcheck := r.checkLimit_delta hrow
    have hdelta : packageDelta e.1 (r.before.packageCount e.1) (r.after.packageCount e.1) r.old
        r.target = r.delta e.1 := rfl
    rw [deltasOn, hdelta, ih hrest, List.find?_cons]
    by_cases hempty : (r.delta e.1).isEmpty = true
    · -- what changes nothing is passed over; it cannot overrun anything either
      rw [if_pos hempty, r.overrunsAt_of_isEmpty hempty]
      simp [effects, hempty]
    · rw [if_neg hempty, hcheck]
      cases hover : r.overrunsAt t e with
      | true => rfl
      | false =>
        cases hfind : rest.find? (r.overrunsAt t) with
        | some f => rfl
        | none => simp [effects, hempty, bind, Except.bind, pure, Except.pure]

/-! ## All packages with a limit -/

variable {p : Policy}

theorem overruns_iff {code : String} :
    r.Overruns code p t ↔ ∃ e ∈ p.limitedPackages, e.1 = code ∧ r.overrunsAt t e = true := by
  simp only [Overruns, Policy.Limits, overrunsAt, Policy.mem_limitedPackages_iff,
    Bool.and_eq_true, decide_eq_true_eq]
  constructor
  · rintro ⟨limit, ⟨hpos, conf, hconf, rfl⟩, hover⟩
    exact ⟨(code, conf), ⟨hconf, hpos⟩, rfl, hover⟩
  · rintro ⟨e, ⟨hconf, hpos⟩, rfl, hover⟩
    exact ⟨e.2.limit, ⟨hpos, e.2, hconf, rfl⟩, hover⟩

/-- The packages come in the order of their codes, so the first one that is overrun has the least
code. -/
theorem isLeast_of_find? {e : String × PackageConfig}
    (h : p.limitedPackages.find? (r.overrunsAt t) = some e) :
    IsLeast {code | r.Overruns code p t} e.1 := by
  obtain ⟨hover, passed, rest, hsplit, hpassed⟩ := List.find?_eq_some_iff_append.mp h
  have hordered := p.pairwise_limitedPackages
  rw [hsplit] at hordered
  have hafter : ∀ f ∈ rest, e.1 < f.1 :=
    (List.pairwise_cons.mp (List.pairwise_append.mp hordered).2.1).1
  refine ⟨r.overruns_iff.mpr ⟨e, List.mem_of_find?_eq_some h, rfl, hover⟩, fun code hcode => ?_⟩
  obtain ⟨f, hf, rfl, hoverf⟩ := r.overruns_iff.mp hcode
  rw [hsplit] at hf
  rcases List.mem_append.mp hf with hf | hf
  · have := hpassed f hf
    simp [hoverf] at this
  · rcases List.mem_cons.mp hf with rfl | hf
    · exact le_rfl
    · exact (hafter f hf).le

theorem pairwise_effects : (r.effects p.limitedPackages).Pairwise fun d e => d.name < e.name := by
  have hall : (p.limitedPackages.map fun e => r.delta e.1).Pairwise fun d e => d.name < e.name :=
    List.pairwise_map.mpr p.pairwise_limitedPackages
  exact hall.filter _

theorem mem_effects_iff {d : CountDelta} :
    d ∈ r.effects p.limitedPackages ↔
      ∃ code limit, p.Limits code limit ∧ (r.pendingRise code ≠ 0 ∨ r.attendingRise code ≠ 0) ∧
        d = ⟨packageArea, code, r.pendingRise code, r.attendingRise code⟩ := by
  simp only [effects, List.mem_filter, List.mem_map, Policy.mem_limitedPackages_iff,
    Policy.Limits]
  constructor
  · rintro ⟨⟨e, ⟨hconf, hpos⟩, rfl⟩, hsome⟩
    refine ⟨e.1, e.2.limit, ⟨hpos, e.2, hconf, rfl⟩, ?_, r.delta_eq e.1⟩
    rw [Bool.not_eq_true', Bool.eq_false_iff, ne_eq, isEmpty_delta] at hsome
    exact not_and_or.mp hsome
  · rintro ⟨code, limit, ⟨hpos, conf, hconf, rfl⟩, hsome, rfl⟩
    refine ⟨⟨(code, conf), ⟨hconf, hpos⟩, r.delta_eq code⟩, ?_⟩
    rw [← delta_eq, Bool.not_eq_true', Bool.eq_false_iff, ne_eq, isEmpty_delta]
    exact not_and_or.mpr hsome

/-- The check fails at the first package that is overrun, and else comes to the effects. -/
theorem check_eq (hrows : ∀ e ∈ p.limitedPackages, (t.get? (packageArea, e.1)).isSome) :
    r.check p t =
      match p.limitedPackages.find? (r.overrunsAt t) with
      | some e => .error (.overrun e.1)
      | none => .ok (r.effects p.limitedPackages) := r.deltasOn_eq hrows

/-- What requests do with the check before they store anything. -/
def ask (p : Policy) : Desk (List CountDelta) := do
  Desk.require (r.check p (← Desk.store).counts)

theorem ask_of_check (o : Office) :
    (r.ask p).answer o = r.check p o.store.counts ∧ (r.ask p).after o = o :=
  Desk.Ends.answer_after (R := fun answer o' => answer = r.check p o.store.counts ∧ o' = o)
    (Desk.ends_bind (Desk.ends_store
      (Desk.ends_require (fun _ h => ⟨h.symm, rfl⟩) fun _ h => ⟨h.symm, rfl⟩)))

end Reallocation

/-- Where every package with a limit has a row, a request is accepted exactly if every package of
which it takes more places has room for them. It then comes to its effects on the packages with a
limit of which places change, in the order of the codes; else it is refused with the least code of
those that are overrun. Nothing is stored, and a request that takes no more places is accepted. -/
theorem limits_accept_what_fits {p : Policy} {o : Office} (r : Reallocation)
    (hrows : ∀ code ∈ p.limitedPackages.map (·.1),
      (o.store.counts.get? (packageArea, code)).isSome) :
    (r.ask p).after o = o ∧
    ((∃ ds, (r.ask p).answer o = .ok ds) ↔
      ∀ code limit, p.Limits code limit → 0 < r.rise code →
        o.store.counts.taken code + r.rise code ≤ limit) ∧
    (∀ ds, (r.ask p).answer o = .ok ds →
      (ds.Pairwise fun d e => d.name < e.name) ∧
        ∀ d, d ∈ ds ↔ ∃ code limit, p.Limits code limit ∧
          (r.pendingRise code ≠ 0 ∨ r.attendingRise code ≠ 0) ∧
            d = ⟨packageArea, code, r.pendingRise code, r.attendingRise code⟩) ∧
    (∀ e, (r.ask p).answer o = .error e ↔
      ∃ code, e = .overrun code ∧ IsLeast {code | r.Overruns code p o.store.counts} code) ∧
    ((∀ code limit, p.Limits code limit → r.rise code ≤ 0) →
      ∃ ds, (r.ask p).answer o = .ok ds) := by
  obtain ⟨hanswer, hafter⟩ := r.ask_of_check (p := p) o
  have hlimited : ∀ e ∈ p.limitedPackages,
      (o.store.counts.get? (packageArea, e.1)).isSome :=
    fun e he => hrows e.1 (List.mem_map_of_mem he)
  have hroom : (∀ code limit, p.Limits code limit → 0 < r.rise code →
      o.store.counts.taken code + r.rise code ≤ limit) ↔
      ¬ ∃ code, r.Overruns code p o.store.counts := by
    simp only [Reallocation.Overruns, not_exists, not_and, not_lt]
  rw [hanswer, r.check_eq hlimited, hroom]
  refine ⟨hafter, ?_⟩
  cases hfind : p.limitedPackages.find? (r.overrunsAt o.store.counts) with
  | some e =>
    have hleast := r.isLeast_of_find? hfind
    refine ⟨?_, ?_, fun f => ⟨?_, ?_⟩, fun hfalls => ?_⟩
    · simpa using ⟨e.1, hleast.1⟩
    · rintro ds ⟨⟩
    · rintro ⟨⟩
      exact ⟨e.1, rfl, hleast⟩
    · rintro ⟨code, rfl, hcode⟩
      rw [hcode.unique hleast]
    · obtain ⟨limit, hlimit, hgrows, -⟩ := hleast.1
      exact absurd hgrows (not_lt.mpr (hfalls e.1 limit hlimit))
  | none =>
    have hnone : ¬ ∃ code, r.Overruns code p o.store.counts := by
      rintro ⟨code, hcode⟩
      obtain ⟨e, he, -, hover⟩ := r.overruns_iff.mp hcode
      exact List.find?_eq_none.mp hfind e he hover
    refine ⟨iff_of_true ⟨_, rfl⟩ hnone, ?_, fun e => ⟨?_, ?_⟩, fun _ => ⟨_, rfl⟩⟩
    · rintro ds ⟨⟩
      exact ⟨r.pairwise_effects, fun d => r.mem_effects_iff⟩
    · rintro ⟨⟩
    · rintro ⟨code, -, hcode⟩
      exact absurd ⟨code, hcode.1⟩ hnone

/-- Three packages with a limit, and one without. -/
def stagePolicy : Policy where
  __ := dayPolicy
  packages := .ofList [
    ("stage", ⟨500, .finite false 19 0, 4, 2⟩), ("day", ⟨10000, .finite false 19 0, 2, 1⟩),
    ("art", ⟨2000, .finite false 7 0, 1, 1⟩), ("sponsor", ⟨5000, .finite false 19 0, 0, 1⟩)]

/-- One package is above its limit, another one is full, and of the third one place is left. -/
def crowdedOffice : Office := Office.openingWith
  (.ofList [((packageArea, "art"), ⟨packageArea, "art", 1, 2⟩),
    ((packageArea, "day"), ⟨packageArea, "day", 1, 1⟩),
    ((packageArea, "stage"), ⟨packageArea, "stage", 2, 1⟩)]) newYear

/-- The limits look at the packages by code, not as they are configured. -/
theorem limitedPackages_stagePolicy : stagePolicy.limitedPackages = [
    ("art", ⟨2000, .finite false 7 0, 1, 1⟩), ("day", ⟨10000, .finite false 19 0, 2, 1⟩),
    ("stage", ⟨500, .finite false 19 0, 4, 2⟩)] := by cbv

/-- An approval that takes a full package and two places of another one overruns both, and is
refused with the first of them. The package above its limit, of which it holds no more places than
before, does not count. -/
theorem first_overrun_named :
    let r : Reallocation := ⟨{ fox with packages := .ofList [("stage", 1), ("art", 1)] },
      { fox with packages := .ofList [("stage", 3), ("sponsor", 1), ("day", 1), ("art", 1)] },
      .waiting, .approved⟩
    (∀ code ∈ stagePolicy.limitedPackages.map (·.1),
      (crowdedOffice.store.counts.get? (packageArea, code)).isSome) ∧
      (r.attendingRise "art" = 1 ∧ r.rise "art" = 0) ∧
      IsLeast {code | r.Overruns code stagePolicy crowdedOffice.store.counts} "day" := by
  intro r
  have hrows : ∀ code ∈ stagePolicy.limitedPackages.map (·.1),
      (crowdedOffice.store.counts.get? (packageArea, code)).isSome := by
    rw [limitedPackages_stagePolicy]
    decide +kernel
  have hrefused : (r.ask stagePolicy).answer crowdedOffice = .error (.overrun "day") := by
    rw [(r.ask_of_check crowdedOffice).1, Reallocation.check, allocation,
      limitedPackages_stagePolicy]
    decide +kernel
  obtain ⟨code, hcode, hleast⟩ :=
    ((limits_accept_what_fits r hrows).2.2.2.1 (.overrun "day")).mp hrefused
  obtain rfl := Failure.overrun.inj hcode
  exact ⟨hrows, by decide +kernel, hleast⟩

end Registration
