import Registration.Proofs.Office.Capacity

/-!
# Requests side by side at the limits

A request asks first whether its change of packages fits the limits, and records the effects in a
later step. Between the two, other requests may take their steps: `Rush.turn` is one step of one
request, and a list of turns is one way in which requests interleave. No effect is lost, but
recording does not look at the limit again, so a request that was overtaken by others may bring the
row above it (`oversold_by_overtaking`), but no further than the others have brought it in the
meantime (`capacity_unless_overtaken`).
-/

namespace Registration

/-- The places of a package that its row shows, none without a row. -/
def CountTable.taken (t : CountTable) (code : String) : Int :=
  ((t.get? (packageArea, code)).map Count.total).getD 0

/-! ## Requests and their turns -/

/-- What a request asks of the limits: a record before and after it, and two statuses. -/
structure Reallocation where
  before : Attendee
  after : Attendee
  old : Status
  target : Status

namespace Reallocation

/-- What a registration asks. -/
def ofRegistration (a : Attendee) : Reallocation := ⟨{ a with packages := .empty }, a, .new, .new⟩

/-- What a change of status asks. -/
def ofStatus (a : Attendee) (old target : Status) : Reallocation := ⟨a, a, old, target⟩

/-- The effects of the request on the counts, or its refusal. -/
def check (r : Reallocation) (p : Policy) (t : CountTable) : Except Failure (List CountDelta) :=
  allocation p t r.before r.after r.old r.target

/-- The effect of the request on the row of a package. -/
def delta (r : Reallocation) (code : String) : CountDelta :=
  packageDelta code (r.before.packageCount code) (r.after.packageCount code) r.old r.target

end Reallocation

/-- How far a request has come. -/
inductive Stage where
  | unchecked
  /-- The check has passed and come to these effects. -/
  | cleared (deltas : List CountDelta)
  /-- The request was refused, or its turn to record is past. -/
  | finished
  deriving DecidableEq

/-- An office and the requests that are under way in it. -/
structure Rush (ι : Type) where
  office : Office
  stage : ι → Stage

namespace Rush

variable {ι : Type} [DecidableEq ι] (p : Policy) (asked : ι → Reallocation)

/-- One step of one request: the check, or, where it has passed, the recording. -/
def turn (r : Rush ι) (i : ι) : Rush ι :=
  match r.stage i with
  | .unchecked =>
    match (asked i).check p r.office.store.counts with
    | .ok deltas => ⟨r.office, Function.update r.stage i (.cleared deltas)⟩
    | .error _ => ⟨r.office, Function.update r.stage i .finished⟩
  | .cleared deltas => ⟨(Desk.recordAll deltas).after r.office, Function.update r.stage i .finished⟩
  | .finished => r

/-- What requests that are all unchecked come to by turns. -/
def afterTurns (o : Office) (turns : List ι) : Rush ι :=
  turns.foldl (turn p asked) ⟨o, fun _ => .unchecked⟩

/-- The counts after turns. -/
def counts (o : Office) (turns : List ι) : CountTable :=
  (afterTurns p asked o turns).office.store.counts

/-- The turns before the check of a request, which is its first turn. -/
def beforeCheck (turns : List ι) (i : ι) : List ι := turns.takeWhile (· ≠ i)

/-- After the turns `before` the request, which has been checked, has its turn to record. -/
structure Recording (o : Office) (turns : List ι) (i : ι) (before : List ι) : Prop where
  next : before ++ [i] <+: turns
  cleared : ∃ deltas, (afterTurns p asked o before).stage i = .cleared deltas

/-! ## What a turn does -/

/-- The ways in which a turn ends. -/
inductive TurnEnd (r : Rush ι) (i : ι) : Rush ι → Prop
  | cleared {deltas : List CountDelta} (hstage : r.stage i = .unchecked)
    (hfits : (asked i).check p r.office.store.counts = .ok deltas) :
    TurnEnd r i ⟨r.office, Function.update r.stage i (.cleared deltas)⟩
  | refused (hstage : r.stage i = .unchecked) :
    TurnEnd r i ⟨r.office, Function.update r.stage i .finished⟩
  /-- Recording stops at a missing row. -/
  | recorded {deltas done : List CountDelta} (hstage : r.stage i = .cleared deltas)
    (hpart : done <+: deltas) (hall : r.office.store.counts.Covers deltas → done = deltas) :
    TurnEnd r i ⟨r.office.withCounts (r.office.store.counts.applyAll done),
      Function.update r.stage i .finished⟩
  | idle (hstage : r.stage i = .finished) : TurnEnd r i r

theorem turnEnd (r : Rush ι) (i : ι) : TurnEnd p asked r i (r.turn p asked i) := by
  unfold turn
  cases hstage : r.stage i with
  | unchecked =>
    cases hfits : (asked i).check p r.office.store.counts with
    | ok deltas => exact .cleared hstage hfits
    | error e => exact .refused hstage
  | finished => exact .idle hstage
  | cleared deltas =>
    have hends : (Desk.recordAll deltas).Ends r.office
        (fun _ o' => ∃ done, done <+: deltas ∧
          (r.office.store.counts.Covers deltas → done = deltas) ∧
            o' = r.office.withCounts (r.office.store.counts.applyAll done))
        fun _ o' => ∃ done, done <+: deltas ∧
          (r.office.store.counts.Covers deltas → done = deltas) ∧
            o' = r.office.withCounts (r.office.store.counts.applyAll done) := by
      refine Desk.ends_recordAll.mono (fun _ o' h => ?_) fun _ o' h => ?_
      · exact ⟨deltas, List.prefix_refl _, fun _ => rfl, h.2⟩
      · obtain ⟨hmissing, -, done, hdone, ho'⟩ := h
        exact ⟨done, hdone, fun hall => absurd hall hmissing, ho'⟩
    obtain ⟨done, hpart, hall, hafter⟩ := hends.after_of
    dsimp only
    rw [hafter]
    exact .recorded hstage hpart hall

theorem turnEnd_afterTurns (o : Office) (turns : List ι) (i : ι) :
    TurnEnd p asked (afterTurns p asked o turns) i (afterTurns p asked o (turns ++ [i])) := by
  rw [afterTurns, afterTurns, List.foldl_append]
  exact turnEnd p asked _ i

variable {p asked}

/-- A turn concerns the stage of its own request only. -/
theorem TurnEnd.stage_of_ne {r r' : Rush ι} {i j : ι} (h : TurnEnd p asked r i r') (hne : j ≠ i) :
    r'.stage j = r.stage j := by
  cases h with
  | cleared _ _ => exact Function.update_of_ne hne ..
  | refused _ => exact Function.update_of_ne hne ..
  | recorded _ _ _ => exact Function.update_of_ne hne ..
  | idle _ => rfl

theorem beforeCheck_concat_of_mem {turns : List ι} {i : ι} (h : i ∈ turns) (j : ι) :
    beforeCheck (turns ++ [j]) i = beforeCheck turns i := by
  have hstops : (turns.takeWhile (· ≠ i)).length ≠ turns.length := fun hlength => by
    have hall := List.takeWhile_eq_self_iff.mp ((List.takeWhile_prefix _).eq_of_length hlength)
    simpa using hall i h
  rw [beforeCheck, List.takeWhile_append, if_neg hstops, beforeCheck]

theorem beforeCheck_concat_of_not_mem {turns : List ι} {i : ι} (h : i ∉ turns) :
    beforeCheck (turns ++ [i]) i = turns := by
  have hall : ∀ j ∈ turns, decide (j ≠ i) = true := fun j hj =>
    decide_eq_true fun hji => h (hji ▸ hj)
  rw [beforeCheck, List.takeWhile_append_of_pos hall]
  simp

/-- A request that is unchecked has had no turn; one that was cleared has passed its check in its
first turn. -/
theorem stage_afterTurns (o : Office) (turns : List ι) (i : ι) :
    ((afterTurns p asked o turns).stage i = .unchecked → i ∉ turns) ∧
      ∀ deltas, (afterTurns p asked o turns).stage i = .cleared deltas →
        i ∈ turns ∧ (asked i).check p (counts p asked o (beforeCheck turns i)) = .ok deltas := by
  induction turns using List.reverseRecOn with
  | nil => exact ⟨fun _ => List.not_mem_nil, fun _ h => by cases h⟩
  | append_singleton turns j ih =>
    have hend := turnEnd_afterTurns p asked o turns j
    by_cases hj : i = j
    · -- of the turns of the request itself only the first one leaves it cleared
      subst hj
      generalize afterTurns p asked o (turns ++ [i]) = r' at hend
      cases hend with
      | @cleared deltas hstage hfits =>
        refine ⟨fun h => by simp at h, fun deltas' h => ⟨by simp, ?_⟩⟩
        obtain rfl : deltas = deltas' := by simpa using h
        rw [beforeCheck_concat_of_not_mem (ih.1 hstage)]
        exact hfits
      | refused hstage => simp
      | recorded hstage hpart hall => simp
      | idle hstage => simp [hstage]
    · rw [hend.stage_of_ne hj]
      refine ⟨fun h => by simpa [hj] using ih.1 h, fun deltas h => ?_⟩
      obtain ⟨hmem, hfits⟩ := ih.2 deltas h
      exact ⟨List.mem_append_left [j] hmem, by rwa [beforeCheck_concat_of_mem hmem]⟩

theorem Recording.mono {o : Office} {turns turns' : List ι} {i : ι} {before : List ι}
    (h : Recording p asked o turns i before) (hturns : turns <+: turns') :
    Recording p asked o turns' i before :=
  ⟨h.next.trans hturns, h.cleared⟩

variable (p asked) in
/-- A turn leaves the counts, or it is one to record. -/
theorem counts_concat (o : Office) (turns : List ι) (i : ι) :
    counts p asked o (turns ++ [i]) = counts p asked o turns ∨
      Recording p asked o (turns ++ [i]) i turns := by
  have hend := turnEnd_afterTurns p asked o turns i
  unfold counts
  generalize afterTurns p asked o (turns ++ [i]) = r' at hend
  cases hend with
  | cleared hstage hfits => exact .inl rfl
  | refused hstage => exact .inl rfl
  | idle hstage => exact .inl rfl
  | @recorded deltas done hstage hpart hall =>
    exact .inr ⟨List.prefix_refl _, deltas, hstage⟩

/-- A turn to record applies the effects that the check has come to, all of them where they have
rows. -/
theorem Recording.counts_eq {o : Office} {turns : List ι} {i : ι} {before : List ι}
    (h : Recording p asked o turns i before) :
    ∃ deltas done, (asked i).check p (counts p asked o (beforeCheck before i)) = .ok deltas ∧
      done <+: deltas ∧ ((counts p asked o before).Covers deltas → done = deltas) ∧
      counts p asked o (before ++ [i]) = (counts p asked o before).applyAll done := by
  obtain ⟨deltas, hcleared⟩ := h.cleared
  have hfits := ((stage_afterTurns o before i).2 deltas hcleared).2
  have hend := turnEnd_afterTurns p asked o before i
  generalize hafter : afterTurns p asked o (before ++ [i]) = r' at hend
  cases hend with
  | cleared hstage => cases hstage.symm.trans hcleared
  | refused hstage => cases hstage.symm.trans hcleared
  | idle hstage => cases hstage.symm.trans hcleared
  | @recorded deltas' done hstage hpart hall =>
    obtain rfl := Stage.cleared.inj (hstage.symm.trans hcleared)
    exact ⟨deltas', done, hfits, hpart, hall, by rw [counts, hafter]; rfl⟩

/-! ## The row of a package -/

variable {o : Office} {code : String}

variable (p asked) in
/-- Turns neither make nor remove a row. -/
theorem isSome_counts (turns : List ι) (key : String × String) :
    ((counts p asked o turns).get? key).isSome = (o.store.counts.get? key).isSome := by
  induction turns using List.reverseRecOn with
  | nil => rfl
  | append_singleton turns i ih =>
    rcases counts_concat p asked o turns i with hsame | hrec
    · rw [hsame, ih]
    · obtain ⟨deltas, done, -, -, -, hadded⟩ := hrec.counts_eq
      rw [hadded, CountTable.get?_applyAll, Option.isSome_map, ih]

end Rush

theorem CountTable.taken_of_get? {t : CountTable} {code : String} {row : Count}
    (h : t.get? (packageArea, code) = some row) : t.taken code = row.total := by
  simp [taken, h]

/-- An effect on the row of a package adds its growth to the places taken. -/
theorem CountTable.taken_eq_add {t u : CountTable} {code : String} {d : CountDelta}
    (hrow : (t.get? (packageArea, code)).isSome)
    (h : u.get? (packageArea, code) = (t.get? (packageArea, code)).map fun c => c.apply d) :
    u.taken code = t.taken code + d.growth := by
  obtain ⟨c, hc⟩ := Option.isSome_iff_exists.mp hrow
  rw [hc, Option.map_some] at h
  rw [taken_of_get? h, taken_of_get? hc, Count.total_apply]

namespace Rush

variable {ι : Type} [DecidableEq ι] {p : Policy} {asked : ι → Reallocation} {o : Office}
  {code : String} {conf : PackageConfig}

/-- A turn leaves the places taken, or it is one to record and adds the growth of the request. -/
theorem taken_concat (hcode : code ∈ p.limitedPackages.map (·.1))
    (hrow : (o.store.counts.get? (packageArea, code)).isSome) (turns : List ι) (i : ι) :
    (counts p asked o (turns ++ [i])).taken code = (counts p asked o turns).taken code ∨
      Recording p asked o (turns ++ [i]) i turns ∧
        (counts p asked o (turns ++ [i])).taken code =
          (counts p asked o turns).taken code + ((asked i).delta code).growth := by
  rcases counts_concat p asked o turns i with hsame | hrec
  · exact .inl (by rw [hsame])
  · obtain ⟨deltas, done, hfits, hpart, -, hadded⟩ := hrec.counts_eq
    rw [hadded]
    rw [← isSome_counts p asked turns] at hrow
    rcases get?_applyAll_of_prefix hfits hpart hcode (counts p asked o turns) with hkept | hgot
    · exact .inl (by rw [CountTable.taken, hkept, CountTable.taken])
    · exact .inr ⟨hrec, CountTable.taken_eq_add hrow hgot⟩

/-- Where every limited package has a row, every turn to record adds the growth of its request. -/
theorem Recording.taken_eq_add {turns before : List ι} {i : ι}
    (h : Recording p asked o turns i before) (hcode : code ∈ p.limitedPackages.map (·.1))
    (hrows : ∀ code ∈ p.limitedPackages.map (·.1),
      (o.store.counts.get? (packageArea, code)).isSome) :
    (counts p asked o (before ++ [i])).taken code =
      (counts p asked o before).taken code + ((asked i).delta code).growth := by
  obtain ⟨deltas, done, hfits, -, hall, hadded⟩ := h.counts_eq
  simp only [← isSome_counts p asked before] at hrows
  rw [hadded, hall (covers_of_allocation hfits hrows)]
  exact CountTable.taken_eq_add (hrows code hcode) (get?_applyAll_deltas hfits hcode _)

/-- A request that grows found room for its growth when it was checked. -/
theorem Recording.room {turns before : List ι} {i : ι} (h : Recording p asked o turns i before)
    (hlimited : (code, conf) ∈ p.limitedPackages)
    (hrow : (o.store.counts.get? (packageArea, code)).isSome)
    (hgrows : 0 < ((asked i).delta code).growth) :
    (counts p asked o (beforeCheck before i)).taken code + ((asked i).delta code).growth ≤
      conf.limit := by
  obtain ⟨deltas, done, hfits, -⟩ := h.counts_eq
  rw [← isSome_counts p asked (beforeCheck before i)] at hrow
  obtain ⟨row, hrow⟩ := Option.isSome_iff_exists.mp hrow
  rw [CountTable.taken_of_get? hrow]
  exact total_le_of_deltasOn hfits hlimited hrow hgrows

/-- A row that starts below a bound, and below which every request that grows records, stays below
it. -/
theorem taken_le {bound : Int} (hcode : code ∈ p.limitedPackages.map (·.1))
    (hrow : (o.store.counts.get? (packageArea, code)).isSome)
    (hstart : o.store.counts.taken code ≤ bound) (turns : List ι)
    (hgrowing : ∀ i before, Recording p asked o turns i before →
      0 < ((asked i).delta code).growth →
        (counts p asked o before).taken code + ((asked i).delta code).growth ≤ bound) :
    (counts p asked o turns).taken code ≤ bound := by
  induction turns using List.reverseRecOn with
  | nil => exact hstart
  | append_singleton turns i ih =>
    have hbefore := ih fun j before h =>
      hgrowing j before (h.mono (List.prefix_append turns [i]))
    rcases taken_concat hcode hrow turns i with hsame | ⟨hrec, hadded⟩
    · rw [hsame]
      exact hbefore
    · rw [hadded]
      by_cases hgrows : 0 < ((asked i).delta code).growth
      · exact hgrowing i turns hrec hgrows
      · omega

end Rush

/-- Let a row start within its limit, and let any requests take turns. Where no request that grows
is overtaken by more than some rise of the row between its check and its recording, the row never
exceeds its limit by more than that rise. And where every limited package has a row, the row stays
within its limit exactly if every request that grows still finds room when it records. -/
theorem capacity_unless_overtaken {ι : Type} [DecidableEq ι] {p : Policy} {asked : ι → Reallocation}
    {o : Office} {code : String} {conf : PackageConfig}
    (hlimited : (code, conf) ∈ p.limitedPackages) {row : Count}
    (hrow : o.store.counts.get? (packageArea, code) = some row)
    (hroom : row.pending + row.attending ≤ conf.limit) (turns : List ι) :
    (∀ rise : Int, 0 ≤ rise →
      (∀ i before, Rush.Recording p asked o turns i before → 0 < ((asked i).delta code).growth →
        (Rush.counts p asked o before).taken code ≤
          (Rush.counts p asked o (Rush.beforeCheck before i)).taken code + rise) →
      ∀ done, done <+: turns → ∃ row',
        (Rush.counts p asked o done).get? (packageArea, code) = some row' ∧
          row'.pending + row'.attending ≤ conf.limit + rise) ∧
    ((∀ code ∈ p.limitedPackages.map (·.1), (o.store.counts.get? (packageArea, code)).isSome) →
      ((∀ done, done <+: turns → (Rush.counts p asked o done).taken code ≤ conf.limit) ↔
        ∀ i before, Rush.Recording p asked o turns i before →
          0 < ((asked i).delta code).growth →
            (Rush.counts p asked o before).taken code + ((asked i).delta code).growth ≤
              conf.limit)) := by
  have hcode : code ∈ p.limitedPackages.map (·.1) := List.mem_map_of_mem hlimited
  have hsome : (o.store.counts.get? (packageArea, code)).isSome := by rw [hrow]; rfl
  have hstart : o.store.counts.taken code ≤ conf.limit := by
    rw [CountTable.taken_of_get? hrow]
    exact hroom
  refine ⟨fun rise hrise hovertaken done hdone => ?_,
    fun hrows => ⟨fun hwithin i before hrec _ => ?_, fun hfinds done hdone => ?_⟩⟩
  · have hbound : (Rush.counts p asked o done).taken code ≤ conf.limit + rise :=
      Rush.taken_le hcode hsome (by omega) done fun i before hrec hgrows => by
        have hcheck := hrec.room hlimited hsome hgrows
        have hrisen := hovertaken i before (hrec.mono hdone) hgrows
        omega
    rw [← Rush.isSome_counts p asked done] at hsome
    obtain ⟨row', hrow'⟩ := Option.isSome_iff_exists.mp hsome
    rw [CountTable.taken_of_get? hrow'] at hbound
    exact ⟨row', hrow', hbound⟩
  · rw [← hrec.taken_eq_add hcode hrows]
    exact hwithin _ hrec.next
  · exact Rush.taken_le hcode hsome hstart done fun i before hrec hgrows =>
      hfinds i before (hrec.mono hdone) hgrows

/-- One of two places is taken. -/
def lastPlace : Office := Office.openingWith
  (.ofList [((packageArea, "day"), ⟨packageArea, "day", 1, 0⟩)]) newYear

/-- The last place is asked for, and before it is given the other one is released. -/
theorem capacity_beside_release :
    let asked : Bool → Reallocation := fun i =>
      if i then .ofStatus hare .new .cancelled else .ofRegistration fox
    let turns := [false, true, true, false]
    ∃ row, (Rush.counts dayPolicy asked lastPlace turns).get? (packageArea, "day") = some row ∧
      row.pending + row.attending ≤ 2 + 0 := by
  intro asked turns
  have hlimited : ("day", ⟨10000, .finite false 19 0, 2, 1⟩) ∈ dayPolicy.limitedPackages := by
    decide +kernel
  have hrow : lastPlace.store.counts.get? (packageArea, "day") =
      some ⟨packageArea, "day", 1, 0⟩ := by decide +kernel
  have hkept : ∀ i, ∀ before ∈ turns.inits,
      (Rush.counts dayPolicy asked lastPlace before).taken "day" ≤
        (Rush.counts dayPolicy asked lastPlace (Rush.beforeCheck before i)).taken "day" + 0 := by
    decide +kernel
  refine (capacity_unless_overtaken hlimited hrow (by decide) turns).1 0 le_rfl
    (fun i before hrec _ => hkept i before ?_) turns (List.prefix_refl _)
  exact (List.mem_inits before turns).mpr ((List.prefix_append before [i]).trans hrec.next)

/-- Two attendees ask for the last place before either of them records, and both get it. -/
theorem oversold_by_overtaking :
    let asked : Bool → Reallocation := fun i =>
      .ofRegistration (if i then { hare with id := 2 } else fox)
    let turns := [false, true, false, true]
    (asked false).after.id ≠ (asked true).after.id ∧
      ("day", ⟨10000, .finite false 19 0, 2, 1⟩) ∈ dayPolicy.limitedPackages ∧
      lastPlace.store.counts.get? (packageArea, "day") = some ⟨packageArea, "day", 1, 0⟩ ∧
      Rush.Recording dayPolicy asked lastPlace turns false [false, true] ∧
      Rush.Recording dayPolicy asked lastPlace turns true [false, true, false] ∧
      ∃ row, (Rush.counts dayPolicy asked lastPlace turns).get? (packageArea, "day") = some row ∧
        2 < row.pending + row.attending := by
  intro asked turns
  refine ⟨by decide, by decide +kernel, by decide +kernel, ⟨⟨[true], rfl⟩, ?_⟩, ⟨⟨[], rfl⟩, ?_⟩,
    ⟨packageArea, "day", 3, 0⟩, by decide +kernel, by decide⟩
  · exact ⟨[⟨packageArea, "day", 1, 0⟩], by decide +kernel⟩
  · exact ⟨[⟨packageArea, "day", 1, 0⟩], by decide +kernel⟩

end Registration
