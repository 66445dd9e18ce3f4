import Mathlib.Data.List.Perm.Basic
import Registration.Office.Allocation
import Registration.Proofs.Office.Logic

/-!
# What recording does

Recording a list of effects adds to each row the effects that name it and leaves the others
(`get?_applyAll`). The effects of a change of packages name every limited package at most once, so
recording them applies to the row of a package exactly the effect on that package
(`get?_applyAll_deltas`).
-/

namespace Registration

namespace Count

/-- The row after a list of changes. -/
def applyAll (c : Count) (ds : List CountDelta) : Count := ds.foldl apply c

/-- The order of changes does not matter. -/
instance : RightCommutative apply :=
  ⟨fun c d e => by simp only [apply]; congr 1 <;> omega⟩

theorem apply_of_isEmpty {c : Count} {d : CountDelta} (h : d.isEmpty = true) : c.apply d = c := by
  simp only [CountDelta.isEmpty, Bool.and_eq_true, decide_eq_true_eq] at h
  simp [apply, h.1, h.2]

end Count

namespace CountTable

/-- The table after a change; a missing row stays missing. -/
def apply (t : CountTable) (d : CountDelta) : CountTable :=
  match t.get? d.key with
  | some c => t.insert d.key (c.apply d)
  | none => t

/-- The table after a list of changes. -/
def applyAll (t : CountTable) (ds : List CountDelta) : CountTable := ds.foldl apply t

theorem get?_apply (t : CountTable) (d : CountDelta) (key : String × String) :
    (t.apply d).get? key =
      (t.get? key).map fun c => if d.key = key then c.apply d else c := by
  unfold apply
  cases h : t.get? d.key with
  | none =>
    by_cases hkey : d.key = key
    · rw [← hkey, h]
      rfl
    · simp [hkey]
  | some c =>
    by_cases hkey : d.key = key
    · simp [← hkey, h]
    · simp [hkey]

/-- Each row gets the changes that name it. -/
theorem get?_applyAll (t : CountTable) (ds : List CountDelta) (key : String × String) :
    (t.applyAll ds).get? key =
      (t.get? key).map fun c => c.applyAll (ds.filter fun d => d.key = key) := by
  induction ds generalizing t with
  | nil => simp [applyAll, Count.applyAll]
  | cons d rest ih =>
    have hstep : t.applyAll (d :: rest) = (t.apply d).applyAll rest := rfl
    rw [hstep, ih, get?_apply, Option.map_map]
    congr 1
    funext c
    by_cases hkey : d.key = key <;> simp [hkey, Count.applyAll]

theorem applyAll_append (t : CountTable) (ds es : List CountDelta) :
    t.applyAll (ds ++ es) = (t.applyAll ds).applyAll es := List.foldl_append

theorem get?_applyAll_of_perm {ds es : List CountDelta} (h : ds.Perm es) (t : CountTable)
    (key : String × String) : (t.applyAll ds).get? key = (t.applyAll es).get? key := by
  rw [get?_applyAll, get?_applyAll]
  congr 1
  funext c
  exact (h.filter _).foldl_eq c

theorem add_of_get? {t : CountTable} {d : CountDelta} {c : Count} (h : t.get? d.key = some c) :
    t.add d = .ok (c.apply d, t.apply d) := by
  have hget : t.get d.area d.name = .ok c := get_eq_ok_iff.mpr h
  rw [add, hget, apply, h]
  rfl

theorem add_of_get?_none {t : CountTable} {d : CountDelta} (h : t.get? d.key = none) :
    t.add d = .error (.countMissing d.area d.name) := by
  unfold CountDelta.key at h
  simp [add, get, h, bind, Except.bind]

/-- Every change names a row. -/
def Covers (t : CountTable) (ds : List CountDelta) : Prop := ∀ d ∈ ds, (t.get? d.key).isSome

theorem covers_apply {t : CountTable} {d : CountDelta} {ds : List CountDelta} :
    (t.apply d).Covers ds ↔ t.Covers ds := by
  simp [Covers, get?_apply]

end CountTable

/-- The office with other counts. -/
def Office.withCounts (o : Office) (t : CountTable) : Office :=
  { o with store := { o.store with counts := t } }

namespace Desk

variable {o : Office}

theorem ends_record {d : CountDelta} :
    (record d).Ends o
      (fun _ o' => (o.store.counts.get? d.key).isSome ∧
        o' = o.withCounts (o.store.counts.apply d))
      fun e o' => o.store.counts.get? d.key = none ∧ e = .countMissing d.area d.name ∧ o' = o := by
  unfold record
  refine ends_bind (ends_store (ends_bind (ends_require (fun r hr => ?_) fun e he => ?_)))
  · cases h : o.store.counts.get? d.key with
    | none => cases (CountTable.add_of_get?_none h).symm.trans hr
    | some c =>
      obtain rfl := Except.ok.inj ((CountTable.add_of_get? h).symm.trans hr)
      exact ends_bind (ends_modifyStore (ends_pure ⟨rfl, rfl⟩))
  · cases h : o.store.counts.get? d.key with
    | none =>
      obtain rfl := Except.error.inj ((CountTable.add_of_get?_none h).symm.trans he)
      exact ⟨rfl, rfl, rfl⟩
    | some c => cases (CountTable.add_of_get? h).symm.trans he

/-- Recording applies all effects if every row is there; else it stops at a missing row, with the
effects before it applied. -/
theorem ends_recordAll {ds : List CountDelta} :
    (recordAll ds).Ends o
      (fun _ o' => o.store.counts.Covers ds ∧ o' = o.withCounts (o.store.counts.applyAll ds))
      fun e o' => ¬ o.store.counts.Covers ds ∧ (∃ area name, e = .countMissing area name) ∧
        ∃ done, done <+: ds ∧ o' = o.withCounts (o.store.counts.applyAll done) := by
  induction ds generalizing o with
  | nil => exact ends_pure ⟨by simp [CountTable.Covers], rfl⟩
  | cons d rest ih =>
    refine ends_bind (ends_record.mono (fun _ o₁ h => ?_) fun e o₁ h => ?_)
    · obtain ⟨hrow, rfl⟩ := h
      have hcovers : (o.store.counts.apply d).Covers rest ↔ o.store.counts.Covers (d :: rest) := by
        rw [CountTable.covers_apply]
        simp [CountTable.Covers, hrow]
      refine ends_bind (ih.mono (fun _ o₂ h => ends_pure ?_) fun e o₂ h => ?_)
      · exact ⟨hcovers.mp h.1, h.2⟩
      · obtain ⟨hmissing, he, done, hdone, rfl⟩ := h
        exact ⟨fun hall => hmissing (hcovers.mpr hall), he, d :: done,
          List.cons_prefix_cons.mpr ⟨rfl, hdone⟩, rfl⟩
    · obtain ⟨hnone, rfl, rfl⟩ := h
      refine ⟨fun hall => ?_, ⟨_, _, rfl⟩, [], List.nil_prefix, rfl⟩
      have := hall d List.mem_cons_self
      simp [hnone] at this

end Desk

/-! ## The effects of a change of packages -/

variable {t : CountTable} {before after : Attendee} {old target : Status}

theorem deltasOn_cons {code : String} {conf : PackageConfig}
    {rest : List (String × PackageConfig)} {ds : List CountDelta}
    (h : deltasOn t before after old target ((code, conf) :: rest) = .ok ds) :
    let d := packageDelta code (before.packageCount code) (after.packageCount code) old target
    (d.isEmpty = true ∧ deltasOn t before after old target rest = .ok ds) ∨
      d.isEmpty = false ∧ checkLimit t conf d = .ok () ∧
        ∃ es, deltasOn t before after old target rest = .ok es ∧ ds = d :: es := by
  intro d
  unfold deltasOn at h
  dsimp only at h
  split at h
  · rename_i hempty
    exact .inl ⟨hempty, h⟩
  · rename_i hempty
    obtain ⟨_, hlimit, h⟩ := bind_eq_ok_iff.mp h
    obtain ⟨es, hes, h⟩ := bind_eq_ok_iff.mp h
    exact .inr ⟨Bool.eq_false_iff.mpr hempty, hlimit, es, hes, (pure_eq_ok_iff.mp h).symm⟩

/-- The rows decide whether a change of packages is refused, but not what its effects are. -/
theorem deltasOn_unique {u : CountTable} {limited : List (String × PackageConfig)}
    {ds es : List CountDelta} (hds : deltasOn t before after old target limited = .ok ds)
    (hes : deltasOn u before after old target limited = .ok es) : ds = es := by
  induction limited generalizing ds es with
  | nil => exact Except.ok.inj (hds.symm.trans hes)
  | cons e rest ih =>
    rcases deltasOn_cons hds with ⟨hempty, hds⟩ | ⟨hsome, -, ds', hds', rfl⟩ <;>
      rcases deltasOn_cons hes with ⟨hempty', hes⟩ | ⟨hsome', -, es', hes', rfl⟩
    · exact ih hds hes
    · cases hsome'.symm.trans hempty
    · cases hsome.symm.trans hempty'
    · rw [ih hds' hes']

/-- Every effect is on a package of the list. -/
theorem key_of_mem_deltasOn {limited : List (String × PackageConfig)} {ds : List CountDelta}
    (h : deltasOn t before after old target limited = .ok ds) {d : CountDelta} (hd : d ∈ ds) :
    ∃ e ∈ limited, d.key = (packageArea, e.1) := by
  induction limited generalizing ds with
  | nil =>
    obtain rfl := pure_eq_ok_iff.mp h
    cases hd
  | cons e rest ih =>
    rcases deltasOn_cons h with ⟨-, hrest⟩ | ⟨-, -, es, hrest, rfl⟩
    · obtain ⟨f, hf, hkey⟩ := ih hrest hd
      exact ⟨f, by simp [hf], hkey⟩
    · rcases List.mem_cons.mp hd with rfl | hd
      · exact ⟨e, by simp, rfl⟩
      · obtain ⟨f, hf, hkey⟩ := ih hrest hd
        exact ⟨f, by simp [hf], hkey⟩

/-- Packages off the list are not affected. -/
theorem filter_deltasOn_of_not_mem {limited : List (String × PackageConfig)} {ds : List CountDelta}
    (h : deltasOn t before after old target limited = .ok ds) {code : String}
    (hcode : code ∉ limited.map (·.1)) :
    (ds.filter fun d => d.key = (packageArea, code)) = [] := by
  refine List.filter_eq_nil_iff.mpr fun d hd hkey => ?_
  obtain ⟨e, he, hd⟩ := key_of_mem_deltasOn h hd
  have hsame : e.1 = code := (Prod.ext_iff.mp (hd.symm.trans (of_decide_eq_true hkey))).2
  exact hcode (hsame ▸ List.mem_map_of_mem he)

/-- A package on the list is affected once, or not at all where the effect on it is empty. -/
theorem filter_deltasOn {limited : List (String × PackageConfig)} {ds : List CountDelta}
    (hdistinct : (limited.map (·.1)).Nodup)
    (h : deltasOn t before after old target limited = .ok ds) {code : String}
    (hcode : code ∈ limited.map (·.1)) :
    let d := packageDelta code (before.packageCount code) (after.packageCount code) old target
    (ds.filter fun e => e.key = (packageArea, code)) = if d.isEmpty then [] else [d] := by
  induction limited generalizing ds with
  | nil => cases hcode
  | cons e rest ih =>
    intro d
    obtain ⟨hnew, hrest⟩ := List.nodup_cons.mp hdistinct
    rcases List.mem_cons.mp hcode with rfl | hcode
    · rcases deltasOn_cons h with ⟨hempty, hes⟩ | ⟨hsome, -, es, hes, rfl⟩
      · rw [filter_deltasOn_of_not_mem hes hnew, if_pos hempty]
      · have hkeep : d.key = (packageArea, e.1) := rfl
        rw [List.filter_cons_of_pos (by simpa using hkeep), filter_deltasOn_of_not_mem hes hnew,
          if_neg (by simp [d, hsome])]
    · have hne : e.1 ≠ code := by
        rintro rfl
        exact hnew hcode
      rcases deltasOn_cons h with ⟨-, hes⟩ | ⟨-, -, es, hes, rfl⟩
      · exact ih hrest hes hcode
      · have hskip : (packageDelta e.1 (before.packageCount e.1) (after.packageCount e.1) old
            target).key ≠ (packageArea, code) := fun hkey => hne (Prod.ext_iff.mp hkey).2
        rw [List.filter_cons_of_neg (by simpa using hskip)]
        exact ih hrest hes hcode

/-- The row of a package on the list gets the effect on that package. -/
theorem applyAll_deltasOn {limited : List (String × PackageConfig)} {ds : List CountDelta}
    (hdistinct : (limited.map (·.1)).Nodup)
    (h : deltasOn t before after old target limited = .ok ds) {code : String}
    (hcode : code ∈ limited.map (·.1)) (c : Count) :
    c.applyAll (ds.filter fun d => d.key = (packageArea, code)) =
      c.apply
        (packageDelta code (before.packageCount code) (after.packageCount code) old target) := by
  rw [filter_deltasOn hdistinct h hcode]
  split
  · rename_i hempty
    exact (Count.apply_of_isEmpty hempty).symm
  · rfl

/-- A change of packages is refused for a limit or for a missing row. -/
theorem error_of_deltasOn {limited : List (String × PackageConfig)} {e : Failure}
    (h : deltasOn t before after old target limited = .error e) :
    (∃ code, e = .overrun code) ∨ ∃ area name, e = .countMissing area name := by
  induction limited with
  | nil => cases h
  | cons c rest ih =>
    unfold deltasOn at h
    dsimp only at h
    split at h
    · exact ih h
    rcases bind_eq_error_iff.mp h with h | ⟨_, -, h⟩
    · unfold checkLimit at h
      split at h
      · rcases bind_eq_error_iff.mp h with h | ⟨row, -, h⟩
        · unfold CountTable.get at h
          split at h
          · cases h
          · exact .inr ⟨_, _, (Except.error.inj h).symm⟩
        · split at h
          · exact .inl ⟨_, (Except.error.inj h).symm⟩
          · cases h
      · cases h
    rcases bind_eq_error_iff.mp h with h | ⟨_, -, h⟩
    · exact ih h
    · cases h

theorem nodup_limitedPackages (p : Policy) : (p.limitedPackages.map (·.1)).Nodup := by
  have hperm := (List.mergeSort_perm (p.packages.entries.filter fun e => 0 < e.2.limit)
    fun a b => decide (a.1 ≤ b.1)).map (·.1)
  exact hperm.nodup_iff.mpr (p.packages.distinct.sublist (List.filter_sublist.map _))

/-- Recording the effects of a change applies to the row of each limited package the effect on that
package. -/
theorem get?_applyAll_deltas {p : Policy} {ds : List CountDelta}
    (h : allocation p t before after old target = .ok ds) {code : String}
    (hcode : code ∈ p.limitedPackages.map (·.1)) (u : CountTable) :
    (u.applyAll ds).get? (packageArea, code) =
      (u.get? (packageArea, code)).map fun c =>
        c.apply
          (packageDelta code (before.packageCount code) (after.packageCount code) old target) := by
  rw [CountTable.get?_applyAll]
  congr 1
  funext c
  exact applyAll_deltasOn (nodup_limitedPackages p) h hcode c

/-- Where recording stops early, the row of a limited package has got the effect on that package or
is as it was. -/
theorem get?_applyAll_of_prefix {p : Policy} {ds done : List CountDelta}
    (h : allocation p t before after old target = .ok ds) (hdone : done <+: ds) {code : String}
    (hcode : code ∈ p.limitedPackages.map (·.1)) (u : CountTable) :
    (u.applyAll done).get? (packageArea, code) = u.get? (packageArea, code) ∨
      (u.applyAll done).get? (packageArea, code) =
        (u.get? (packageArea, code)).map fun c => c.apply
          (packageDelta code (before.packageCount code) (after.packageCount code) old target) := by
  have hpart := hdone.filter fun d => decide (d.key = (packageArea, code))
  rw [filter_deltasOn (nodup_limitedPackages p) h hcode] at hpart
  simp only [CountTable.get?_applyAll]
  split at hpart
  · rw [List.prefix_nil.mp hpart]
    exact .inl Option.map_id'
  · rcases List.prefix_cons_iff.mp hpart with hnone | ⟨rest, hone, hrest⟩
    · rw [hnone]
      exact .inl Option.map_id'
    · rw [hone, List.prefix_nil.mp hrest]
      exact .inr rfl

/-- Where every limited package has a row, the effects of a change can be recorded. -/
theorem covers_of_allocation {p : Policy} {ds : List CountDelta}
    (h : allocation p t before after old target = .ok ds) {u : CountTable}
    (hrows : ∀ code ∈ p.limitedPackages.map (·.1), (u.get? (packageArea, code)).isSome) :
    u.Covers ds := by
  intro d hd
  obtain ⟨e, he, hkey⟩ := key_of_mem_deltasOn h hd
  rw [hkey]
  exact hrows e.1 (List.mem_map_of_mem he)

end Registration
