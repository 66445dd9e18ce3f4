import Registration.Proofs.Dues.Plan
import Registration.Settings.Record

/-!
# Rates of the settings

Settings hold decimals only if they are finite, whether they come from a variable, from the JSON of
the packages or by default. So whatever settings are read, their policy has finite VAT rates
(`finiteRates_of_read`), which is what the dues rely on.
-/

namespace Registration

open Number (Decimal)

theorem Json.isFinite_of_decimalText {s : String} {d : Decimal} (h : decimalText? s = some d) :
    d.isFinite = true := (Option.filter_eq_some_iff.mp h).2

theorem Json.isFinite_of_decimal {layout : Bool → Nat → Int → Decimal} {v : Json} {d : Decimal}
    (h : v.decimal? layout = some d) : d.isFinite = true := by
  cases v with
  | integer n =>
    cases h
    rfl
  | real negative coefficient exponent =>
    rw [decimal?] at h
    exact (Option.filter_eq_some_iff.mp h).2
  | text s => exact isFinite_of_decimalText h
  | _ => cases h

namespace PackageConfig

/-- The rate of a package is what its member says. -/
theorem rate_ofJson (path : String) (ms : List (String × Json)) :
    (ofJson path (.object ms)).Holds fun c =>
      member path ms "vat_percent" (Json.decimal? Decimal.ofReal) (some (.ofInt 19)) =
        .value c.rate := by
  simp only [ofJson, Checked.holds_seq_iff, Checked.holds_map_iff]
  simp only [Checked.Holds]
  intros
  assumption

theorem finiteRate_ofJson (path : String) (v : Json) :
    (ofJson path v).Holds fun c => c.rate.isFinite = true := by
  cases v with
  | object ms =>
    have hmember : (member path ms "vat_percent" (Json.decimal? Decimal.ofReal)
        (some (.ofInt 19))).Holds fun rate => rate.isFinite = true := by
      refine Checked.holds_ofOption fun rate h => ?_
      cases hvat : Json.lookup "vat_percent" ms with
      | some w => exact Json.isFinite_of_decimal (by simpa [hvat] using h)
      | none =>
        obtain rfl : Decimal.ofInt 19 = rate := by simpa [hvat] using h
        rfl
    exact (rate_ofJson path ms).mono fun c => hmember c.rate
  | _ => exact nofun

theorem finiteRates_tableOfJson (path : String) (v : Json) :
    (tableOfJson path v).Holds fun t => ∀ e ∈ t.entries, e.2.rate.isFinite = true := by
  cases v with
  | null =>
    rintro t ht
    cases ht
    exact fun e he => nomatch he
  | object ms =>
    refine Checked.holds_map_iff.mpr fun entries hentries e he => ?_
    refine Checked.holds_all (Q := fun e => e.2.rate.isFinite = true) ?_ entries hentries e
      (Table.mem_of_mem_ofList he)
    rintro c hc
    obtain ⟨m, -, rfl⟩ := List.mem_map.mp hc
    exact Checked.holds_map_iff.mpr (finiteRate_ofJson _ m.2)
  | _ => exact nofun

end PackageConfig

namespace Settings

theorem finiteRate_setting (e : Environment) (name : String) :
    (setting e name Json.decimalText? (.ofInt 19)).Holds fun d => d.isFinite = true := by
  unfold setting
  split
  · exact Checked.holds_ofOption fun d => Json.isFinite_of_decimalText
  · rintro d hd
    cases hd
    rfl

/-- Rate and packages of the settings are what their variables say. -/
theorem rates_check (e : Environment) (packages : Json) :
    (check e packages).Holds fun s =>
      setting e "manual_dues_vat_percent" Json.decimalText? (.ofInt 19) =
          .value s.manualDuesRate ∧
        PackageConfig.tableOfJson "packages" packages = .value s.packages := by
  simp only [check, Checked.holds_seq_iff, Checked.holds_map_iff]
  simp only [Checked.Holds]
  intros
  exact ⟨by assumption, by assumption⟩

theorem finiteRates_check (e : Environment) (packages : Json) :
    (check e packages).Holds fun s => s.policy.FiniteRates := by
  refine (rates_check e packages).mono fun s h => ?_
  obtain ⟨hrate, hpackages⟩ := h
  exact ⟨finiteRate_setting e _ _ hrate,
    PackageConfig.finiteRates_tableOfJson "packages" packages _ hpackages⟩

/-- The policy that settings describe has finite rates only. -/
theorem finiteRates_of_read {e : Environment} {s : Settings} (h : read e = .ok s) :
    s.policy.FiniteRates := by
  unfold read at h
  split at h
  · cases h
  · split at h
    · cases h
      exact finiteRates_check e _ s ‹_›
    · cases h

end Settings

end Registration
