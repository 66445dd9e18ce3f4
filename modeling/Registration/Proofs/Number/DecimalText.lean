import Mathlib.Data.List.TakeWhile
import Registration.Number.DecimalText
import Registration.Proofs.Text.Digit

/-!
# Decimals read back

A finite decimal is shown with a point or not, and with a power of ten or not, but its text always
has all the digits of the coefficient and as many places as the exponent asks for. So sign,
coefficient and exponent are read back from the text, also the sign of zero and the zeros at the end
(`read?_text`).
-/

namespace Registration.Number.Decimal

open Registration.Text

/-- A finite decimal that is neither too large nor too small to be kept. -/
def WithinLimits : Decimal → Prop
  | finite _ coefficient exponent =>
    minExponent ≤ exponent ∧ exponent + (natDigits coefficient).length - 1 ≤ maxAdjusted
  | _ => False

instance (d : Decimal) : Decidable d.WithinLimits := by
  cases d <;> unfold WithinLimits <;> infer_instance

theorem WithinLimits.isFinite {d : Decimal} (h : d.WithinLimits) : d.isFinite = true := by
  cases d with
  | finite => rfl
  | infinite | nan => exact h.elim

theorem withinLimits?_eq {negative : Bool} {coefficient : Nat} {exponent : Int}
    (h : (finite negative coefficient exponent).WithinLimits) :
    withinLimits? negative coefficient exponent = some (finite negative coefficient exponent) := by
  unfold WithinLimits at h
  rw [withinLimits?, if_neg (by omega)]

/-! ## The characters of a decimal -/

/-- The characters that finite decimals are shown with. -/
def numeralChars : List Char := "0123456789.-+E".toList

/-- Reading leaves these characters as they are. -/
theorem plain_of_mem_numeralChars {c : Char} (h : c ∈ numeralChars) :
    isBlank c = false ∧ c ≠ '_' ∧ asciiForm c = c := by
  have hall : (numeralChars.all fun c => !isBlank c && c != '_' && asciiForm c == c) = true := by
    decide
  simpa [and_assoc] using List.all_eq_true.mp hall c h

theorem mem_numeralChars_of_digit {c : Char} (h : IsDigit c) : c ∈ numeralChars := by
  obtain ⟨d, hd, rfl⟩ := h
  exact (by decide : ∀ d < 10, digitChar d ∈ numeralChars) d hd

/-- Digits and a point stand in front of a power of ten. -/
theorem mem_pointed {n places : Nat} {c : Char} (h : c ∈ pointed (natDigits n) places) :
    c = '.' ∨ IsDigit c := by
  unfold pointed at h
  split at h
  · exact .inr (isDigit_of_mem_natDigits h)
  split at h
  · rcases List.mem_append.mp h with h | h
    · rcases List.mem_append.mp h with h | h
      · rcases List.mem_cons.mp h with rfl | h
        · exact .inr ⟨0, by decide, rfl⟩
        · exact .inl (List.mem_singleton.mp h)
      · exact .inr ⟨0, by decide, List.eq_of_mem_replicate h⟩
    · exact .inr (isDigit_of_mem_natDigits h)
  · rcases List.mem_append.mp h with h | h
    · exact .inr (isDigit_of_mem_natDigits (List.mem_of_mem_take h))
    · rcases List.mem_cons.mp h with rfl | h
      · exact .inl rfl
      · exact .inr (isDigit_of_mem_natDigits (List.mem_of_mem_drop h))

theorem mem_numeralChars_of_pointed {n places : Nat} {c : Char}
    (h : c ∈ pointed (natDigits n) places) : c ∈ numeralChars := by
  rcases mem_pointed h with rfl | hdigit
  · decide
  · exact mem_numeralChars_of_digit hdigit

theorem mem_numeralChars_of_magnitude {coefficient : Nat} {exponent : Int} {c : Char}
    (h : c ∈ magnitudeChars coefficient exponent) : c ∈ numeralChars := by
  unfold magnitudeChars at h
  dsimp only at h
  split at h
  · exact mem_numeralChars_of_pointed h
  · rcases List.mem_append.mp h with h | h
    · exact mem_numeralChars_of_pointed h
    · unfold exponentChars at h
      rcases List.mem_cons.mp h with rfl | h
      · decide
      rcases List.mem_cons.mp h with rfl | h
      · split <;> decide
      · exact mem_numeralChars_of_digit (isDigit_of_mem_natDigits h)

theorem exists_pointed_eq (n places : Nat) :
    ∃ c cs, pointed (natDigits n) places = c :: cs ∧ IsDigit c := by
  obtain ⟨c, cs, hcs, hdigit⟩ := exists_natDigits_eq n
  unfold pointed
  split
  · exact ⟨c, cs, hcs, hdigit⟩
  split
  · exact ⟨'0', _, rfl, 0, by decide, rfl⟩
  · rename_i hshort
    obtain ⟨k, hk⟩ := Nat.exists_eq_succ_of_ne_zero
      (show (natDigits n).length - places ≠ 0 by omega)
    exact ⟨c, _, by rw [hk, hcs, List.take_succ_cons, List.cons_append], hdigit⟩

/-- A magnitude begins with a digit. -/
theorem exists_magnitudeChars_eq (coefficient : Nat) (exponent : Int) :
    ∃ c cs, magnitudeChars coefficient exponent = c :: cs ∧ IsDigit c := by
  unfold magnitudeChars
  dsimp only
  split
  · exact exists_pointed_eq _ _
  · obtain ⟨c, cs, hcs, hdigit⟩ :=
      exists_pointed_eq coefficient ((natDigits coefficient).length - 1)
    exact ⟨c, cs ++ _, by rw [hcs, List.cons_append], hdigit⟩

/-! ## Reading a magnitude -/

theorem ne_point_of_mem {ds : List Nat} (hds : ∀ d ∈ ds, d < 10) :
    ∀ c ∈ ds.map digitChar, decide (c ≠ '.') = true := fun _ hc =>
  decide_eq_true ((isDigit_of_mem_map hds hc).ne rfl)

/-- Digits without a point. -/
theorem readMantissa?_digits (negative : Bool) {ds : List Nat} (hds : ∀ d ∈ ds, d < 10)
    (hsome : ds ≠ []) (e : Int) :
    readMantissa? negative (ds.map digitChar) e = withinLimits? negative (ofDigits ds) e := by
  unfold readMantissa?
  rw [List.takeWhile_eq_self_iff.mpr (ne_point_of_mem hds),
    List.dropWhile_eq_nil_iff.mpr (ne_point_of_mem hds)]
  simp [hsome, allDigits?, mapM_asciiDigit? hds]

/-- Digits around a point. -/
theorem readMantissa?_pointed_digits (negative : Bool) {whole fraction : List Nat}
    (hwhole : ∀ d ∈ whole, d < 10) (hfraction : ∀ d ∈ fraction, d < 10) (hsome : whole ≠ [])
    (e : Int) :
    readMantissa? negative (whole.map digitChar ++ '.' :: fraction.map digitChar) e =
      withinLimits? negative (ofDigits (whole ++ fraction)) (e - fraction.length) := by
  have hread := mapM_asciiDigit? (List.forall_mem_append.mpr ⟨hwhole, hfraction⟩)
  rw [List.map_append] at hread
  unfold readMantissa?
  rw [List.takeWhile_append_of_pos (ne_point_of_mem hwhole),
    List.dropWhile_append_of_pos (ne_point_of_mem hwhole),
    List.takeWhile_cons_of_neg (by decide), List.dropWhile_cons_of_neg (by decide)]
  simp [hsome, allDigits?, hread]

theorem readMantissa?_pointed (negative : Bool) (n places : Nat) (e : Int) :
    readMantissa? negative (pointed (natDigits n) places) e =
      withinLimits? negative n (e - places) := by
  have hsmall : ∀ d ∈ digitValues n, d < 10 := fun d => lt_of_mem_digitValues
  unfold pointed
  rw [natDigits_eq, List.length_map]
  split
  · rename_i hnone
    rw [readMantissa?_digits negative hsmall (digitValues_ne_nil n), ofDigits_digitValues, hnone]
    simp
  split
  · rename_i hlong
    -- zeros fill the places between the point and the first digit
    have hzeros : ∀ d ∈ List.replicate (places - (digitValues n).length) 0 ++ digitValues n,
        d < 10 := fun d hd => by
      rcases List.mem_append.mp hd with hd | hd
      · rw [List.eq_of_mem_replicate hd]
        decide
      · exact hsmall d hd
    have hzero : ∀ d ∈ [0], d < 10 := by simp
    have hread := readMantissa?_pointed_digits negative hzero hzeros (by simp) e
    rw [List.singleton_append, ofDigits_zero_cons, ofDigits_replicate_append, ofDigits_digitValues,
      List.length_append, List.length_replicate, Nat.sub_add_cancel hlong] at hread
    rw [← hread]
    simp [digitChar]
  · rename_i hshort
    have hwhole : (digitValues n).take ((digitValues n).length - places) ≠ [] := by
      rw [← List.length_pos_iff, List.length_take]
      omega
    have hfraction : ∀ d ∈ (digitValues n).drop ((digitValues n).length - places), d < 10 :=
      fun d hd => hsmall d (List.mem_of_mem_drop hd)
    have hread := readMantissa?_pointed_digits negative
      (fun d hd => hsmall d (List.mem_of_mem_take hd)) hfraction hwhole e
    have hplaces : ((digitValues n).drop ((digitValues n).length - places)).length = places := by
      rw [List.length_drop]
      omega
    rw [List.take_append_drop, ofDigits_digitValues, hplaces] at hread
    rw [← hread, List.map_take, List.map_drop]

theorem readExponent?_exponentChars (e : Int) :
    readExponent? ((if e < 0 then '-' else '+') :: natDigits e.natAbs) = some e := by
  have hsome : natDigits e.natAbs ≠ [] := List.length_pos_iff.mp (length_natDigits_pos _)
  by_cases he : e < 0
  · simp only [readExponent?, if_pos he, allDigits?, mapM_natDigits, ofDigits_digitValues,
      List.isEmpty_iff, hsome, if_false, Option.map_some, if_true]
    exact congrArg some (by omega)
  · simp only [readExponent?, if_neg he, allDigits?, mapM_natDigits, ofDigits_digitValues,
      List.isEmpty_iff, hsome, if_false, Option.map_some]
    exact congrArg some (by simp; omega)

theorem readFinite?_magnitudeChars (negative : Bool) (coefficient : Nat) (exponent : Int) :
    readFinite? negative (magnitudeChars coefficient exponent) =
      withinLimits? negative coefficient exponent := by
  have hunmarked : ∀ places, ∀ c ∈ pointed (natDigits coefficient) places,
      (!(decide (c = 'e') || decide (c = 'E'))) = true := fun places c hc => by
    rcases mem_pointed hc with rfl | hdigit
    · decide
    · have hlower : c ≠ 'e' := hdigit.ne rfl
      have hupper : c ≠ 'E' := hdigit.ne rfl
      simp [hlower, hupper]
  have hdigits := length_natDigits_pos coefficient
  unfold magnitudeChars readFinite?
  dsimp only
  by_cases hplain : exponent ≤ 0 ∧ -6 ≤ exponent + (natDigits coefficient).length - 1
  · rw [if_pos hplain, List.takeWhile_eq_self_iff.mpr (hunmarked _),
      List.dropWhile_eq_nil_iff.mpr (hunmarked _)]
    dsimp only
    rw [readMantissa?_pointed]
    congr 1
    omega
  · rw [if_neg hplain, List.takeWhile_append_of_pos (hunmarked _),
      List.dropWhile_append_of_pos (hunmarked _)]
    simp only [exponentChars]
    rw [List.takeWhile_cons_of_neg (by decide), List.dropWhile_cons_of_neg (by decide)]
    dsimp only
    rw [readExponent?_exponentChars, Option.bind_some, List.append_nil, readMantissa?_pointed]
    congr 1
    omega

/-! ## Reading a decimal -/

theorem afterName?_of_ne (name : String) {a : Char} {as : List Char} (hname : name.toList = a :: as)
    {c : Char} (hc : c.toLower ≠ a) (rest : List Char) : afterName? name (c :: rest) = none := by
  have hlength : name.length = as.length + 1 := by rw [← String.length_toList, hname]; rfl
  unfold afterName?
  dsimp only
  rw [hlength, hname, List.take_succ_cons, List.map_cons, if_neg]
  exact fun h => hc (List.cons.inj h).1

theorem readUnsigned?_magnitudeChars (negative : Bool) (coefficient : Nat) (exponent : Int) :
    readUnsigned? negative (magnitudeChars coefficient exponent) =
      withinLimits? negative coefficient exponent := by
  obtain ⟨c, cs, hcs, d, hd, rfl⟩ := exists_magnitudeChars_eq coefficient exponent
  -- a digit does not begin the name of an infinity or of a not-a-number
  have hletter : (digitChar d).toLower ≠ 'i' ∧ (digitChar d).toLower ≠ 's' ∧
      (digitChar d).toLower ≠ 'n' :=
    (by decide : ∀ d < 10, (digitChar d).toLower ≠ 'i' ∧ (digitChar d).toLower ≠ 's' ∧
      (digitChar d).toLower ≠ 'n') d hd
  obtain ⟨hi, hs, hn⟩ := hletter
  rw [← readFinite?_magnitudeChars, hcs, readUnsigned?,
    afterName?_of_ne "inf" rfl hi, afterName?_of_ne "infinity" rfl hi,
    afterName?_of_ne "snan" rfl hs, afterName?_of_ne "nan" rfl hn]
  simp

theorem readChars?_chars (negative : Bool) (coefficient : Nat) (exponent : Int) :
    readChars? (finite negative coefficient exponent).chars =
      withinLimits? negative coefficient exponent := by
  rw [← readUnsigned?_magnitudeChars, chars]
  cases negative with
  | true => rfl
  | false =>
    obtain ⟨c, cs, hcs, hdigit⟩ := exists_magnitudeChars_eq coefficient exponent
    have hminus : c ≠ '-' := hdigit.ne rfl
    have hplus : c ≠ '+' := hdigit.ne rfl
    rw [hcs]
    simp [signChars, readChars?, hminus, hplus]

/-- A decimal within the limits is read back from its text. -/
theorem read?_text {d : Decimal} (h : d.WithinLimits) : read? d.text = some d := by
  cases d with
  | infinite negative => exact h.elim
  | nan negative signaling payload => exact h.elim
  | finite negative coefficient exponent =>
    have hmem : ∀ c ∈ (finite negative coefficient exponent).chars, c ∈ numeralChars := by
      intro c hc
      rcases List.mem_append.mp hc with hc | hc
      · cases negative with
        | true => exact List.mem_singleton.mp hc ▸ by decide
        | false => cases hc
      · exact mem_numeralChars_of_magnitude hc
    have hplain := fun c hc => plain_of_mem_numeralChars (hmem c hc)
    -- nothing is trimmed, dropped or changed before the characters are read
    have hchars : ((trim isBlank (finite negative coefficient exponent).chars).filter
        (· ≠ '_')).map asciiForm = (finite negative coefficient exponent).chars := by
      rw [(Trimmed.of_forall fun c hc => (hplain c hc).1).trim_eq,
        List.filter_eq_self.mpr fun c hc => decide_eq_true (hplain c hc).2.1]
      exact (List.map_congr_left fun c hc => (hplain c hc).2.2).trans (List.map_id _)
    rw [read?, text, String.toList_ofList, hchars, readChars?_chars, withinLimits?_eq h]

end Registration.Number.Decimal
