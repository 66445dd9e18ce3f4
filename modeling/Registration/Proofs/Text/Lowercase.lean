import Mathlib.Data.List.Basic
import Registration.Attendee

/-!
# Lower case again

The lower-case form of a character is its own lower-case form and not blank unless the character is
(`isLower_lowerChar`, `isBlank_lowerChar`): the runs of partners meet neither the runs of the table
nor the blank characters (`lowerRuns_avoid`). So a text in lower case stays as it is, and the form
in which an address is kept is its own form (`Email.normalize_normalize`).
-/

namespace Registration.Text

/-! ## Runs of partners -/

namespace CaseRun

/-- The partners of a run, as a run. -/
def partners (r : CaseRun) : CaseRun :=
  ⟨(r.first + r.shift).toNat, (r.last + r.shift).toNat, r.step, 0⟩

/-- By their bounds or by their parities, no code point lies in both runs. -/
def avoids (r q : CaseRun) : Bool :=
  Nat.blt r.last q.first || (Nat.blt q.last r.first ||
    ((r.step % 2 == 0 || r.first == r.last) && (q.step % 2 == 0 && (r.first - q.first) % 2 == 1)))

theorem holds_iff {r : CaseRun} {n : Nat} :
    r.holds n = true ↔ r.first ≤ n ∧ n ≤ r.last ∧ (n - r.first) % r.step = 0 := by
  simp [holds, and_assoc]

theorem mod_two_of_holds {r : CaseRun} {n : Nat} (h : r.holds n = true)
    (heven : r.step % 2 = 0 ∨ r.first = r.last) : n % 2 = r.first % 2 := by
  obtain ⟨hfirst, hlast, hstep⟩ := holds_iff.mp h
  rcases heven with heven | hsingle
  · have hdvd : 2 ∣ n - r.first :=
      Nat.dvd_trans (Nat.dvd_of_mod_eq_zero heven) (Nat.dvd_of_mod_eq_zero hstep)
    omega
  · omega

theorem holds_eq_false_of_avoids {r q : CaseRun} {n : Nat} (h : r.avoids q = true)
    (hn : r.holds n = true) : q.holds n = false := by
  rw [Bool.eq_false_iff]
  intro hq
  obtain ⟨hfirst, hlast, -⟩ := holds_iff.mp hn
  obtain ⟨hfirst', hlast', -⟩ := holds_iff.mp hq
  simp only [avoids, Bool.or_eq_true, Bool.and_eq_true, beq_iff_eq, Nat.blt_eq] at h
  rcases h with h | h | ⟨heven, heven', hodd⟩
  · omega
  · omega
  · have hr := mod_two_of_holds hn heven
    have hq := mod_two_of_holds hq (.inl heven')
    omega

theorem holds_partners {r : CaseRun} {n : Nat} (hshift : 0 ≤ r.first + r.shift)
    (h : r.holds n = true) : r.partners.holds (n + r.shift).toNat = true := by
  obtain ⟨hfirst, hlast, hstep⟩ := holds_iff.mp h
  have hdiff : (n + r.shift).toNat - (r.first + r.shift).toNat = n - r.first := by omega
  refine holds_iff.mpr ⟨?_, ?_, hdiff ▸ hstep⟩
  · change (r.first + r.shift).toNat ≤ _
    omega
  · change _ ≤ (r.last + r.shift).toNat
    omega

end CaseRun

/-- Code points that are no partners: blanks, the letters with rules of their own, and those that
are no characters. -/
def partnerless : List CaseRun := [
  ⟨9, 13, 1, 0⟩, ⟨0x1c, 0x20, 1, 0⟩, ⟨0x85, 0x85, 1, 0⟩, ⟨0xa0, 0xa0, 1, 0⟩, ⟨0x1680, 0x1680, 1, 0⟩,
  ⟨0x2000, 0x200a, 1, 0⟩, ⟨0x2028, 0x2029, 1, 0⟩, ⟨0x202f, 0x202f, 1, 0⟩, ⟨0x205f, 0x205f, 1, 0⟩,
  ⟨0x3000, 0x3000, 1, 0⟩, ⟨0x130, 0x130, 1, 0⟩, ⟨0x3a3, 0x3a3, 1, 0⟩, ⟨0xd800, 0xdfff, 1, 0⟩]

/-- Partners have no partners of their own, and are none of the code points left out. -/
theorem lowerRuns_avoid :
    (lowerRuns.all fun r => decide (0 ≤ r.first + r.shift) && Nat.blt r.partners.last 0x110000 &&
      (lowerRuns ++ partnerless).all fun q => r.partners.avoids q) = true := by
  decide +kernel

/-- A character has no partner, or its partner is a character that is outside all runs of the table
and none of the code points left out. -/
theorem lowerChar_eq_or (c : Char) :
    lowerChar c = c ∨
      ∀ q ∈ lowerRuns ++ partnerless, q.holds (lowerChar c).toNat = false := by
  unfold lowerChar
  cases hrun : lowerRuns.find? (·.holds c.toNat) with
  | none => exact .inl rfl
  | some r =>
    right
    have hchecked := List.all_eq_true.mp lowerRuns_avoid r (List.mem_of_find?_eq_some hrun)
    simp only [Bool.and_eq_true, decide_eq_true_eq, Nat.blt_eq, List.all_eq_true] at hchecked
    obtain ⟨⟨hshift, hlast⟩, havoid⟩ := hchecked
    have hholds : r.holds c.toNat = true := by simpa using List.find?_some hrun
    have hpartner := CaseRun.holds_partners hshift hholds
    have hout : ∀ q ∈ lowerRuns ++ partnerless, q.holds (c.toNat + r.shift).toNat = false :=
      fun q hq => CaseRun.holds_eq_false_of_avoids (havoid q hq) hpartner
    have hvalid : (c.toNat + r.shift).toNat.isValidChar := by
      have hsurrogate := hout ⟨0xd800, 0xdfff, 1, 0⟩ (by simp [partnerless])
      have hle := (CaseRun.holds_iff.mp hpartner).2.1
      simp only [Bool.eq_false_iff, ne_eq, CaseRun.holds_iff, Nat.mod_one, and_true] at hsurrogate
      unfold Nat.isValidChar
      omega
    dsimp only
    rwa [Char.ofNat, dif_pos hvalid]

/-! ## Characters -/

/-- The character is its own lower-case form, wherever it stands. -/
def IsLower (c : Char) : Prop := c ≠ 'Σ' ∧ c ≠ 'İ' ∧ lowerChar c = c

instance : DecidablePred IsLower := fun _ => instDecidableAnd

theorem isLower_lowerChar {c : Char} (hsigma : c ≠ 'Σ') (hdotted : c ≠ 'İ') :
    IsLower (lowerChar c) := by
  rcases lowerChar_eq_or c with hsame | hout
  · rw [hsame]
    exact ⟨hsigma, hdotted, hsame⟩
  · refine ⟨?_, ?_, ?_⟩
    · intro h
      have := hout ⟨0x3a3, 0x3a3, 1, 0⟩ (by simp [partnerless])
      rw [h] at this
      exact absurd this (by decide)
    · intro h
      have := hout ⟨0x130, 0x130, 1, 0⟩ (by simp [partnerless])
      rw [h] at this
      exact absurd this (by decide)
    · generalize lowerChar c = d at hout
      have hnone : lowerRuns.find? (·.holds d.toNat) = none :=
        List.find?_eq_none.mpr fun q hq => by simp [hout q (List.mem_append_left _ hq)]
      rw [lowerChar, hnone]

theorem isBlank_lowerChar {c : Char} (h : isBlank c = false) : isBlank (lowerChar c) = false := by
  rcases lowerChar_eq_or c with hsame | hout
  · rw [hsame, h]
  · have hrange : ∀ q ∈ partnerless, q.holds (lowerChar c).toNat = false := fun q hq =>
      hout q (List.mem_append_right _ hq)
    simp only [partnerless, List.mem_cons, List.not_mem_nil, or_false, forall_eq_or_imp, forall_eq,
      Bool.eq_false_iff, ne_eq, CaseRun.holds_iff, Nat.mod_one, and_true] at hrange
    simp only [isBlank, isSpace, Bool.or_eq_false_iff, Bool.and_eq_false_iff,
      decide_eq_false_iff_not, beq_eq_false_iff_ne, ne_eq]
    omega

theorem mem_lowerOne {afterLetter : Bool} {c d : Char} {rest : List Char}
    (h : d ∈ lowerOne afterLetter c rest) :
    IsLower d ∧ (isBlank c = false → isBlank d = false) := by
  unfold lowerOne at h
  by_cases hsigma : c = 'Σ'
  · rw [if_pos hsigma, List.mem_singleton] at h
    subst h
    split <;> exact ⟨by decide, fun _ => by decide⟩
  by_cases hdotted : c = 'İ'
  · rw [if_neg hsigma, if_pos hdotted] at h
    simp only [List.mem_cons, List.not_mem_nil, or_false] at h
    rcases h with rfl | rfl <;> exact ⟨by decide, fun _ => by decide⟩
  · rw [if_neg hsigma, if_neg hdotted, List.mem_singleton] at h
    subst h
    exact ⟨isLower_lowerChar hsigma hdotted, isBlank_lowerChar⟩

theorem lowerOne_ne_nil (afterLetter : Bool) (c : Char) (rest : List Char) :
    lowerOne afterLetter c rest ≠ [] := by
  unfold lowerOne
  split_ifs <;> exact List.cons_ne_nil _ _

theorem IsLower.lowerOne_eq {c : Char} (h : IsLower c) (afterLetter : Bool) (rest : List Char) :
    lowerOne afterLetter c rest = [c] := by
  rw [lowerOne, if_neg h.1, if_neg h.2.1, h.2.2]

/-! ## Texts -/

theorem isLower_of_mem_lowerFrom {afterLetter : Bool} {cs : List Char} {d : Char}
    (h : d ∈ lowerFrom afterLetter cs) : IsLower d := by
  induction cs generalizing afterLetter with
  | nil => cases h
  | cons c rest ih =>
    rcases List.mem_append.mp h with h | h
    · exact (mem_lowerOne h).1
    · exact ih h

/-- A text in lower case stays as it is. -/
theorem lowerFrom_of_isLower {cs : List Char} (h : ∀ c ∈ cs, IsLower c) (afterLetter : Bool) :
    lowerFrom afterLetter cs = cs := by
  induction cs generalizing afterLetter with
  | nil => rfl
  | cons c rest ih =>
    rw [lowerFrom, (h c List.mem_cons_self).lowerOne_eq,
      ih fun d hd => h d (List.mem_cons_of_mem c hd)]
    rfl

theorem lowerFrom_ne_nil {c : Char} {rest : List Char} (afterLetter : Bool) :
    lowerFrom afterLetter (c :: rest) ≠ [] := fun h =>
  lowerOne_ne_nil afterLetter c rest (List.append_eq_nil_iff.mp h).1

theorem head?_lowerFrom {cs : List Char} (h : ∀ c ∈ cs.head?, isBlank c = false)
    (afterLetter : Bool) : ∀ d ∈ (lowerFrom afterLetter cs).head?, isBlank d = false := by
  intro d hd
  cases cs with
  | nil => cases hd
  | cons c rest =>
    rw [lowerFrom, List.head?_append_of_ne_nil _ (lowerOne_ne_nil afterLetter c rest)] at hd
    exact (mem_lowerOne (List.mem_of_mem_head? hd)).2 (h c rfl)

theorem getLast?_lowerFrom {cs : List Char} (h : ∀ c ∈ cs.getLast?, isBlank c = false)
    (afterLetter : Bool) : ∀ d ∈ (lowerFrom afterLetter cs).getLast?, isBlank d = false := by
  intro d hd
  induction cs generalizing afterLetter with
  | nil => cases hd
  | cons c rest ih =>
    rw [lowerFrom] at hd
    cases rest with
    | nil =>
      rw [lowerFrom_nil, List.append_nil] at hd
      exact (mem_lowerOne (List.mem_of_getLast? hd)).2 (h c rfl)
    | cons c' rest =>
      rw [List.getLast?_append_of_ne_nil _ (lowerFrom_ne_nil _)] at hd
      exact ih (by rwa [List.getLast?_cons_cons] at h) _ hd

theorem Trimmed.lowerFrom {cs : List Char} (h : Trimmed isBlank cs) (afterLetter : Bool) :
    Trimmed isBlank (lowerFrom afterLetter cs) :=
  ⟨head?_lowerFrom h.1 afterLetter, getLast?_lowerFrom h.2 afterLetter⟩

end Registration.Text

namespace Registration.Email

open Text

theorem toList_normalize (address : String) :
    (normalize address).toList = lowerFrom false (trim isBlank address.toList) := by
  simp [normalize, lowercase, trimBlanks]

/-- The form in which an address is kept is its own form. -/
theorem normalize_normalize (address : String) :
    normalize (normalize address) = normalize address := by
  have htrimmed := (trimmed_trim isBlank address.toList).lowerFrom false
  rw [← String.toList_inj, toList_normalize, toList_normalize, htrimmed.trim_eq,
    lowerFrom_of_isLower fun c hc => isLower_of_mem_lowerFrom hc]

end Registration.Email
