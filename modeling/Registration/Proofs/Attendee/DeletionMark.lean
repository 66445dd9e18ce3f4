import Mathlib.Data.List.DropRight
import Registration.Attendee
import Registration.Proofs.Text.Digit

/-!
# Deletion marks

A text has the mark of a registration exactly if the mark is its end (`marked_iff`). The number in
the mark stands behind the last underscore of the text (`rtakeWhile_of_marked`), so a text has the
mark of one registration at most (`eq_of_marked`). Marking and unmarking for one registration are
therefore nothing to the marks of another one (`marks_kept_apart`).
-/

namespace Registration.DeletionMark

open Text

theorem isMarked_iff {id : Int} {cs : List Char} : isMarked id cs = true ↔ mark id <:+ cs :=
  List.isSuffixOf_iff_suffix

theorem ofList_append_mark (id : Int) (s : String) :
    String.ofList (s.toList ++ mark id) = s ++ suffix id := by
  rw [String.ofList_append, String.ofList_toList, suffix]

theorem toList_append_suffix (id : Int) (s : String) :
    (s ++ suffix id).toList = s.toList ++ mark id := by
  rw [← ofList_append_mark, String.toList_ofList]

theorem suffix_eq (id : Int) : suffix id = "_d_" ++ toString id := by
  change String.ofList (['_', 'd', '_'] ++ intDigits id) = _
  rw [String.ofList_append, ← intText_eq_toString, intText]

theorem marked_iff {id : Int} {s : String} :
    mark id <:+ s.toList ↔ ∃ t, s = t ++ suffix id := by
  constructor
  · rintro ⟨cs, hcs⟩
    refine ⟨String.ofList cs, ?_⟩
    rw [← String.toList_inj, toList_append_suffix, String.toList_ofList, hcs]
  · rintro ⟨t, rfl⟩
    rw [toList_append_suffix]
    exact List.suffix_append _ _

/-! ## One registration -/

section One

variable {id : Int} {s : String}

theorem add_of_not_marked (h : ¬ mark id <:+ s.toList) : add id s = s ++ suffix id := by
  rw [add, addChars, if_neg (isMarked_iff.not.mpr h), ofList_append_mark]

theorem add_of_marked (h : mark id <:+ s.toList) : add id s = s := by
  rw [add, addChars, if_pos (isMarked_iff.mpr h), String.ofList_toList]

theorem add_append_suffix (id : Int) (s : String) : add id (s ++ suffix id) = s ++ suffix id :=
  add_of_marked (marked_iff.mpr ⟨s, rfl⟩)

theorem mark_suffix_add (id : Int) (s : String) : mark id <:+ (add id s).toList := by
  rw [add, String.toList_ofList]
  exact isMarked_iff.mp (isMarked_addChars id s.toList)

theorem remove_of_not_marked (h : ¬ mark id <:+ s.toList) : remove id s = s := by
  rw [remove, removeChars, if_neg (isMarked_iff.not.mpr h), String.ofList_toList]

theorem remove_append_suffix (id : Int) (s : String) : remove id (s ++ suffix id) = s := by
  rw [remove, toList_append_suffix, removeChars_append, String.ofList_toList]

theorem append_suffix_ne (id : Int) (s : String) : s ++ suffix id ≠ s := by
  intro h
  have hchars : s.toList ++ mark id = s.toList := by rw [← toList_append_suffix, h]
  exact List.cons_ne_nil _ _ (List.append_right_eq_self.mp hchars)

/-- Only a text that had the mark before is not given back. -/
theorem remove_add_iff : remove id (add id s) = s ↔ ¬ mark id <:+ s.toList := by
  constructor
  · intro h hmarked
    obtain ⟨t, rfl⟩ := marked_iff.mp hmarked
    rw [add_append_suffix, remove_append_suffix] at h
    exact append_suffix_ne id t h.symm
  · intro h
    rw [add_of_not_marked h, remove_append_suffix]

end One

/-! ## Several registrations -/

/-- Behind the last underscore of a marked text stands the number of the registration. -/
theorem rtakeWhile_of_marked {id : Int} {cs : List Char} (h : mark id <:+ cs) :
    cs.rtakeWhile (· != '_') = intDigits id := by
  obtain ⟨front, rfl⟩ := h
  have hplain : ∀ c ∈ (intDigits id).reverse, (c != '_') = true := by
    intro c hc
    rcases mem_intDigits (List.mem_reverse.mp hc) with rfl | hdigit
    · decide
    · exact bne_iff_ne.mpr (hdigit.ne (by decide))
  have hreverse : (front ++ mark id).reverse =
      (intDigits id).reverse ++ '_' :: ('d' :: '_' :: front.reverse) := by
    simp [mark]
  rw [List.rtakeWhile, hreverse, List.takeWhile_append_of_pos hplain,
    List.takeWhile_cons_of_neg (by decide), List.append_nil, List.reverse_reverse]

/-- A text has the mark of one registration at most. -/
theorem eq_of_marked {id other : Int} {cs : List Char} (h : mark id <:+ cs)
    (hother : mark other <:+ cs) : id = other :=
  intDigits_injective ((rtakeWhile_of_marked h).symm.trans (rtakeWhile_of_marked hother))

/-- Marking a second time changes nothing, and unmarking gives the text back unless it had the mark
before. The marks of another registration are not touched by unmarking, and no text marked for one
registration is a text marked for another. -/
theorem marks_kept_apart (id other : Int) (s t : String) :
    add id (add id s) = add id s ∧
      (remove id (add id s) = s ↔ ¬ ∃ front, s = front ++ "_d_" ++ toString id) ∧
      (id ≠ other → remove other (add id s) = add id s ∧ add id s ≠ add other t) := by
  refine ⟨add_of_marked (mark_suffix_add id s), ?_, fun hne => ⟨?_, ?_⟩⟩
  · simp only [remove_add_iff, marked_iff, suffix_eq, String.append_assoc]
  · exact remove_of_not_marked fun h => hne (eq_of_marked (mark_suffix_add id s) h)
  · intro hsame
    exact hne (eq_of_marked (mark_suffix_add id s) (hsame ▸ mark_suffix_add other t))

/-- Numbers that end alike: a zip with the mark of registration 11 is marked for registration 1. -/
theorem marks_kept_apart_one_eleven :
    (1 : Int) ≠ 11 ∧ remove 11 (add 1 "12345_d_11") = add 1 "12345_d_11" ∧
      add 1 "12345_d_11" ≠ add 11 "12345_d_1" :=
  have hne : (1 : Int) ≠ 11 := by decide
  ⟨hne, (marks_kept_apart 1 11 "12345_d_11" "12345_d_1").2.2 hne⟩

end Registration.DeletionMark
