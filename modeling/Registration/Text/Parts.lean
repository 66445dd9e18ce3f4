/-!
# Parts of texts

A text contains another if it reads `before ++ part ++ after` (`contains_iff`). `split` divides a
text at every mark, so that a text with `n` marks has `n + 1` parts, some of them perhaps empty;
putting the marks back gives the text (`intercalate_split`). A set of texts is written as the sorted
list of its members.
-/

namespace Registration.Text

/-! ## Sets of texts -/

/-- The members of a list by code points. -/
def sorted (ss : List String) : List String := ss.mergeSort fun a b => decide (a ≤ b)

/-- The members of a list by code points, each once. -/
def sortedSet (ss : List String) : List String := sorted ss.eraseDups

theorem mem_sortedSet {s : String} {ss : List String} : s ∈ sortedSet ss ↔ s ∈ ss := by
  simp [sortedSet, sorted, List.mem_mergeSort]

/-! ## Searching -/

/-- The characters hold the part somewhere, all in a row. -/
def contains (part : List Char) : List Char → Bool
  | [] => part.isEmpty
  | c :: cs => part.isPrefixOf (c :: cs) || contains part cs

theorem contains_iff {part cs : List Char} :
    contains part cs ↔ ∃ before after, before ++ part ++ after = cs := by
  induction cs with
  | nil => simp [contains]
  | cons c cs ih =>
    simp only [contains, Bool.or_eq_true, ih, List.isPrefixOf_iff_prefix]
    constructor
    · rintro (⟨after, h⟩ | ⟨before, after, h⟩)
      · exact ⟨[], after, by simpa using h⟩
      · exact ⟨c :: before, after, by simpa using h⟩
    · rintro ⟨before, after, h⟩
      cases before with
      | nil => exact .inl ⟨after, by simpa using h⟩
      | cons d before =>
        simp only [List.cons_append, List.cons.injEq] at h
        exact .inr ⟨before, after, h.2⟩

/-! ## Splitting -/

/-- A text with a character in front of its first part. -/
def consFirst (c : Char) : List (List Char) → List (List Char)
  | [] => [[c]]
  | p :: ps => (c :: p) :: ps

/-- The parts of a text between the characters of a class. -/
def split (isMark : Char → Bool) : List Char → List (List Char)
  | [] => [[]]
  | c :: cs => if isMark c then [] :: split isMark cs else consFirst c (split isMark cs)

theorem split_ne_nil (isMark : Char → Bool) (cs : List Char) : split isMark cs ≠ [] := by
  induction cs with
  | nil => simp [split]
  | cons c cs ih =>
    simp only [split]
    split
    · simp
    · cases h : split isMark cs with
      | nil => exact absurd h ih
      | cons p ps => simp [consFirst]

/-- A text without marks is its own only part. -/
theorem split_of_not_mem {isMark : Char → Bool} {cs : List Char}
    (h : ∀ c ∈ cs, isMark c = false) : split isMark cs = [cs] := by
  induction cs with
  | nil => rfl
  | cons c cs ih =>
    have hc : isMark c = false := h c List.mem_cons_self
    simp [split, hc, ih fun d hd => h d (List.mem_cons_of_mem _ hd), consFirst]

/-- The parts with the marks between them again are the text. -/
theorem intercalate_split (mark : Char) (cs : List Char) :
    List.intercalate [mark] (split (· = mark) cs) = cs := by
  induction cs with
  | nil => rfl
  | cons c cs ih =>
    have hne := split_ne_nil (fun d => decide (d = mark)) cs
    cases hp : split (fun d => decide (d = mark)) cs with
    | nil => exact absurd hp hne
    | cons p ps =>
      rw [hp] at ih
      by_cases h : c = mark
      · subst h
        simpa [split, hp, List.intercalate] using ih
      · cases ps with
        | nil => simpa [split, hp, h, consFirst, List.intercalate] using ih
        | cons q qs => simpa [split, hp, h, consFirst, List.intercalate] using ih

end Registration.Text
