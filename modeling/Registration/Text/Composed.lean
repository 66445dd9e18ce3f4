import Registration.Text.Combining

/-!
# Composed texts

One text may be written in many ways: a letter with a mark as one character or two, and marks in any
order. The composed form is one of them: everything is taken apart, the marks are brought into
order, and whatever can be one character becomes one. `isComposed` says that a text is written so.
-/

namespace Registration.Text

/-! ## Taking apart -/

/-- A character without the marks that are part of it, and these marks, at most so many of them. -/
def decompose : Nat → Char → List Char
  | 0, c => [c]
  | fuel + 1, c =>
    match parts? c with
    | some (d, mark) => decompose fuel d ++ [mark]
    | none => [c]

/-- The most marks that are part of one character. -/
def maxMarks : Nat := 4

/-- A text with all marks apart. -/
def decomposed (cs : List Char) : List Char := cs.flatMap (decompose maxMarks)

/-! ## Order -/

/-- A character put in front of a text, behind all marks of lower classes. -/
def placeMark (c : Char) : List Char → List Char
  | [] => [c]
  | d :: ds =>
    if combiningClass d ≠ 0 ∧ combiningClass d < combiningClass c then d :: placeMark c ds
    else c :: d :: ds

/-- A text with its marks in order. -/
def orderedMarks (cs : List Char) : List Char := cs.foldr placeMark []

theorem placeMark_perm (c : Char) (cs : List Char) : (placeMark c cs).Perm (c :: cs) := by
  induction cs with
  | nil => exact .refl _
  | cons d ds ih =>
    simp only [placeMark]
    split
    · exact (ih.cons d).trans (.swap c d ds)
    · exact .refl _

/-- Ordering neither loses nor adds a character. -/
theorem orderedMarks_perm (cs : List Char) : (orderedMarks cs).Perm cs := by
  induction cs with
  | nil => exact .refl _
  | cons c cs ih => exact (placeMark_perm c _).trans (ih.cons c)

/-! ## Putting together -/

/-- No character between a letter and a mark keeps them apart; they are given in reverse. -/
def touches (between : List Char) (mark : Char) : Bool :=
  match between with
  | [] => true
  | last :: _ => combiningClass last < combiningClass mark

/-- The rest of a text composed, behind a letter and characters that stay apart from it, in
reverse. -/
def composeFrom (letter : Char) (apart : List Char) : List Char → List Char
  | [] => letter :: apart.reverse
  | c :: cs =>
    match (if touches apart c then whole letter c else none) with
    | some composed => composeFrom composed apart cs
    | none =>
      if combiningClass c = 0 then letter :: apart.reverse ++ composeFrom c [] cs
      else composeFrom letter (c :: apart) cs

/-- A text in which whatever can be one character is one. -/
def composed : List Char → List Char
  | [] => []
  | c :: cs => if combiningClass c = 0 then composeFrom c [] cs else c :: composed cs

/-- The text is in composed form. -/
def isComposed (cs : List Char) : Bool := composed (orderedMarks (decomposed cs)) == cs

end Registration.Text
