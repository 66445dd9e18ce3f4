/-!
# Checked values

A reader of many fields reports all that are faulty, not the first one only. Readings are joined
side by side: the joined reading has a value exactly if every part has one (`isValue_ap`), and its
faults are those of the parts in order (`faults_ap`).
-/

namespace Registration

/-- A value, or the names of the faulty fields. -/
inductive Checked (α : Type) where
  | value (a : α)
  | faulty (fields : List String)
  deriving DecidableEq

namespace Checked

variable {α β : Type}

/-- The faulty fields. -/
def faults : Checked α → List String
  | value _ => []
  | faulty fields => fields

def isValue : Checked α → Bool
  | value _ => true
  | faulty _ => false

/-- Changes the value. -/
def map (f : α → β) : Checked α → Checked β
  | value a => value (f a)
  | faulty fields => faulty fields

/-- A function and its argument, read side by side. -/
def ap : Checked (α → β) → Checked α → Checked β
  | value f, c => c.map f
  | faulty fields, c => faulty (fields ++ c.faults)

instance : Functor Checked where
  map := map

instance : Applicative Checked where
  pure := value
  seq f c := ap f (c ())

/-- The value that a reading gives, or the faulty field of that name. -/
def ofOption (field : String) : Option α → Checked α
  | some a => value a
  | none => faulty [field]

/-- Joins the readings of a list. -/
def all : List (Checked α) → Checked (List α)
  | [] => value []
  | c :: cs => ((c.map List.cons).ap (all cs))

/-! ## Facts -/

@[simp] theorem faults_map (f : α → β) (c : Checked α) : (c.map f).faults = c.faults := by
  cases c <;> rfl

@[simp] theorem faults_ap (f : Checked (α → β)) (c : Checked α) :
    (f.ap c).faults = f.faults ++ c.faults := by
  cases f with
  | value f => exact faults_map f c
  | faulty fields => simp [ap, faults]

@[simp] theorem isValue_map (f : α → β) (c : Checked α) : (c.map f).isValue = c.isValue := by
  cases c <;> rfl

@[simp] theorem isValue_ap (f : Checked (α → β)) (c : Checked α) :
    (f.ap c).isValue = (f.isValue && c.isValue) := by
  cases f with
  | value f => exact isValue_map f c
  | faulty fields => simp [ap, isValue]

@[simp] theorem faults_all (cs : List (Checked α)) : (all cs).faults = cs.flatMap faults := by
  induction cs with
  | nil => rfl
  | cons c cs ih => simp [all, ih]

@[simp] theorem isValue_all (cs : List (Checked α)) : (all cs).isValue = cs.all isValue := by
  induction cs with
  | nil => rfl
  | cons c cs ih => simp [all, ih]

/-! ## What a value satisfies -/

section Holds

variable {P : β → Prop} {Q : α → Prop}

/-- A value, if there is one, has a property. -/
def Holds (P : α → Prop) (c : Checked α) : Prop := ∀ a, c = value a → P a

theorem Holds.mono {Q' : α → Prop} {c : Checked α} (h : c.Holds Q) (hQ : ∀ a, Q a → Q' a) :
    c.Holds Q' := fun a ha => hQ a (h a ha)

theorem holds_map_iff {f : α → β} {c : Checked α} :
    (f <$> c).Holds P ↔ c.Holds fun a => P (f a) := by
  constructor
  · rintro h a rfl
    exact h (f a) rfl
  · rintro h b hb
    cases c with
    | value a =>
      cases hb
      exact h a rfl
    | faulty fields => cases hb

theorem holds_seq_iff {f : Checked (α → β)} {c : Checked α} :
    (f <*> c).Holds P ↔ f.Holds fun g => c.Holds fun a => P (g a) := by
  constructor
  · rintro h g rfl
    exact holds_map_iff.mp h
  · intro h
    cases f with
    | value g => exact holds_map_iff.mpr (h g rfl)
    | faulty fields => exact nofun

theorem holds_ofOption {field : String} {x : Option α} (h : ∀ a, x = some a → Q a) :
    (ofOption field x).Holds Q := by
  rintro a ha
  cases x with
  | some b =>
    cases ha
    exact h a rfl
  | none => cases ha

theorem holds_all {cs : List (Checked α)} (h : ∀ c ∈ cs, c.Holds Q) :
    (all cs).Holds fun as => ∀ a ∈ as, Q a := by
  induction cs with
  | nil =>
    rintro as ha
    cases ha
    exact fun a ha => nomatch ha
  | cons c cs ih =>
    have hrest := ih fun d hd => h d (List.mem_cons_of_mem c hd)
    refine holds_seq_iff.mpr (holds_map_iff.mpr fun a ha => hrest.mono fun as has => ?_)
    exact List.forall_mem_cons.mpr ⟨h c List.mem_cons_self a ha, has⟩

end Holds

end Checked

end Registration
