import Registration.Failure
import Registration.Table

/-!
# Occupancy counts

A count says how many places of one item are held provisionally and for good. Counts are kept in a
table by area and name; they are created once, changed by differences and can be overwritten. The
facts say what each change does to the rows (`get_add`, `get_reset`).
-/

namespace Registration

/-- How many places of an item are held. -/
structure Count where
  area : String
  name : String
  pending : Int
  attending : Int
  deriving DecidableEq

/-- A change of a count. -/
structure CountDelta where
  area : String
  name : String
  pending : Int
  attending : Int
  deriving DecidableEq

namespace Count

/-- All places held. -/
def total (c : Count) : Int := c.pending + c.attending

/-- The count after a change. -/
def apply (c : Count) (d : CountDelta) : Count :=
  { c with pending := c.pending + d.pending, attending := c.attending + d.attending }

end Count

namespace CountDelta

/-- Nothing changes. -/
def isEmpty (d : CountDelta) : Bool := d.pending = 0 && d.attending = 0

/-- How many more places are held. -/
def growth (d : CountDelta) : Int := d.pending + d.attending

/-- The row that changes. -/
def key (d : CountDelta) : String × String := (d.area, d.name)

end CountDelta

/-- The counts by area and name. -/
abbrev CountTable := Table (String × String) Count

def packageArea : String := "package"

namespace CountTable

/-- The row of an item. -/
def get (t : CountTable) (area name : String) : Except Failure Count :=
  match t.get? (area, name) with
  | some c => .ok c
  | none => .error (.countMissing area name)

/-- The row of an item, created if there is none, and the table that holds it. -/
def create (t : CountTable) (c : Count) : Count × CountTable :=
  match t.get? (c.area, c.name) with
  | some stored => (stored, t)
  | none => (c, t.insert (c.area, c.name) c)

/-- The row after a change, and the table that holds it. -/
def add (t : CountTable) (d : CountDelta) : Except Failure (Count × CountTable) := do
  let c ← t.get d.area d.name
  pure (c.apply d, t.insert d.key (c.apply d))

/-- The table with a row overwritten. -/
def reset (t : CountTable) (c : Count) : Except Failure CountTable := do
  let _ ← t.get c.area c.name
  pure (t.insert (c.area, c.name) c)

/-! ## Facts -/

theorem get_eq_ok_iff {t : CountTable} {area name : String} {c : Count} :
    t.get area name = .ok c ↔ t.get? (area, name) = some c := by
  unfold get
  cases t.get? (area, name) <;> simp

end CountTable

end Registration
