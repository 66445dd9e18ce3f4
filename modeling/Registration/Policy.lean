import Registration.Calendar
import Registration.Failure
import Registration.Number.Decimal
import Registration.Number.Real
import Registration.Table
import Registration.Text.Digit

/-!
# Policy

The settings that dues, limits and status changes depend on: the packages with their prices, VAT
rates and limits, the currency, the tolerance below which dues count as paid, and the window that
due dates are moved into. Beside them stands the form in which amounts are shown.
-/

/-! ## Money texts

An amount in cents is shown with two decimals. The cents pass through the 64-bit binary format: they
are rounded to the nearest binary number, divided by one hundred with another rounding, and the
exact value of the quotient is rounded to hundredths, ties to even each time. Cents beyond the
format's range have no text.
-/

namespace Registration.Money

open Registration.Number

/-- The hundredths that are shown for so many cents, both without sign. -/
def hundredths? (cents : Nat) : Option Nat := do
  let whole ← Binary.nearest cents 1
  let quotient ← whole.divNat 100
  some (quotient.roundTo 100)

/-- Hundredths with a point before the last two digits. -/
def pointChars (hundredths : Nat) : List Char :=
  Text.natDigits (hundredths / 100) ++ '.' :: Text.paddedDigits 2 (hundredths % 100)

def chars? (cents : Int) : Option (List Char) :=
  (hundredths? cents.natAbs).map fun h => (if cents < 0 then ['-'] else []) ++ pointChars h

/-- An amount in a currency as a text. -/
def text? (currency : String) (cents : Int) : Option String :=
  (chars? cents).map fun cs => currency ++ " " ++ String.ofList cs

end Registration.Money

/-! ## The settings of an event -/

namespace Registration

/-- Price in cents, VAT rate in percent and limits of one package; a limit of zero is none. -/
structure PackageConfig where
  price : Int
  rate : Number.Decimal
  limit : Int
  maxCount : Int
  deriving DecidableEq

/-- The settings of an event. -/
structure Policy where
  packages : Table String PackageConfig
  currency : String
  guestFlag : String
  manualDuesRate : Number.Decimal
  graceCents : Int
  dueDays : Int
  earliestDueDate : Option Calendar.Date
  latestDueDate : Option Calendar.Date
  datePattern : String
  publicUrl : String
  deskPermission : String

namespace Policy

/-! ### Limited packages -/

/-- The packages with a limit, by code. -/
def limitedPackages (p : Policy) : List (String × PackageConfig) :=
  (p.packages.entries.filter fun e => 0 < e.2.limit).mergeSort fun a b => decide (a.1 ≤ b.1)

theorem mem_limitedPackages {p : Policy} {e : String × PackageConfig} :
    e ∈ p.limitedPackages ↔ e ∈ p.packages.entries ∧ 0 < e.2.limit := by
  simp [limitedPackages, List.mem_mergeSort]

/-! ### Due dates -/

/-- A date moved into the window, the end of the window last. -/
def clampDueDate (p : Policy) (due : Calendar.Date) : Calendar.Date :=
  let due := match p.earliestDueDate with
    | some earliest => if due < earliest then earliest else due
    | none => due
  match p.latestDueDate with
  | some latest => if latest < due then latest else due
  | none => due

def dueDateFor (p : Policy) (today : Calendar.Date) : Except Failure Calendar.Date :=
  match today.addDays p.dueDays with
  | some due => .ok (p.clampDueDate due)
  | none => .error .dateOutOfRange

/-! ### Money -/

/-- An amount in the currency of the event. -/
def moneyText (p : Policy) (cents : Int) : Except Failure String :=
  match Money.text? p.currency cents with
  | some s => .ok s
  | none => .error .amountTooLarge

end Policy

end Registration
