import Registration.Text.Digit

/-!
# Calendar dates

Days of the Gregorian calendar, carried back before its adoption, from the year 1 to the year 9999.
A date is a valid year, month and day. `Date.stamp` orders dates; `dayNumber` counts the days since
the calendar's start, and `addDays` moves along that count, with no answer outside the calendar.
`readIso?` reads what `isoChars` writes, and `Date.format` writes a date after a pattern.
-/

namespace Registration.Calendar

/-- A year with a 29th of February. -/
def isLeap (year : Nat) : Bool := year % 4 = 0 && (year % 100 ≠ 0 || year % 400 = 0)

def daysInMonth (year month : Nat) : Nat :=
  if month = 2 then (if isLeap year then 29 else 28)
  else if month = 4 ∨ month = 6 ∨ month = 9 ∨ month = 11 then 30
  else 31

/-- A day of the calendar. -/
structure Date where
  year : Nat
  month : Nat
  day : Nat
  valid : (1 ≤ year ∧ year ≤ 9999) ∧ (1 ≤ month ∧ month ≤ 12) ∧
    (1 ≤ day ∧ day ≤ daysInMonth year month)
  deriving DecidableEq

namespace Date

instance : Inhabited Date := ⟨⟨1, 1, 1, by decide⟩⟩

/-- The date with these parts, if there is one. -/
def of? (year month day : Nat) : Option Date :=
  if h : (1 ≤ year ∧ year ≤ 9999) ∧ (1 ≤ month ∧ month ≤ 12) ∧
      (1 ≤ day ∧ day ≤ daysInMonth year month) then
    some ⟨year, month, day, h⟩
  else none

@[simp] theorem of?_self (d : Date) : of? d.year d.month d.day = some d := by
  simp [of?, d.valid]

/-! ## Order -/

/-- The digits of a date as one number; it orders dates. -/
def stamp (d : Date) : Nat := d.year * 10000 + d.month * 100 + d.day

instance : LT Date := ⟨fun a b => a.stamp < b.stamp⟩

instance : LE Date := ⟨fun a b => a.stamp ≤ b.stamp⟩

instance (a b : Date) : Decidable (a < b) := inferInstanceAs (Decidable (a.stamp < b.stamp))

instance (a b : Date) : Decidable (a ≤ b) := inferInstanceAs (Decidable (a.stamp ≤ b.stamp))

theorem le_iff {a b : Date} : a ≤ b ↔ a.stamp ≤ b.stamp := Iff.rfl

/-! ## Counting days -/

def daysBeforeYear (year : Nat) : Nat :=
  let y := year - 1
  365 * y + y / 4 - y / 100 + y / 400

/-- Days of the first so many months of the year. -/
def daysOfMonths (year : Nat) : Nat → Nat
  | 0 => 0
  | m + 1 => daysOfMonths year m + daysInMonth year (m + 1)

/-- Days of the year before the first of the month. -/
def daysBeforeMonth (year month : Nat) : Nat := daysOfMonths year (month - 1)

/-- The count of days since the start of the calendar, one for its first day. -/
def dayNumber (d : Date) : Nat :=
  daysBeforeYear d.year + daysBeforeMonth d.year d.month + d.day

/-- The day of the year, from one. -/
def dayOfYear (d : Date) : Nat := daysBeforeMonth d.year d.month + d.day

/-- The day of the week, zero for Monday. -/
def weekday (d : Date) : Nat := (d.dayNumber + 6) % 7

/-- The year that holds the day with a positive count. -/
def yearOfDay (n : Nat) : Nat :=
  let y := (n - 1) * 400 / 146097 + 1
  if n ≤ daysBeforeYear y then y - 1
  else if daysBeforeYear (y + 1) < n then y + 1
  else y

/-- The month and day of a day of the year, from the given month on. -/
def monthOfDay (year : Nat) : Nat → Nat → Nat → Nat × Nat
  | 0, month, day => (month, day)
  | fuel + 1, month, day =>
    if day ≤ daysInMonth year month then (month, day)
    else monthOfDay year fuel (month + 1) (day - daysInMonth year month)

def ofDayNumber? (n : Nat) : Option Date :=
  let year := yearOfDay n
  let (month, day) := monthOfDay year 12 1 (n - daysBeforeYear year)
  of? year month day

def lastDayNumber : Nat := 3652059

/-- The date so many days later, if the calendar reaches it. -/
def addDays (d : Date) (days : Int) : Option Date :=
  let n := d.dayNumber + days
  if 1 ≤ n ∧ n ≤ lastDayNumber then ofDayNumber? n.toNat else none

/-! ## Written dates -/

/-- Year, month and day with dashes between. -/
def isoChars (d : Date) : List Char :=
  Text.paddedDigits 4 d.year ++ '-' :: Text.paddedDigits 2 d.month ++
    '-' :: Text.paddedDigits 2 d.day

/-- Year, month and day with dashes between. -/
def iso (d : Date) : String := String.ofList d.isoChars

/-- The number that a row of ASCII digits writes. -/
def digits? (cs : List Char) : Option Nat := (cs.mapM Text.asciiDigit?).map Text.ofDigits

/-- Reads year, month and day with dashes between. -/
def readIso? : List Char → Option Date
  | [a, b, c, d, '-', e, f, '-', g, h] => do
    of? (← digits? [a, b, c, d]) (← digits? [e, f]) (← digits? [g, h])
  | _ => none

end Date

/-! ## Patterns

A pattern is a text in which a percent sign and a letter stand for a part of the date, written with
the English names and at midnight; everything else is copied. A null character ends the pattern.
-/

/-- The names of the days of the week, from Monday. -/
def weekdayNames : List String :=
  ["Monday", "Tuesday", "Wednesday", "Thursday", "Friday", "Saturday", "Sunday"]

def monthNames : List String :=
  ["January", "February", "March", "April", "May", "June", "July", "August", "September",
    "October", "November", "December"]

namespace Date

def weekdayName (d : Date) : List Char := (weekdayNames.getD d.weekday "").toList

def monthName (d : Date) : List Char := (monthNames.getD (d.month - 1) "").toList

/-- The part of a date that a letter stands for. -/
def part? (d : Date) : Char → Option (List Char)
  | 'd' => some (Text.paddedDigits 2 d.day)
  | 'm' => some (Text.paddedDigits 2 d.month)
  | 'Y' => some (Text.natDigits d.year)
  | 'y' => some (Text.paddedDigits 2 (d.year % 100))
  | 'j' => some (Text.paddedDigits 3 d.dayOfYear)
  | 'A' => some d.weekdayName
  | 'a' => some (d.weekdayName.take 3)
  | 'B' => some d.monthName
  | 'b' => some (d.monthName.take 3)
  | 'H' => some ['0', '0']
  | 'M' => some ['0', '0']
  | 'S' => some ['0', '0']
  | 'p' => some ['A', 'M']
  | '%' => some ['%']
  | _ => none

/-- A date written after a pattern. -/
def formatChars (d : Date) : List Char → List Char
  | '%' :: c :: rest =>
    match d.part? c with
    | some part => part ++ formatChars d rest
    | none => '%' :: c :: formatChars d rest
  | c :: rest => c :: formatChars d rest
  | [] => []

/-- A date written after a pattern. -/
def format (d : Date) (pattern : String) : String :=
  String.ofList (d.formatChars (pattern.toList.takeWhile (· ≠ '\x00')))

end Date

end Registration.Calendar
