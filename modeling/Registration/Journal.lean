/-!
# Journal lines

What the office and its services note down, with the importance of each line. Which lines are kept
is set by the name of a level (`Threshold`).
-/

namespace Registration

/-- How important a journal line is. -/
inductive Level where
  | info
  | warning
  | error
  deriving DecidableEq, Repr

namespace Level

/-- The written name of a level. -/
def name : Level → String
  | info => "INFO"
  | warning => "WARNING"
  | error => "ERROR"

/-- The order of levels. -/
def rank : Level → Nat
  | info => 20
  | warning => 30
  | error => 40

end Level

/-- One line of a journal. -/
structure LogLine where
  level : Level
  text : String
  deriving DecidableEq

namespace LogLine

/-- The line with its level in front. -/
def shown (l : LogLine) : String := l.level.name ++ " " ++ l.text

end LogLine

/-! ## Thresholds

A level is named in any case. Two levels have a second name, and there are levels that no line of
the program has.
-/

/-- The least level of the lines that are kept. -/
inductive Threshold where
  | all
  | debug
  | info
  | warning
  | error
  | critical
  deriving DecidableEq, Repr

namespace Threshold

/-- The levels by name. -/
def names : List (String × Threshold) := [
  ("CRITICAL", critical), ("FATAL", critical), ("ERROR", error), ("WARN", warning),
  ("WARNING", warning), ("INFO", info), ("DEBUG", debug), ("NOTSET", all)]

/-- The name a level is shown with. -/
def name : Threshold → String
  | all => "NOTSET"
  | debug => "DEBUG"
  | info => "INFO"
  | warning => "WARNING"
  | error => "ERROR"
  | critical => "CRITICAL"

/-- The capital form of the letters that names are made of; two foreign letters have a capital form
among them. -/
def capital (c : Char) : Char :=
  if c = 'ı' then 'I' else if c = 'ſ' then 'S' else c.toUpper

/-- The level of a name in any case. -/
def ofName? (s : String) : Option Threshold :=
  (names.find? fun n => n.1.toList == s.toList.map capital).map (·.2)

theorem ofName?_name (t : Threshold) : ofName? t.name = some t := by cases t <;> decide

/-- The order of levels. -/
def rank : Threshold → Nat
  | all => 0
  | debug => 10
  | info => Level.info.rank
  | warning => Level.warning.rank
  | error => Level.error.rank
  | critical => 50

/-- The line is kept. -/
def keeps (t : Threshold) (l : LogLine) : Bool := t.rank ≤ l.level.rank

end Threshold

end Registration
