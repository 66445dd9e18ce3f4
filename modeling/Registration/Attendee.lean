import Registration.Calendar
import Registration.Status
import Registration.Table
import Registration.Text.Character
import Registration.Text.Digit
import Registration.Text.Lowercase

/-!
# Attendees

What is kept about a registration: the attendee with the packages chosen and the figures last
derived from the ledger, the information only administrators see, and the changes of status. Beside
them stand the rules for an attendee's texts: the form of an email address, the mark of a deleted
registration, and the number that a badge shows.
-/

/-! ## Records -/

namespace Registration

/-- A moment, written with date, time and offset. -/
abbrev Timestamp := String

/-- One registration. The four `cached` figures come from the ledger. -/
structure Attendee where
  id : Int
  nickname : String
  email : String
  zip : String
  createdAt : Timestamp
  identity : String
  language : String
  packages : Table String Int
  cachedDues : Int
  cachedPayments : Int
  cachedOpen : Int
  cachedDueDate : Option Calendar.Date
  deriving DecidableEq, Inhabited

namespace Attendee

/-- How many units of a package the attendee has chosen. -/
def packageCount (a : Attendee) (package : String) : Int := (a.packages.get? package).getD 0

/-- The texts that no two registrations share. -/
def key (a : Attendee) : String × String × String := (a.nickname, a.zip, a.email)

def withFiguresOf (a b : Attendee) : Attendee :=
  { a with
    cachedDues := b.cachedDues
    cachedPayments := b.cachedPayments
    cachedOpen := b.cachedOpen
    cachedDueDate := b.cachedDueDate }

def duesDiffer (a b : Attendee) : Bool :=
  a.cachedDues != b.cachedDues || a.cachedPayments != b.cachedPayments ||
    a.cachedDueDate != b.cachedDueDate

end Attendee

/-- What only administrators see and change. -/
structure AdminInfo where
  attendeeId : Int
  flags : List String
  permissions : List String
  comments : String
  manualDues : Int
  manualDuesDescription : String
  deriving DecidableEq

namespace AdminInfo

/-- The information about an attendee nothing was written about. -/
def blank (id : Int) : AdminInfo := ⟨id, [], [], "", 0, ""⟩

def hasFlag (i : AdminInfo) (flag : String) : Bool := i.flags.contains flag

/-- The permission is given. -/
def grants (i : AdminInfo) (permission : String) : Bool := i.permissions.contains permission

theorem hasFlag_iff_mem {i : AdminInfo} {flag : String} :
    i.hasFlag flag = true ↔ flag ∈ i.flags := List.contains_iff_mem

theorem grants_iff_mem {i : AdminInfo} {permission : String} :
    i.grants permission = true ↔ permission ∈ i.permissions := List.contains_iff_mem

end AdminInfo

/-- One entry of a status history. -/
structure StatusChange where
  attendeeId : Int
  status : Status
  comment : String
  createdAt : Timestamp
  deriving DecidableEq

/-- Who asks. Without a subject the caller is anonymous. -/
structure Actor where
  subject : String
  isAdmin : Bool
  hasApiToken : Bool
  deriving DecidableEq

namespace Actor

/-- The caller may do everything. -/
def isPrivileged (a : Actor) : Bool := a.isAdmin || a.hasApiToken

end Actor

end Registration

/-! ## Email addresses

Addresses are kept without blanks around them and in lower case, so that equal ones look equal.
-/

namespace Registration.Email

/-- The form in which an address is kept. -/
def normalize (address : String) : String := Text.lowercase (Text.trimBlanks address)

end Registration.Email

/-! ## Deletion marks

A deleted registration gives its texts back for use by others: a mark with the attendee's number is
added to their end. Marking twice changes nothing more, and unmarking removes one mark.
-/

namespace Registration.DeletionMark

def mark (id : Int) : List Char := '_' :: 'd' :: '_' :: Text.intDigits id

/-- The mark of an attendee as a text. -/
def suffix (id : Int) : String := String.ofList (mark id)

/-- The text ends with the attendee's mark. -/
def isMarked (id : Int) (cs : List Char) : Bool := (mark id).isSuffixOf cs

def addChars (id : Int) (cs : List Char) : List Char :=
  if isMarked id cs then cs else cs ++ mark id

/-- The characters without the mark at their end. -/
def removeChars (id : Int) (cs : List Char) : List Char :=
  if isMarked id cs then cs.take (cs.length - (mark id).length) else cs

/-- The text with the mark at its end. -/
def add (id : Int) (s : String) : String := String.ofList (addChars id s.toList)

/-- The text without the mark at its end. -/
def remove (id : Int) (s : String) : String := String.ofList (removeChars id s.toList)

theorem isMarked_append (id : Int) (cs : List Char) : isMarked id (cs ++ mark id) = true := by
  simp [isMarked]

theorem isMarked_addChars (id : Int) (cs : List Char) : isMarked id (addChars id cs) = true := by
  simp only [addChars]
  split
  · assumption
  · exact isMarked_append id cs

/-- Removing a mark just added gives the text back. -/
theorem removeChars_append (id : Int) (cs : List Char) : removeChars id (cs ++ mark id) = cs := by
  simp [removeChars, isMarked_append]

end Registration.DeletionMark

/-! ## Badge numbers

A badge shows the attendee's number and a check letter. The letter comes from the five lowest
decimal digits, each with a weight of its own, modulo the number of letters.
-/

namespace Registration.Badge

def letters : List Char := "FJQCEKNTWLVGYHSZXDBUARP".toList

/-- The weights of the digits, from the lowest. -/
def weights : List Nat := [3, 7, 11, 13, 17]

/-- The sum of the digits of a number, each times its weight, from the lowest digit. -/
def weightedSum : List Nat → Nat → Nat
  | [], _ => 0
  | w :: ws, n => n % 10 * w + weightedSum ws (n / 10)

/-- The check letter of an attendee's number; a number below one counts as zero. -/
def checkLetter (id : Int) : Char :=
  letters.getD (weightedSum weights id.toNat % letters.length) 'F'

/-- The number followed by its check letter. -/
def text (id : Int) : String := Text.intText id ++ String.singleton (checkLetter id)

end Registration.Badge
