import Registration.Failure
import Registration.Ledger
import Registration.Number.Decimal

/-!
# VAT buckets

Dues are summed up per VAT rate. The key of a rate is the rate with six places, rounded half to
even; a rate without a key fails. Keys are compared by value, so a bucket shows the first of the
keys that met in it, and a not-a-number, which equals nothing, opens a bucket each time.
-/

namespace Registration

open Number (Decimal)

/-- The key of a VAT rate: six places, at most 28 digits. -/
def rateKey (rate : Decimal) : Except Failure Decimal :=
  match rate.quantize 6 28 with
  | some key => .ok key
  | none => .error .unusableRate

/-- Cents per VAT key, in the order in which the keys came. -/
structure Buckets where
  entries : List (Decimal × Int)
  deriving DecidableEq

namespace Buckets

def empty : Buckets := ⟨[]⟩

/-- The cents under a key in a list of buckets. -/
def centsIn (key : Decimal) : List (Decimal × Int) → Int
  | [] => 0
  | e :: rest => if e.1.sameValue key then e.2 else centsIn key rest

def hasKeyIn (key : Decimal) (es : List (Decimal × Int)) : Bool := es.any (·.1.sameValue key)

/-- A list of buckets with cents added under a key. -/
def addTo (key : Decimal) (cents : Int) : List (Decimal × Int) → List (Decimal × Int)
  | [] => [(key, cents)]
  | e :: rest =>
    if e.1.sameValue key then (e.1, e.2 + cents) :: rest else e :: addTo key cents rest

/-- The cents under a key, zero without a bucket. -/
def cents (b : Buckets) (key : Decimal) : Int := centsIn key b.entries

/-- There is a bucket with the key. -/
def hasKey (b : Buckets) (key : Decimal) : Bool := hasKeyIn key b.entries

/-- Cents added under a key. -/
def add (b : Buckets) (key : Decimal) (cents : Int) : Buckets := ⟨addTo key cents b.entries⟩

/-- All cents. -/
def total (b : Buckets) : Int := b.entries.foldr (fun e sum => e.2 + sum) 0

@[simp] theorem cents_empty (key : Decimal) : empty.cents key = 0 := rfl

/-- Adding cents under a key adds them to the total. -/
theorem total_add (b : Buckets) (key : Decimal) (n : Int) : (b.add key n).total = b.total + n := by
  obtain ⟨es⟩ := b
  simp only [add, total]
  induction es with
  | nil => simp [addTo]
  | cons e rest ih =>
    simp only [addTo]
    split
    · simp only [List.foldr_cons]; omega
    · simp only [List.foldr_cons, ih]; omega

/-! ## Order of keys -/

/-- The keys can be put in order: no not-a-number among two or more. -/
def orderable (es : List (Decimal × Int)) : Bool := es.length ≤ 1 || !es.any (·.1.isNaN)

/-- The buckets by key. -/
def sorted (es : List (Decimal × Int)) : Except Failure (List (Decimal × Int)) :=
  if orderable es then .ok (es.mergeSort fun a b => !(b.1.less a.1)) else .error .unusableRate

/-! ## The buckets of a history -/

/-- Adds one transaction to the buckets if it is a valid due. -/
def addDue (b : Buckets) (t : Transaction) : Except Failure Buckets :=
  if t.isValidDue then do
    let key ← rateKey t.amount.rate
    pure (b.add key t.amount.cents)
  else pure b

/-- The valid dues of a history per VAT key. -/
def ofHistory (history : List Transaction) : Except Failure Buckets := history.foldlM addDue empty

@[simp] theorem ofHistory_nil : ofHistory [] = .ok empty := rfl

end Buckets

end Registration
