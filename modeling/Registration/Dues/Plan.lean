import Registration.Attendee
import Registration.Dues.Balances
import Registration.Dues.Buckets
import Registration.Policy

/-!
# Plans of bookings

The ledger only grows, so dues are corrected by booking differences. Three plans list the bookings
for a history: taking back all dues, voiding the dues that payments do not cover, and moving each
VAT bucket to what the attendee should owe.
-/

namespace Registration

open Number (Decimal)

/-- Dues to be booked at a VAT rate. -/
structure Booking where
  cents : Int
  rate : Decimal
  deriving DecidableEq

/-! ## Taking back all dues -/

/-- One booking against each bucket that is not zero. -/
def Buckets.compensation (b : Buckets) : List Booking :=
  (b.entries.filter fun e => e.2 != 0).map fun e => ⟨-e.2, e.1⟩

/-! ## Voiding unpaid dues -/

/-- Lets the available cents cover the positive dues in order and voids what they do not cover. -/
def voidUncovered : Int → List Transaction → List Booking
  | _, [] => []
  | available, t :: rest =>
    let cents := t.amount.cents
    if cents ≤ 0 then voidUncovered available rest
    else if cents ≤ available then voidUncovered (available - cents) rest
    else ⟨-(cents - max available 0), t.amount.rate⟩ :: voidUncovered 0 rest

/-- The bookings of a cancellation; refunded dues count as payments. -/
def cancellation (history : List Transaction) : List Booking :=
  voidUncovered (paymentsOf history + refundsOf history) (validDues history)

/-! ## What an attendee should owe -/

/-- The configured packages that are held, each with its settings and the number held. -/
def heldPackages (p : Policy) (a : Attendee) : List (PackageConfig × Int) :=
  a.packages.entries.filterMap fun e =>
    if e.2 ≤ 0 then none else (p.packages.get? e.1).map fun conf => (conf, e.2)

/-- Adds the price of packages to the buckets. -/
def Buckets.addPackage (b : Buckets) (held : PackageConfig × Int) : Except Failure Buckets := do
  let key ← rateKey held.1.rate
  pure (b.add key (held.1.price * held.2))

def manualDues (p : Policy) (info : AdminInfo) : Except Failure Buckets :=
  if info.manualDues = 0 then pure .empty
  else do
    let key ← rateKey p.manualDuesRate
    pure (Buckets.empty.add key info.manualDues)

/-- Manual dues and, except for guests, the prices of the packages held. -/
def desiredDues (p : Policy) (a : Attendee) (info : AdminInfo) : Except Failure Buckets := do
  let manual ← manualDues p info
  if info.hasFlag p.guestFlag then pure manual
  else (heldPackages p a).foldlM Buckets.addPackage manual

/-- The packages held that are not configured, as far as dues can be computed. -/
def ignoredPackages (p : Policy) (a : Attendee) (info : AdminInfo) : List String :=
  match manualDues p info with
  | .error _ => []
  | .ok _ =>
    if info.hasFlag p.guestFlag then []
    else
      let usable (e : String × Int) : Bool :=
        e.2 ≤ 0 || match p.packages.get? e.1 with
          | some conf => (rateKey conf.rate).toBool
          | none => true
      ((a.packages.entries.takeWhile usable).filter fun e =>
        0 < e.2 && (p.packages.get? e.1).isNone).map (·.1)

/-! ## Moving the buckets -/

/-- The differences between desired and current cents, for every key of either. -/
def Buckets.differences (current desired : Buckets) : List (Decimal × Int) :=
  desired.entries.map (fun e => (e.1, e.2 - current.cents e.1)) ++
    (current.entries.filter fun e => !desired.hasKey e.1).map fun e => (e.1, -e.2)

/-- One booking for each bucket that has to change, by key. -/
def Buckets.adjustment (current desired : Buckets) : Except Failure (List Booking) := do
  let differences ← sorted (current.differences desired)
  pure ((differences.filter fun e => e.2 != 0).map fun e => ⟨e.2, e.1⟩)

end Registration
