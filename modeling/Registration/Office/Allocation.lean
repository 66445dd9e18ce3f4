import Registration.Office.State

/-!
# Allocation of packages

A limited package has a count of the places held. Before a change its effect on each count is
computed, and a change that would take more places than the limit is refused; afterwards the effects
are recorded. Only growth is refused, never a release.
-/

namespace Registration

/-- The effect of a change on the count of a package. -/
def packageDelta (code : String) (oldCount newCount : Int) (old target : Status) : CountDelta where
  area := packageArea
  name := code
  pending := newCount * target.pendingMultiplier - oldCount * old.pendingMultiplier
  attending := newCount * target.attendingMultiplier - oldCount * old.attendingMultiplier

/-- Refuses a growth beyond the limit. -/
def checkLimit (t : CountTable) (conf : PackageConfig) (d : CountDelta) : Except Failure Unit :=
  if 0 < d.growth then do
    let current ← t.get d.area d.name
    if conf.limit < current.total + d.growth then throw (.overrun d.name)
  else pure ()

/-- The effects of a change on the given packages, those that change nothing left out. -/
def deltasOn (t : CountTable) (before after : Attendee) (old target : Status) :
    List (String × PackageConfig) → Except Failure (List CountDelta)
  | [] => pure []
  | (code, conf) :: rest => do
    let d := packageDelta code (before.packageCount code) (after.packageCount code) old target
    if d.isEmpty then deltasOn t before after old target rest
    else
      checkLimit t conf d
      let ds ← deltasOn t before after old target rest
      pure (d :: ds)

/-- The effects of a change on the counts, or its refusal. -/
def allocation (p : Policy) (t : CountTable) (before after : Attendee) (old target : Status) :
    Except Failure (List CountDelta) :=
  deltasOn t before after old target p.limitedPackages

/-- The units of a package held by some attendees, each counted as often as a weight says. -/
def unitsHeld (package : String) (weight : Attendee → Int) (as : List Attendee) : Int :=
  as.foldr (fun a sum => a.packageCount package * weight a + sum) 0

/-- The places held of a package, added up over the attendees that hold it. -/
def occupancy (s : Store) (package : String) : Count where
  area := packageArea
  name := package
  pending :=
    unitsHeld package (fun a => (s.currentStatus a).pendingMultiplier) (s.holding package)
  attending :=
    unitsHeld package (fun a => (s.currentStatus a).attendingMultiplier) (s.holding package)

namespace Desk

def record (d : CountDelta) : Desk Count := do
  let (count, counts) ← require ((← store).counts.add d)
  setCounts counts
  pure count

/-- Records effects in order. -/
def recordAll : List CountDelta → Desk (List Count)
  | [] => pure []
  | d :: rest => do
    let count ← record d
    let counts ← recordAll rest
    pure (count :: counts)

/-- Derives the count of a package anew and notes a drift. -/
def recalculate (package : String) : Desk Count := do
  let s ← store
  let derived := occupancy s package
  let stored ← require (s.counts.get packageArea package)
  if (stored.pending, stored.attending) ≠ (derived.pending, derived.attending) then
    note .warning
      ("count drift for package " ++ package ++ ": stored pending " ++
        Text.intText stored.pending ++ " attending " ++ Text.intText stored.attending ++
        ", recalculated pending " ++ Text.intText derived.pending ++ " attending " ++
        Text.intText derived.attending)
  setCounts (← require (s.counts.reset derived))
  pure derived

end Desk

end Registration
