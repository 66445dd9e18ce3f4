import Registration.Proofs.Office.Run

/-!
# Texts that no two registrations share

Nickname, zip and email are checked for duplicates as they are submitted. The zip that is stored in
the end is another one if the deletion mark is added or taken off, and nobody checks that one. So
the texts stay unique along a run exactly as long as no change brings a record, by its mark, to
texts that another registration holds (`uniqueKeys_run_iff`). Restoring a deleted registration can
do so (`not_uniqueKeys_of_restored`).
-/

namespace Registration

/-- The texts of a record as they are stored with a status: the zip with or without the mark. -/
def Attendee.settledKey (a : Attendee) (s : Status) : String × String × String :=
  (a.nickname, (if s = .deleted then DeletionMark.add else DeletionMark.remove) a.id a.zip, a.email)

theorem Attendee.key_refresh (a : Attendee) (b : Balances) (s : Status) :
    (a.refresh b s).key = a.settledKey s := by
  unfold refresh key settledKey
  split_ifs <;> rfl

/-! ## Stores -/

namespace Store

/-- No two numbers have records with the same texts. -/
def UniqueKeys (s : Store) : Prop :=
  ∀ i j a b, s.attendees.get? i = some a → s.attendees.get? j = some b → a.key = b.key → i = j

/-- Another registration holds the texts. -/
def HeldByOther (s : Store) (id : Int) (key : String × String × String) : Prop :=
  ∃ j b, j ≠ id ∧ s.attendees.get? j = some b ∧ b.key = key

variable {s s' : Store} {id : Int} {a : Attendee}

/-- The second store differs in the record of one number. -/
def PutsRecord (s : Store) (id : Int) (a : Attendee) (s' : Store) : Prop :=
  ∀ j, s'.attendees.get? j = if id = j then some a else s.attendees.get? j

/-- A record keeps the texts unique exactly if no other one holds its texts. -/
theorem PutsRecord.uniqueKeys_iff (hput : s.PutsRecord id a s') (h : s.UniqueKeys) :
    s'.UniqueKeys ↔ ¬ s.HeldByOther id a.key := by
  have hget : ∀ j b, s'.attendees.get? j = some b ↔
      (id = j ∧ a = b) ∨ id ≠ j ∧ s.attendees.get? j = some b := by
    intro j b
    rw [hput]
    by_cases hid : id = j <;> simp [hid]
  constructor
  · rintro hunique ⟨j, b, hj, hb, hkey⟩
    exact hj (hunique j id b a ((hget j b).mpr (.inr ⟨hj.symm, hb⟩))
      ((hget id a).mpr (.inl ⟨rfl, rfl⟩)) hkey)
  · intro hnone i j b c hb hc hkey
    rcases (hget i b).mp hb with ⟨rfl, rfl⟩ | ⟨hi, hb⟩
    · rcases (hget j c).mp hc with ⟨hj, -⟩ | ⟨hj, hc⟩
      · exact hj
      · exact absurd ⟨j, c, hj.symm, hc, hkey.symm⟩ hnone
    · rcases (hget j c).mp hc with ⟨rfl, rfl⟩ | ⟨hj, hc⟩
      · exact absurd ⟨i, b, hi.symm, hb, hkey⟩ hnone
      · exact h i j b c hb hc hkey

theorem putsRecord_insert (hrecords : s'.attendees = s.attendees.insert id a) :
    s.PutsRecord id a s' := fun j => by rw [hrecords, Table.get?_insert]

/-- Of two records put one after the other the second one stays. -/
theorem PutsRecord.trans {s'' : Store} {b : Attendee} (h : s.PutsRecord id a s')
    (k : s'.PutsRecord id b s'') : s.PutsRecord id b s'' := by
  intro j
  rw [k, h]
  split_ifs <;> rfl

theorem UniqueKeys.not_heldByOther (h : s.UniqueKeys) (ha : s.attendees.get? id = some a) :
    ¬ s.HeldByOther id a.key := by
  rintro ⟨j, b, hj, hb, hkey⟩
  exact hj (h j id b a hb ha hkey)

theorem UniqueKeys.of_attendees (h : s.UniqueKeys) (hrecords : s'.attendees = s.attendees) :
    s'.UniqueKeys := by
  unfold UniqueKeys
  rw [hrecords]
  exact h

theorem countKey_pos {j : Int} {b : Attendee} (hb : s.attendees.get? j = some b) :
    0 < s.countKey b.key :=
  List.countP_pos_iff.mpr ⟨b, Table.mem_values_iff.mpr ⟨j, hb⟩, by simp⟩

/-- The check of an edit finds every other record with the texts that are submitted. -/
theorem not_heldByOther_of_countKey {stored : Attendee} (h : s.UniqueKeys)
    (hstored : s.attendees.get? id = some stored) {key : String × String × String}
    (hcount : s.countKey key ≤ if stored.key = key then 1 else 0) : ¬ s.HeldByOther id key := by
  rintro ⟨j, b, hj, hb, rfl⟩
  split_ifs at hcount with hsame
  · exact hj (h j id b stored hb hstored hsame.symm)
  · have := countKey_pos hb
    omega

end Store

/-! ## Changes -/

/-- The texts that are checked for a change, those that are submitted or stored. -/
def Change.checkedKey (o : Office) : Change → Option (String × String × String)
  | .update _ a _ => (o.store.attendees.get? a.id).map fun stored =>
      (Desk.editedRecord stored a).key
  | .updateInfo _ i => (o.store.attendees.get? i.attendeeId).map Attendee.key
  | .changeStatus _ id _ _ _ _ => (o.store.attendees.get? id).map Attendee.key

/-- The texts that a change would leave in the record. -/
def Change.settledKey (o : Office) : Change → Option (String × String × String)
  | .update _ a _ => (o.store.attendees.get? a.id).map fun stored =>
      (Desk.editedRecord stored a).settledKey (o.store.currentStatus stored)
  | .updateInfo _ i => (o.store.attendees.get? i.attendeeId).map fun a =>
      a.settledKey (o.store.currentStatus a)
  | .changeStatus _ id (.status target) _ _ _ => (o.store.attendees.get? id).map fun a =>
      a.settledKey target
  | .changeStatus _ _ (.unknown _) _ _ _ => none

/-- By its mark the change leaves other texts than were checked, those of another registration, and
it is stored. -/
structure Change.TakesHeldKey (p : Policy) (o : Office) (c : Change)
    (key : String × String × String) : Prop where
  settled : c.settledKey o = some key
  unchecked : c.checkedKey o ≠ some key
  held : o.store.HeldByOther c.attendeeId key
  stored : (((c.perform p).after o).store.attendees.get? c.attendeeId).map Attendee.key = some key

section Changes

variable {p : Policy} {o o' : Office}

/-- A commit leaves the records, or puts the attendee's with the settled texts. -/
theorem CommitEnd.putsRecord {a : Attendee} {old target : Status} {comment override : String}
    {recorded : Desk Unit} {answer : Except Failure Committed}
    (h : CommitEnd p a old target comment override recorded o answer o')
    (hrec : ∀ o, ∃ t, recorded.after o = o.withCounts t) :
    o'.store = o.store ∨
      ∃ b : Attendee, b.key = a.settledKey target ∧ o.store.PutsRecord a.id b o'.store := by
  rcases h.store_eq hrec with hsame | ⟨r, o₁, t, hsettles, hstore⟩
  · exact .inl hsame
  · have hid := hsettles.id_eq
    have hkey : r.attendee.key = a.settledKey target := by
      rw [hsettles.result]
      exact a.key_refresh _ target
    refine .inr ⟨r.attendee, hkey, Store.putsRecord_insert ?_⟩
    rw [hstore, hsettles.store, ← hid]
    exact Store.attendees_settle o.store r.attendee old r.status comment o.clock.now

/-- What a change does to the records: nothing, or the attendee's record is put under texts that no
other one holds, or under texts that were not checked. -/
def Change.Puts (o : Office) (c : Change) (s' : Store) : Prop :=
  s'.attendees = o.store.attendees ∨
    ∃ b : Attendee, o.store.PutsRecord c.attendeeId b s' ∧
      (¬ o.store.HeldByOther c.attendeeId b.key ∨
        c.settledKey o = some b.key ∧ c.checkedKey o ≠ some b.key)

theorem checked_or_settled {c : Change} {id : Int} {checked : String × String × String}
    {b : Attendee} (hfree : ¬ o.store.HeldByOther id checked)
    (hchecked : c.checkedKey o = some checked) (hsettled : c.settledKey o = some b.key) :
    ¬ o.store.HeldByOther id b.key ∨ c.settledKey o = some b.key ∧ c.checkedKey o ≠ some b.key := by
  by_cases hsame : checked = b.key
  · exact .inl (hsame ▸ hfree)
  · exact .inr ⟨hsettled, fun h => hsame (Option.some.inj (hchecked.symm.trans h))⟩

theorem UpdateEnd.puts {actor : Actor} {a : Attendee} {suppress : Bool}
    {answer : Except Failure Committed} (h : UpdateEnd p o a answer o') (hu : o.store.UniqueKeys) :
    (Change.update actor a suppress).Puts o o'.store := by
  have hraw : ∀ {stored : Attendee} {t : CountTable},
      o.store.PutsRecord a.id (Desk.editedRecord stored a)
        (o.withRecord (Desk.editedRecord stored a) t).store := by
    intro stored t
    have hid := Desk.id_editedRecord stored a
    generalize Desk.editedRecord stored a = b at hid
    exact Store.putsRecord_insert (hid ▸ rfl)
  cases h with
  | refused _ hkept => exact .inl (by rw [hkept.store])
  | unrecorded _ hstored hunique _ _ =>
    exact .inr ⟨_, hraw, .inl (Store.not_heldByOther_of_countKey hu hstored hunique)⟩
  | @committed _ stored deltas _ _ hstored hunique _ hcommit =>
    have hfree := Store.not_heldByOther_of_countKey hu hstored hunique
    rcases hcommit.putsRecord after_pure with hsame | ⟨b, hkey, hput⟩
    · exact .inr ⟨_, hsame ▸ hraw, .inl hfree⟩
    · rw [Desk.id_editedRecord] at hput
      refine .inr ⟨b, Store.PutsRecord.trans hraw hput, checked_or_settled hfree ?_ ?_⟩
      · rw [Change.checkedKey, hstored]
        rfl
      · rw [Change.settledKey, hstored, hkey]
        rfl

theorem InfoEnd.puts {actor : Actor} {i : AdminInfo} {answer : Except Failure Committed}
    (h : InfoEnd p o i answer o') (hs : o.store.WellKept) (hu : o.store.UniqueKeys) :
    (Change.updateInfo actor i).Puts o o'.store := by
  cases h with
  | unknown _ => exact .inl rfl
  | @committed _ a _ _ hstored hcommit =>
    rcases hcommit.putsRecord after_pure with hsame | ⟨b, hkey, hput⟩
    · exact .inl (by rw [hsame]; rfl)
    · rw [hs.numbered _ a hstored] at hput
      refine .inr ⟨b, hput, checked_or_settled (hu.not_heldByOther hstored) ?_ ?_⟩
      · rw [Change.checkedKey, hstored]
        rfl
      · rw [Change.settledKey, hstored, hkey]
        rfl

theorem StatusEnd.puts {actor : Actor} {id : Int} {new : Target} {comment override : String}
    {suppress : Bool} {answer : Except Failure Committed}
    (h : StatusEnd p actor o id new override answer o') (hs : o.store.WellKept)
    (hu : o.store.UniqueKeys) :
    (Change.changeStatus actor id new comment override suppress).Puts o o'.store := by
  cases h with
  | refused _ hposted => exact .inl (by rw [hposted.store])
  | @committed _ a target deltas _ o₁ _ hnew hstored _ _ _ _ hposted hcommit =>
    rcases hcommit.putsRecord (after_recording deltas) with hsame | ⟨b, hkey, hput⟩
    · exact .inl (by rw [hsame, hposted.store])
    · rw [hs.numbered _ a hstored, hposted.store] at hput
      subst hnew
      refine .inr ⟨b, hput, checked_or_settled (hu.not_heldByOther hstored) ?_ ?_⟩
      · rw [Change.checkedKey, hstored]
        rfl
      · rw [Change.settledKey, hstored, hkey]
        rfl

theorem Change.puts (hs : o.store.WellKept) (hu : o.store.UniqueKeys) (c : Change) :
    c.Puts o ((c.perform p).after o).store := by
  cases c with
  | update actor a suppress => exact (updateEnd p o actor a suppress).puts hu
  | updateInfo actor i => exact (infoEnd p hs actor i).puts hs hu
  | changeStatus actor id new comment override suppress =>
    exact (statusEnd p hs actor id new comment override suppress).puts hs hu

/-- A change keeps the texts unique exactly if it does not take held ones by its mark. -/
theorem Change.uniqueKeys_iff (hs : o.store.WellKept) (hu : o.store.UniqueKeys) (c : Change) :
    ((c.perform p).after o).store.UniqueKeys ↔ ∀ key, ¬ c.TakesHeldKey p o key := by
  rcases c.puts (p := p) hs hu with hsame | ⟨b, hput, hkey⟩
  · -- nothing was put, so what is stored under the texts was there before
    refine iff_of_true (hu.of_attendees hsame) fun key htakes => ?_
    have hstored := htakes.stored
    rw [hsame] at hstored
    obtain ⟨a, ha, rfl⟩ := Option.map_eq_some_iff.mp hstored
    exact hu.not_heldByOther ha htakes.held
  · have hafter : (((c.perform p).after o).store.attendees.get? c.attendeeId).map Attendee.key =
        some b.key := by
      rw [hput, if_pos rfl]
      rfl
    rw [hput.uniqueKeys_iff hu]
    constructor
    · intro hfree key htakes
      obtain rfl := Option.some.inj (hafter.symm.trans htakes.stored)
      exact hfree htakes.held
    · intro hnone hheld
      rcases hkey with hfree | ⟨hsettled, hunchecked⟩
      · exact hfree hheld
      · exact hnone b.key ⟨hsettled, hunchecked, hheld, hafter⟩

end Changes

/-! ## Runs -/

section Runs

variable {p : Policy} {o : Office}

/-- Registering checks the texts that it stores. -/
theorem RegisterEnd.uniqueKeys {actor : Actor} {a : Attendee} {o' : Office}
    (h : RegisterEnd p actor o a o') (hu : o.store.UniqueKeys) : o'.store.UniqueKeys := by
  cases h with
  | refused hkept => exact hkept.store ▸ hu
  | @added _ done hunique _ _ =>
    generalize Desk.newRecord actor a = b at hunique
    have hput : o.store.PutsRecord o.store.nextId { b with id := o.store.nextId }
        (o.withNewRecord b (o.store.counts.applyAll done)).store := Store.putsRecord_insert rfl
    rw [hput.uniqueKeys_iff hu]
    rintro ⟨j, c, -, hc, hkey⟩
    have hpos := Store.countKey_pos hc
    rw [hkey] at hpos
    exact absurd hunique hpos.ne'

/-- The event is a change that takes held texts by its mark. -/
def Event.TakesHeldKey (p : Policy) (o : Office) (e : Event) : Prop :=
  ∃ c key, e = .change c ∧ c.TakesHeldKey p o key

/-- Changes that take held texts are the only events after which texts are shared. -/
theorem Event.uniqueKeys_iff (hs : o.store.WellKept) (hu : o.store.UniqueKeys) (e : Event) :
    (e.apply p o).store.UniqueKeys ↔ ¬ e.TakesHeldKey p o := by
  cases e with
  | change c =>
    refine (c.uniqueKeys_iff hs hu).trans ⟨?_, fun h key hkey => h ⟨c, key, rfl, hkey⟩⟩
    rintro h ⟨c', key, hc, hkey⟩
    obtain rfl := Event.change.inj hc
    exact h key hkey
  | register actor a =>
    exact iff_of_true ((registerEnd p o actor a).uniqueKeys hu) fun ⟨_, _, h, _⟩ => nomatch h
  | inject _ => exact iff_of_true hu fun ⟨_, _, h, _⟩ => nomatch h
  | outage _ => exact iff_of_true hu fun ⟨_, _, h, _⟩ => nomatch h
  | tick _ => exact iff_of_true hu fun ⟨_, _, h, _⟩ => nomatch h

theorem uniqueKeys_openingWith (counts : CountTable) (clock : Clock) :
    (Office.openingWith counts clock).store.UniqueKeys := fun _ _ _ _ ha => by cases ha

variable (p) in
/-- Start without registrations, and let any events happen, with requests that end in any way and
any outages. No two registrations ever have the same nickname, zip and email exactly if no change of
the run is stored that, by adding the deletion mark to the zip or taking it off, comes to texts that
another registration holds at that time. -/
theorem uniqueKeys_run_iff (counts : CountTable) (clock : Clock) (events : List Event) :
    (∀ done, done <+: events →
        ((Office.openingWith counts clock).run p done).store.UniqueKeys) ↔
      ∀ done e, done ++ [e] <+: events →
        ¬ e.TakesHeldKey p ((Office.openingWith counts clock).run p done) := by
  have hs := Office.wellKept_run (p := p) (Office.wellKept_openingWith counts clock)
  constructor
  · intro hunique done e hprefix
    have hbefore := hunique done ((List.prefix_append done [e]).trans hprefix)
    have hafter := hunique (done ++ [e]) hprefix
    rw [Office.run_concat] at hafter
    exact (e.uniqueKeys_iff (hs done) hbefore).mp hafter
  · intro hnone done
    induction done using List.reverseRecOn with
    | nil => exact fun _ => uniqueKeys_openingWith counts clock
    | append_singleton done e ih =>
      intro hprefix
      have hbefore := ih ((List.prefix_append done [e]).trans hprefix)
      rw [Office.run_concat]
      exact (e.uniqueKeys_iff (hs done) hbefore).mpr (hnone done e hprefix)

end Runs

/-- A registration is deleted, another one with its texts comes in, and the first one is restored:
both have the same texts. -/
theorem not_uniqueKeys_of_restored :
    ¬ ((Office.openingWith dayCounts newYear).run dayPolicy
      [.register clerk fox, .change (.changeStatus clerk 1 (.status .deleted) "" "" false),
        .register clerk fox,
        .change (.changeStatus clerk 1 (.status .approved) "" "" false)]).store.UniqueKeys := by
  generalize ho : (Office.openingWith dayCounts newYear).run dayPolicy _ = o
  have hfirst : (o.store.attendees.get? 1).map Attendee.key =
      some ("Fox", "12345", "fox@example.org") := by
    rw [← ho]
    decide +kernel
  have hsecond : (o.store.attendees.get? 2).map Attendee.key =
      some ("Fox", "12345", "fox@example.org") := by
    rw [← ho]
    decide +kernel
  intro hunique
  obtain ⟨a, ha, hakey⟩ := Option.map_eq_some_iff.mp hfirst
  obtain ⟨b, hb, hbkey⟩ := Option.map_eq_some_iff.mp hsecond
  have hsame : (1 : Int) = 2 := hunique 1 2 a b ha hb (hakey.trans hbkey.symm)
  omega

end Registration
