/-!
# Tables

A finite map that remembers the order in which its keys first came; no key stands in it twice. The
view is `get?`; the facts say how `insert` changes it (`get?_insert`), that a new key goes to the
end (`keys_insert`), and that the entries are what the view tells (`mem_entries_iff`).
-/

namespace Registration

/-- A finite map with its keys in order of first insertion. -/
@[ext] structure Table (κ : Type) (α : Type) where
  entries : List (κ × α)
  distinct : (entries.map (·.1)).Nodup
  deriving DecidableEq

namespace Table

variable {κ α : Type} [DecidableEq κ]

/-- The table without entries. -/
def empty : Table κ α := ⟨[], List.nodup_nil⟩

instance : Inhabited (Table κ α) := ⟨empty⟩

/-- The value of a key in a list of entries. -/
def find (k : κ) : List (κ × α) → Option α
  | [] => none
  | e :: rest => if e.1 = k then some e.2 else find k rest

/-- A list of entries in which a key has the given value. -/
def put (k : κ) (v : α) : List (κ × α) → List (κ × α)
  | [] => [(k, v)]
  | e :: rest => if e.1 = k then (e.1, v) :: rest else e :: put k v rest

/-! ## Lists of entries -/

theorem find_put (k j : κ) (v : α) (es : List (κ × α)) :
    find j (put k v es) = if k = j then some v else find j es := by
  induction es with
  | nil => rfl
  | cons e rest ih =>
    by_cases h : e.1 = k
    · subst h
      by_cases hj : e.1 = j <;> simp [put, find, hj]
    · by_cases hj : e.1 = j
      · subst hj
        simp [put, find, h, Ne.symm h]
      · simp [put, find, h, hj, ih]

theorem map_fst_put (k : κ) (v : α) (es : List (κ × α)) :
    (put k v es).map (·.1) = if (find k es).isSome then es.map (·.1) else es.map (·.1) ++ [k] := by
  induction es with
  | nil => rfl
  | cons e rest ih =>
    by_cases h : e.1 = k
    · simp [put, find, h]
    · simp only [put, find, h, if_false, List.map_cons, ih]
      split <;> simp

theorem find_eq_none_iff {k : κ} {es : List (κ × α)} :
    find k es = none ↔ k ∉ es.map (·.1) := by
  induction es with
  | nil => simp [find]
  | cons e rest ih =>
    simp only [find, List.map_cons, List.mem_cons, not_or]
    by_cases h : e.1 = k
    · simp [h]
    · simp [h, ih, Ne.symm h]

theorem nodup_put {k : κ} {v : α} {es : List (κ × α)} (h : (es.map (·.1)).Nodup) :
    ((put k v es).map (·.1)).Nodup := by
  rw [map_fst_put]
  cases hk : find k es with
  | some w => simpa using h
  | none =>
    have hnew := find_eq_none_iff.mp hk
    simp only [Option.isSome_none, Bool.false_eq_true, if_false]
    refine List.nodup_append.mpr ⟨h, by simp, fun a ha b hb => ?_⟩
    simp only [List.mem_singleton] at hb
    rintro rfl
    exact hnew (hb ▸ ha)

/-- Where no key stands twice, a member of the list is what the key leads to. -/
theorem mem_iff_find {k : κ} {v : α} {es : List (κ × α)} (h : (es.map (·.1)).Nodup) :
    (k, v) ∈ es ↔ find k es = some v := by
  induction es with
  | nil => simp [find]
  | cons e rest ih =>
    obtain ⟨hnew, hrest⟩ := List.nodup_cons.mp h
    by_cases hk : e.1 = k
    · subst hk
      have hout : ∀ w, (e.1, w) ∉ rest := fun w hw =>
        hnew (List.mem_map.mpr ⟨(e.1, w), hw, rfl⟩)
      simp [find, hout, Prod.ext_iff, eq_comm]
    · simp [find, hk, ih hrest, Prod.ext_iff, Ne.symm hk]

theorem mem_put {k : κ} {v : α} {e : κ × α} {es : List (κ × α)} (h : e ∈ put k v es) :
    e = (k, v) ∨ e ∈ es := by
  induction es with
  | nil => exact .inl (List.mem_singleton.mp h)
  | cons f rest ih =>
    by_cases hk : f.1 = k
    · rw [put, if_pos hk, List.mem_cons] at h
      rcases h with rfl | h
      · exact .inl (hk ▸ rfl)
      · exact .inr (List.mem_cons_of_mem f h)
    · rw [put, if_neg hk, List.mem_cons] at h
      rcases h with rfl | h
      · exact .inr List.mem_cons_self
      · exact (ih h).imp_right (List.mem_cons_of_mem f)

/-- Putting the value that a key has already changes nothing. -/
theorem put_of_find {k : κ} {v : α} {es : List (κ × α)} (h : find k es = some v) :
    put k v es = es := by
  induction es with
  | nil => simp [find] at h
  | cons e rest ih =>
    by_cases hk : e.1 = k
    · simp only [find, hk, if_true, Option.some.injEq] at h
      simp [put, ← hk, ← h]
    · simp only [find, hk, if_false] at h
      simp [put, hk, ih h]

/-! ## Operations -/

/-- The value of a key. -/
def get? (t : Table κ α) (k : κ) : Option α := find k t.entries

/-- The table in which a key has the given value. -/
def insert (t : Table κ α) (k : κ) (v : α) : Table κ α := ⟨put k v t.entries, nodup_put t.distinct⟩

/-- The table of a list of entries; the last value of a key counts. -/
def ofList (entries : List (κ × α)) : Table κ α :=
  entries.foldl (fun t e => t.insert e.1 e.2) empty

def keys (t : Table κ α) : List κ := t.entries.map (·.1)

/-- The values in the order of their keys. -/
def values (t : Table κ α) : List α := t.entries.map (·.2)

/-- The key has a value. -/
def contains (t : Table κ α) (k : κ) : Bool := (t.get? k).isSome

/-! ## Facts -/

@[simp] theorem get?_empty (k : κ) : (empty : Table κ α).get? k = none := rfl

omit [DecidableEq κ] in
@[simp] theorem values_empty : (empty : Table κ α).values = [] := rfl

@[simp] theorem get?_insert (t : Table κ α) (k j : κ) (v : α) :
    (t.insert k v).get? j = if k = j then some v else t.get? j :=
  find_put k j v t.entries

theorem get?_insert_self (t : Table κ α) (k : κ) (v : α) : (t.insert k v).get? k = some v := by simp

theorem get?_insert_of_ne (t : Table κ α) {k j : κ} (v : α) (h : k ≠ j) :
    (t.insert k v).get? j = t.get? j := by simp [h]

theorem keys_insert (t : Table κ α) (k : κ) (v : α) :
    (t.insert k v).keys = if t.contains k then t.keys else t.keys ++ [k] :=
  map_fst_put k v t.entries

theorem insert_of_get? {t : Table κ α} {k : κ} {v : α} (h : t.get? k = some v) :
    t.insert k v = t :=
  Table.ext (put_of_find h)

/-- A table has no other entries than those it was made of. -/
theorem mem_of_mem_ofList {e : κ × α} {es : List (κ × α)} (h : e ∈ (ofList es).entries) :
    e ∈ es := by
  have hfold : ∀ t : Table κ α,
      e ∈ (es.foldl (fun t e => t.insert e.1 e.2) t).entries → e ∈ t.entries ∨ e ∈ es := by
    clear h
    induction es with
    | nil => exact fun t h => .inl h
    | cons f rest ih =>
      intro t h
      rcases ih _ h with h | h
      · rcases mem_put h with rfl | h
        · exact .inr List.mem_cons_self
        · exact .inl h
      · exact .inr (List.mem_cons_of_mem f h)
  exact (hfold empty h).resolve_left List.not_mem_nil

theorem mem_entries_iff {t : Table κ α} {k : κ} {v : α} :
    (k, v) ∈ t.entries ↔ t.get? k = some v :=
  mem_iff_find t.distinct

theorem mem_values_iff {t : Table κ α} {v : α} : v ∈ t.values ↔ ∃ k, t.get? k = some v := by
  simp only [values, List.mem_map, Prod.exists, exists_eq_right, mem_entries_iff]

end Table

end Registration
