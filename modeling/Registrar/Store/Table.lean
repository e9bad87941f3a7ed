/-!
Finite tables: at most one row per key, in the order in which the keys first came.

The view of a table is `find?`: a row that is written is found under its key and no other, and a row
that is taken away is found no more. A row that is written again keeps its place.
-/

namespace Registrar

/-- The rows of a table; no key has two. -/
structure Table (κ ν : Type) where
  rows : List (κ × ν)
  nodup_keys : (rows.map Prod.fst).Nodup

namespace Table

variable {κ ν : Type} [DecidableEq κ]

def findRow (k : κ) : List (κ × ν) → Option ν
  | [] => none
  | (k', v) :: rest => if k' = k then some v else findRow k rest

/-- Writes the row of a key, in its old place if it had one and at the end otherwise. -/
def insertRow (k : κ) (v : ν) : List (κ × ν) → List (κ × ν)
  | [] => [(k, v)]
  | (k', v') :: rest => if k' = k then (k, v) :: rest else (k', v') :: insertRow k v rest

theorem mem_keys_insertRow {k k' : κ} {v : ν} {rows : List (κ × ν)} :
    k' ∈ (insertRow k v rows).map Prod.fst ↔ k' = k ∨ k' ∈ rows.map Prod.fst := by
  induction rows with
  | nil => simp [insertRow]
  | cons row rest ih =>
    obtain ⟨key, old⟩ := row
    by_cases h : key = k
    · subst h
      simp [insertRow]
    · simp only [insertRow, h, if_false, List.map_cons, List.mem_cons, ih]
      exact or_left_comm

theorem nodup_keys_insertRow {k : κ} {v : ν} {rows : List (κ × ν)}
    (h : (rows.map Prod.fst).Nodup) : ((insertRow k v rows).map Prod.fst).Nodup := by
  induction rows with
  | nil => simp [insertRow]
  | cons row rest ih =>
    obtain ⟨key, old⟩ := row
    rw [List.map_cons, List.nodup_cons] at h
    by_cases hk : key = k
    · subst hk
      simpa [insertRow] using h
    · simp only [insertRow, hk, if_false, List.map_cons, List.nodup_cons]
      refine ⟨fun hmem => ?_, ih h.2⟩
      rcases mem_keys_insertRow.1 hmem with heq | hmem
      · exact hk heq
      · exact h.1 hmem

def empty : Table κ ν := ⟨[], List.nodup_nil⟩

instance : EmptyCollection (Table κ ν) := ⟨empty⟩

instance : Inhabited (Table κ ν) := ⟨empty⟩

def find? (t : Table κ ν) (k : κ) : Option ν := findRow k t.rows

def insert (t : Table κ ν) (k : κ) (v : ν) : Table κ ν :=
  ⟨insertRow k v t.rows, nodup_keys_insertRow t.nodup_keys⟩

def erase (t : Table κ ν) (k : κ) : Table κ ν :=
  ⟨t.rows.filter fun row => row.1 ≠ k, by
    exact (List.filter_sublist.map Prod.fst).nodup t.nodup_keys⟩

/-- Changes every row, keeping its key. -/
def mapRows (f : κ → ν → ν) (t : Table κ ν) : Table κ ν :=
  ⟨t.rows.map fun row => (row.1, f row.1 row.2), by
    simpa [List.map_map, Function.comp_def] using t.nodup_keys⟩

def count (t : Table κ ν) (p : κ → ν → Bool) : Nat :=
  t.rows.countP fun row => p row.1 row.2

def size (t : Table κ ν) : Nat := t.rows.length

/-! ### What each operation does to the view -/

theorem findRow_insertRow (k k' : κ) (v : ν) (rows : List (κ × ν)) :
    findRow k' (insertRow k v rows) = if k' = k then some v else findRow k' rows := by
  induction rows with
  | nil => simp [insertRow, findRow, eq_comm]
  | cons row rest ih =>
    obtain ⟨key, old⟩ := row
    by_cases hk : key = k
    · subst hk
      simp only [insertRow, if_pos, findRow]
      by_cases h : key = k'
      · simp [h]
      · simp [h, Ne.symm h]
    · simp only [insertRow, hk, if_false, findRow, ih]
      by_cases h : key = k'
      · subst h
        simp [hk]
      · simp [h]

theorem findRow_filter_ne (k k' : κ) (rows : List (κ × ν)) :
    findRow k' (rows.filter fun row => row.1 ≠ k) = if k' = k then none else findRow k' rows := by
  induction rows with
  | nil => simp [findRow]
  | cons row rest ih =>
    obtain ⟨key, old⟩ := row
    by_cases hk : key = k
    · subst hk
      rw [List.filter_cons_of_neg (by simp), ih, findRow]
      by_cases h : key = k'
      · simp [h]
      · simp [h]
    · rw [List.filter_cons_of_pos (by simpa using hk), findRow, findRow, ih]
      by_cases h : key = k'
      · subst h
        simp [hk]
      · simp [h]

theorem findRow_map (f : κ → ν → ν) (k : κ) (rows : List (κ × ν)) :
    findRow k (rows.map fun row => (row.1, f row.1 row.2)) = (findRow k rows).map (f k) := by
  induction rows with
  | nil => rfl
  | cons row rest ih =>
    obtain ⟨key, old⟩ := row
    by_cases h : key = k
    · subst h
      simp [findRow]
    · simp [findRow, h, ih]

@[simp]
theorem find?_empty (k : κ) : (∅ : Table κ ν).find? k = none := rfl

theorem find?_insert (t : Table κ ν) (k k' : κ) (v : ν) :
    (t.insert k v).find? k' = if k' = k then some v else t.find? k' :=
  findRow_insertRow k k' v t.rows

theorem find?_erase (t : Table κ ν) (k k' : κ) :
    (t.erase k).find? k' = if k' = k then none else t.find? k' :=
  findRow_filter_ne k k' t.rows

@[simp]
theorem find?_mapRows (f : κ → ν → ν) (t : Table κ ν) (k : κ) :
    (t.mapRows f).find? k = (t.find? k).map (f k) :=
  findRow_map f k t.rows

end Table

end Registrar
