import Mathlib.Data.List.Nodup
import Registrar.Proofs.Store.Table

/-!
Tables that several owners share.

A key of such a table names its owner first. The part of an owner is a table of its own: what is
written for one owner changes its part as it would change a table of its own, and leaves the parts
of the others as they are.
-/

namespace Registrar.Table

variable {ρ κ ν μ : Type} [DecidableEq ρ]

/-! ### The part of an owner -/

/-- The rest of a key that names a certain owner. -/
def under (owner : ρ) (k : ρ × κ) : Option κ := if k.1 = owner then some k.2 else none

@[simp]
theorem under_self (owner : ρ) (k : κ) : under owner (owner, k) = some k := by
  simp [under]

theorem under_of_ne {owner other : ρ} (h : other ≠ owner) (k : κ) :
    under owner (other, k) = none := by
  simp [under, h]

theorem under_eq_some {owner : ρ} {k : ρ × κ} {k' : κ} :
    under owner k = some k' ↔ k = (owner, k') := by
  obtain ⟨other, key⟩ := k
  by_cases h : other = owner <;> simp [under, h]

theorem map_fst_filterMap_under (owner : ρ) (rows : List ((ρ × κ) × ν)) :
    (rows.filterMap fun row => (under owner row.1).map (·, row.2)).map Prod.fst =
      (rows.map Prod.fst).filterMap (under owner) := by
  rw [List.map_filterMap, List.filterMap_map]
  congr 1
  funext row
  cases h : under owner row.1 <;> simp [h]

/-- The rows of one owner. -/
def part (t : Table (ρ × κ) ν) (owner : ρ) : Table κ ν where
  rows := t.rows.filterMap fun row => (under owner row.1).map (·, row.2)
  nodup_keys := by
    rw [map_fst_filterMap_under]
    apply t.nodup_keys.filterMap
    intro k k' key hk hk'
    rw [Option.mem_def, under_eq_some] at hk hk'
    rw [hk, hk']

theorem keys_part (t : Table (ρ × κ) ν) (owner : ρ) :
    (t.part owner).keys = t.keys.filterMap (under owner) :=
  map_fst_filterMap_under owner t.rows

theorem mem_keys_part {t : Table (ρ × κ) ν} {owner : ρ} {k : κ} :
    k ∈ (t.part owner).keys ↔ (owner, k) ∈ t.keys := by
  simp [keys_part, under_eq_some]

@[simp]
theorem part_empty (owner : ρ) : (∅ : Table (ρ × κ) ν).part owner = ∅ := rfl

theorem count_part (t : Table (ρ × κ) ν) (owner : ρ) (p : ν → Bool) :
    (t.part owner).count (fun _ v => p v) = t.count fun k v => k.1 = owner && p v := by
  rw [count, count, part, List.countP_filterMap]
  congr 1
  funext row
  by_cases h : row.1.1 = owner <;> simp [under, h]

theorem size_part (t : Table (ρ × κ) ν) (owner : ρ) :
    (t.part owner).size = t.count fun k _ => k.1 = owner := by
  have hcount := count_part t owner fun _ => true
  simp only [Bool.and_true] at hcount
  rw [← hcount, size, count, List.countP_true]

variable [DecidableEq κ]

@[simp]
theorem find?_part (t : Table (ρ × κ) ν) (owner : ρ) (k : κ) :
    (t.part owner).find? k = t.find? (owner, k) := by
  obtain ⟨rows, hnodup⟩ := t
  simp only [find?, part]
  clear hnodup
  induction rows with
  | nil => rfl
  | cons row rows ih =>
    obtain ⟨⟨other, key⟩, v⟩ := row
    by_cases ho : other = owner
    · subst ho
      rw [List.filterMap_cons_some (by rw [under_self]; rfl), findRow, findRow, ih]
      simp
    · rw [List.filterMap_cons_none (by rw [under_of_ne ho]; rfl), findRow, ih]
      simp [ho]

theorem part_insert_self (t : Table (ρ × κ) ν) (owner : ρ) (k : κ) (v : ν) :
    (t.insert (owner, k) v).part owner = (t.part owner).insert k v := by
  apply ext
  · rw [keys_part, keys_insert, keys_insert]
    by_cases hk : (owner, k) ∈ t.keys
    · rw [if_pos hk, if_pos (mem_keys_part.2 hk), keys_part]
    · rw [if_neg hk, if_neg fun h => hk (mem_keys_part.1 h), keys_part]
      simp
  · intro k'
    simp [find?_insert]

theorem part_insert_of_ne (t : Table (ρ × κ) ν) {owner other : ρ} (h : other ≠ owner) (k : κ)
    (v : ν) : (t.insert (other, k) v).part owner = t.part owner := by
  apply ext
  · rw [keys_part, keys_insert, keys_part]
    split
    · rfl
    · simp [under_of_ne h]
  · intro k'
    simp [find?_insert, Ne.symm h]

theorem part_mapRows_self (t : Table (ρ × κ) ν) (owner : ρ) (f : ν → ν) :
    (t.mapRows fun k v => if k.1 = owner then f v else v).part owner =
      (t.part owner).mapRows fun _ v => f v := by
  apply ext
  · rw [keys_mapRows, keys_part, keys_mapRows, keys_part]
  · intro k
    simp

theorem part_mapRows_of_ne (t : Table (ρ × κ) ν) {owner other : ρ} (h : other ≠ owner)
    (f : ν → ν) :
    (t.mapRows fun k v => if k.1 = other then f v else v).part owner = t.part owner := by
  apply ext
  · rw [keys_part, keys_mapRows, keys_part]
  · intro k
    simp [Ne.symm h]

/-! ### The same rows in another form -/

omit [DecidableEq ρ] [DecidableEq κ]

/-- The table whose values are the ones of another table in another form. -/
def mapValues (f : ν → μ) (t : Table κ ν) : Table κ μ where
  rows := t.rows.map fun row => (row.1, f row.2)
  nodup_keys := by
    simpa [List.map_map, Function.comp_def] using t.nodup_keys

variable {f : ν → μ}

@[simp]
theorem mapValues_empty : (∅ : Table κ ν).mapValues f = ∅ := rfl

@[simp]
theorem keys_mapValues (t : Table κ ν) : (t.mapValues f).keys = t.keys := by
  simp [keys, mapValues, Function.comp_def]

@[simp]
theorem size_mapValues (t : Table κ ν) : (t.mapValues f).size = t.size := by
  simp [size, mapValues]

theorem count_mapValues (t : Table κ ν) (p : μ → Bool) :
    (t.mapValues f).count (fun _ v => p v) = t.count fun _ v => p (f v) := by
  simp [count, mapValues, List.countP_map, Function.comp_def]

variable [DecidableEq κ]

@[simp]
theorem find?_mapValues (t : Table κ ν) (k : κ) : (t.mapValues f).find? k = (t.find? k).map f := by
  obtain ⟨rows, hnodup⟩ := t
  simp only [find?, mapValues]
  clear hnodup
  induction rows with
  | nil => rfl
  | cons row rows ih =>
    by_cases hk : row.1 = k <;> simp [findRow, hk, ih]

theorem mapValues_insert (t : Table κ ν) (k : κ) (v : ν) :
    (t.insert k v).mapValues f = (t.mapValues f).insert k (f v) := by
  apply ext
  · simp [keys_insert]
  · intro k'
    simp only [find?_mapValues, find?_insert]
    split <;> rfl

theorem mapValues_mapRows (t : Table κ ν) {g : ν → ν} {g' : μ → μ} (h : ∀ v, f (g v) = g' (f v)) :
    (t.mapRows fun _ v => g v).mapValues f = (t.mapValues f).mapRows fun _ v => g' v := by
  apply ext
  · simp
  · intro k
    simp [Function.comp_def, h]

end Registrar.Table
