import Mathlib.Data.List.Nodup
import Registrar.Store.Table

/-!
Lists of writes to a table.

What a list of writes leaves under a key is what its last write to that key put there. When the
first part of a list was carried out before, carrying out the whole list gives the same table as
doing it once; the order of the rows is no exception.
-/

namespace Registrar.Table

variable {κ ν : Type} [DecidableEq κ]

/-! ### Keys -/

def keys (t : Table κ ν) : List κ := t.rows.map Prod.fst

theorem isSome_findRow (k : κ) (rows : List (κ × ν)) :
    (findRow k rows).isSome ↔ k ∈ rows.map Prod.fst := by
  induction rows with
  | nil => simp [findRow]
  | cons row rows ih =>
    by_cases hk : row.1 = k
    · simp [findRow, hk]
    · simp only [findRow, hk, if_false, ih, List.map_cons, List.mem_cons, Ne.symm hk, false_or]

theorem isSome_find? (t : Table κ ν) (k : κ) : (t.find? k).isSome ↔ k ∈ t.keys :=
  isSome_findRow k t.rows

theorem findRow_eq_some_of_mem {rows : List (κ × ν)} (h : (rows.map Prod.fst).Nodup)
    {row : κ × ν} (hrow : row ∈ rows) : findRow row.1 rows = some row.2 := by
  induction rows with
  | nil => cases hrow
  | cons first rows ih =>
    rw [List.map_cons, List.nodup_cons] at h
    rcases List.mem_cons.1 hrow with rfl | hrow
    · simp [findRow]
    · have hne : first.1 ≠ row.1 := by
        intro heq
        exact h.1 (heq ▸ List.mem_map_of_mem hrow)
      rw [findRow, if_neg hne, ih h.2 hrow]

theorem find?_eq_some_iff {t : Table κ ν} {k : κ} {v : ν} :
    t.find? k = some v ↔ (k, v) ∈ t.rows := by
  constructor
  · intro h
    have hkey : k ∈ t.rows.map Prod.fst := (isSome_find? t k).1 (by rw [h]; rfl)
    obtain ⟨⟨_, v'⟩, hrow, rfl⟩ := List.mem_map.1 hkey
    have hv : t.find? _ = some v' := findRow_eq_some_of_mem t.nodup_keys hrow
    rw [h] at hv
    cases hv
    exact hrow
  · exact fun hrow => findRow_eq_some_of_mem t.nodup_keys hrow

/-- A table is given by its keys, in their order, and by what is found under each of them. -/
theorem ext {t t' : Table κ ν} (hkeys : t.keys = t'.keys) (hfind : ∀ k, t.find? k = t'.find? k) :
    t = t' := by
  have hrows (s : Table κ ν) : s.rows.map some = s.keys.map fun k => (s.find? k).map (k, ·) := by
    rw [keys, List.map_map]
    apply List.map_congr_left
    intro row hrow
    simp [find?, findRow_eq_some_of_mem s.nodup_keys hrow]
  have hsome : t.rows.map some = t'.rows.map some := by
    rw [hrows, hrows, hkeys]
    exact List.map_congr_left fun k _ => by rw [hfind]
  have heq : t.rows = t'.rows := List.map_injective_iff.2 (fun _ _ => Option.some.inj) hsome
  cases t
  cases t'
  cases heq
  rfl

theorem keys_insertRow (k : κ) (v : ν) (rows : List (κ × ν)) :
    (insertRow k v rows).map Prod.fst =
      if k ∈ rows.map Prod.fst then rows.map Prod.fst else rows.map Prod.fst ++ [k] := by
  induction rows with
  | nil => simp [insertRow]
  | cons row rows ih =>
    by_cases hk : row.1 = k
    · simp [insertRow, hk]
    · simp only [insertRow, hk, if_false, List.map_cons, ih, List.mem_cons, Ne.symm hk, false_or]
      split <;> rfl

theorem keys_insert (t : Table κ ν) (k : κ) (v : ν) :
    (t.insert k v).keys = if k ∈ t.keys then t.keys else t.keys ++ [k] :=
  keys_insertRow k v t.rows

theorem keys_erase (t : Table κ ν) (k : κ) : (t.erase k).keys = t.keys.filter (· ≠ k) := by
  simp only [keys, erase, List.filter_map]
  rfl

omit [DecidableEq κ] in
@[simp]
theorem keys_mapRows (f : κ → ν → ν) (t : Table κ ν) : (t.mapRows f).keys = t.keys := by
  simp [keys, mapRows, Function.comp_def]

theorem mapRows_insert (f : κ → ν → ν) (t : Table κ ν) (k : κ) (v : ν) :
    (t.insert k v).mapRows f = (t.mapRows f).insert k (f k v) := by
  apply ext
  · simp [keys_insert]
  · intro k'
    simp only [find?_mapRows, find?_insert]
    by_cases hk : k' = k
    · simp [hk]
    · simp [hk]

theorem mapRows_mapRows (f g : κ → ν → ν) (t : Table κ ν) :
    (t.mapRows f).mapRows g = t.mapRows fun k v => g k (f k v) :=
  ext (by simp) fun k => by simp [Function.comp_def]

/-! ### Writes -/

/-- Writes the row of a key, or takes it away. -/
def write (t : Table κ ν) : κ × Option ν → Table κ ν
  | (k, some v) => t.insert k v
  | (k, none) => t.erase k

def writeAll (t : Table κ ν) (ws : List (κ × Option ν)) : Table κ ν := ws.foldl write t

/-- What the last write to a key leaves there. -/
def lastWrite (k : κ) : List (κ × Option ν) → Option (Option ν)
  | [] => none
  | w :: ws => (lastWrite k ws).or (if w.1 = k then some w.2 else none)

@[simp]
theorem writeAll_nil (t : Table κ ν) : t.writeAll [] = t := rfl

theorem writeAll_append (t : Table κ ν) (ws ws' : List (κ × Option ν)) :
    t.writeAll (ws ++ ws') = (t.writeAll ws).writeAll ws' :=
  List.foldl_append

theorem find?_write (t : Table κ ν) (w : κ × Option ν) (k : κ) :
    (t.write w).find? k = if w.1 = k then w.2 else t.find? k := by
  obtain ⟨k', v⟩ := w
  cases v with
  | none => simp [write, find?_erase, eq_comm]
  | some v => simp [write, find?_insert, eq_comm]

theorem find?_writeAll (t : Table κ ν) (ws : List (κ × Option ν)) (k : κ) :
    (t.writeAll ws).find? k = (lastWrite k ws).getD (t.find? k) := by
  induction ws generalizing t with
  | nil => rfl
  | cons w ws ih =>
    rw [writeAll, List.foldl_cons, ← writeAll, ih, lastWrite, Option.getD_or, find?_write]
    split <;> rfl

theorem lastWrite_isSome_iff {ws : List (κ × Option ν)} {k : κ} :
    (lastWrite k ws).isSome ↔ k ∈ ws.map Prod.fst := by
  induction ws with
  | nil => simp [lastWrite]
  | cons w ws ih =>
    by_cases hk : w.1 = k
    · simp [lastWrite, hk]
    · simp [lastWrite, hk, ih, Ne.symm hk]

theorem mem_of_lastWrite {ws : List (κ × Option ν)} {k : κ} {v : Option ν}
    (h : lastWrite k ws = some v) : (k, v) ∈ ws := by
  induction ws with
  | nil => cases h
  | cons w ws ih =>
    rw [lastWrite, Option.or_eq_some_iff] at h
    rcases h with h | ⟨-, h⟩
    · exact List.mem_cons_of_mem w (ih h)
    · split at h
      · rename_i hk
        cases h
        cases hk
        exact List.mem_cons_self
      · cases h

theorem find?_writeAll_of_not_mem {t : Table κ ν} {ws : List (κ × Option ν)} {k : κ}
    (h : k ∉ ws.map Prod.fst) : (t.writeAll ws).find? k = t.find? k := by
  have hnone : lastWrite k ws = none := by
    cases hlast : lastWrite k ws with
    | none => rfl
    | some v => exact absurd (lastWrite_isSome_iff.1 (by simp [hlast])) h
  rw [find?_writeAll, hnone]
  rfl

/-- When all writes to a key agree, that is what is found there. -/
theorem find?_writeAll_of_forall {t : Table κ ν} {ws : List (κ × Option ν)} {k : κ} {v : Option ν}
    (hmem : k ∈ ws.map Prod.fst) (h : ∀ w ∈ ws, w.1 = k → w.2 = v) :
    (t.writeAll ws).find? k = v := by
  obtain ⟨v', hv'⟩ := Option.isSome_iff_exists.1 (lastWrite_isSome_iff.2 hmem)
  have hmem' := mem_of_lastWrite hv'
  rw [find?_writeAll, hv', Option.getD_some]
  exact h _ hmem' rfl

theorem find?_writeAll_of_mem {t : Table κ ν} {ws : List (κ × Option ν)}
    (hnodup : (ws.map Prod.fst).Nodup) {w : κ × Option ν} (hw : w ∈ ws) :
    (t.writeAll ws).find? w.1 = w.2 := by
  apply find?_writeAll_of_forall (List.mem_map_of_mem hw)
  intro w' hw' hkey
  rw [List.inj_on_of_nodup_map hnodup hw' hw hkey]

/-! ### Writes that were made before -/

/-- Which key is written, and whether it has a row afterwards. -/
def shape (w : κ × Option ν) : κ × Bool := (w.1, w.2.isSome)

/-- No key is both written and taken away. -/
def Steady (ws : List (κ × Option ν)) : Prop :=
  ∀ w ∈ ws, ∀ w' ∈ ws, w.1 = w'.1 → w.2.isSome = w'.2.isSome

theorem keys_write (t : Table κ ν) (w : κ × Option ν) :
    (t.write w).keys =
      if w.2.isSome then if w.1 ∈ t.keys then t.keys else t.keys ++ [w.1]
      else t.keys.filter (· ≠ w.1) := by
  obtain ⟨k, v⟩ := w
  cases v with
  | none => exact keys_erase t k
  | some v => exact keys_insert t k v

theorem keys_writeAll_congr {t t' : Table κ ν} {ws ws' : List (κ × Option ν)}
    (hws : ws.map shape = ws'.map shape) (ht : t.keys = t'.keys) :
    (t.writeAll ws).keys = (t'.writeAll ws').keys := by
  induction ws generalizing ws' t t' with
  | nil =>
    obtain rfl : ws' = [] := by simpa using hws.symm
    exact ht
  | cons w ws ih =>
    cases ws' with
    | nil => simp at hws
    | cons w' ws' =>
      rw [List.map_cons, List.map_cons, List.cons.injEq, shape, shape, Prod.mk.injEq] at hws
      obtain ⟨⟨hkey, hsome⟩, hws⟩ := hws
      have hwrite : (t.write w).keys = (t'.write w').keys := by
        rw [keys_write, keys_write, hkey, hsome, ht]
      exact @ih (t.write w) (t'.write w') ws' hws hwrite

theorem keys_writeAll_of_settled {t : Table κ ν} {ws : List (κ × Option ν)}
    (h : ∀ w ∈ ws, w.2.isSome ↔ w.1 ∈ t.keys) : (t.writeAll ws).keys = t.keys := by
  induction ws generalizing t with
  | nil => rfl
  | cons w ws ih =>
    have hw := h w List.mem_cons_self
    have hkeys : (t.write w).keys = t.keys := by
      rw [keys_write]
      by_cases hsome : w.2.isSome
      · simp [hsome, hw.1 hsome]
      · have hnot : w.1 ∉ t.keys := fun hmem => hsome (hw.2 hmem)
        rw [if_neg hsome, List.filter_eq_self]
        intro k hk
        have hne : k ≠ w.1 := fun heq => hnot (heq ▸ hk)
        simpa using hne
    rw [writeAll, List.foldl_cons, ← writeAll, ih, hkeys]
    intro w' hw'
    rw [hkeys]
    exact h w' (List.mem_cons_of_mem w hw')

theorem settled_writeAll (t : Table κ ν) {ws : List (κ × Option ν)} (h : Steady ws)
    {w : κ × Option ν} (hw : w ∈ ws) : w.2.isSome ↔ w.1 ∈ (t.writeAll ws).keys := by
  obtain ⟨v, hv⟩ := Option.isSome_iff_exists.1 (lastWrite_isSome_iff.2 (List.mem_map_of_mem hw))
  rw [← isSome_find?, find?_writeAll, hv, Option.getD_some, h w hw _ (mem_of_lastWrite hv) rfl]

omit [DecidableEq κ] in
theorem Steady.of_prefix {ws ws' : List (κ × Option ν)} (h : Steady ws) (hpre : ws' <+: ws) :
    Steady ws' :=
  fun w hw w' hw' => h w (hpre.mem hw) w' (hpre.mem hw')

theorem writeAll_writeAll_of_shape {t : Table κ ν} {ws ws' : List (κ × Option ν)}
    (hshape : ws'.map shape = ws.map shape) (h : Steady ws) :
    (t.writeAll ws').writeAll ws = t.writeAll ws := by
  apply ext
  · -- The keys of `ws'` are those of `ws`, and after them every write of `ws` finds its key settled.
    have hkeys : (t.writeAll ws').keys = (t.writeAll ws).keys := keys_writeAll_congr hshape rfl
    rw [keys_writeAll_of_settled, hkeys]
    intro w hw
    rw [hkeys]
    exact settled_writeAll t h hw
  · intro k
    simp only [find?_writeAll]
    cases hlast : lastWrite k ws with
    | some v => rfl
    | none =>
      have hfirst : ws'.map Prod.fst = ws.map Prod.fst := by
        have := congrArg (List.map Prod.fst) hshape
        simpa [shape, Function.comp_def] using this
      have hlast' : lastWrite k ws' = none := by
        cases hlast' : lastWrite k ws' with
        | none => rfl
        | some v =>
          have hmem := lastWrite_isSome_iff.1 (show (lastWrite k ws').isSome by simp [hlast'])
          rw [hfirst, ← lastWrite_isSome_iff, hlast] at hmem
          cases hmem
      simp [hlast']

/-- Writes that were made before, perhaps with other values, leave no trace. -/
theorem writeAll_writeAll_of_prefix {t : Table κ ν} {ws ws' : List (κ × Option ν)}
    (hpre : ws'.map shape <+: ws.map shape) (h : Steady ws) :
    (t.writeAll ws').writeAll ws = t.writeAll ws := by
  have htake : ws'.map shape = (ws.take ws'.length).map shape := by
    rw [List.map_take]
    simpa using List.prefix_iff_eq_take.1 hpre
  rw [← List.take_append_drop ws'.length ws, writeAll_append, writeAll_append,
    writeAll_writeAll_of_shape htake (h.of_prefix (List.take_prefix _ _))]

/-- Writing what is there already changes nothing. -/
theorem writeAll_eq_self {t : Table κ ν} {ws : List (κ × Option ν)}
    (h : ∀ w ∈ ws, t.find? w.1 = w.2) : t.writeAll ws = t := by
  apply ext
  · apply keys_writeAll_of_settled
    intro w hw
    rw [← h w hw, isSome_find?]
  · intro k
    rw [find?_writeAll]
    cases hlast : lastWrite k ws with
    | none => rfl
    | some v => exact (h _ (mem_of_lastWrite hlast)).symm

end Registrar.Table
