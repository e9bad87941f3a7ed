import Mathlib.Data.List.Nodup
import Mathlib.Data.List.Pairwise
import Registrar.Database.Directory

/-!
Claiming our own entry in the directory.

The claim is made in five steps. Whatever part of them was carried out before, all five together
end in the same rows: the row that is ours was found or added by the first step, the later steps
keep it ours, and what they write is written again. A directory whose entry is settled is changed
by no step.
-/

namespace Registrar

open Database

/-- What the directory is to say of ourselves. -/
structure OwnEntry where
  aci : ServiceId
  pni : ServiceId
  e164 : String
  profileKey : ProfileKey

/-- What is to stand in a column of our entry. -/
def OwnEntry.value (o : OwnEntry) : IdColumn → String
  | .aci => o.aci.toString
  | .pni => o.pni.toString
  | .e164 => o.e164

/-- The steps in which our entry is claimed. -/
inductive ClaimStep where
  | arrive
  | share
  | register
  | link
  | setKey
  deriving DecidableEq

def ClaimStep.all : List ClaimStep := [.arrive, .share, .register, .link, .setKey]

/-- The row without its value in a column. -/
def Database.IdColumn.clear (c : IdColumn) (row : RecipientRow) : RecipientRow :=
  match c with
  | .aci => { row with aci := none }
  | .pni => { row with pni := none }
  | .e164 => { row with e164 := none }

/-- The row without its value in a column, if it is a certain one. -/
def Database.IdColumn.drop (c : IdColumn) (v : String) (row : RecipientRow) : RecipientRow :=
  match c with
  | .aci => { row with aci := row.aci.filter (· ≠ v) }
  | .pni => { row with pni := row.pni.filter (· ≠ v) }
  | .e164 => { row with e164 := row.e164.filter (· ≠ v) }

namespace RecipientRows

/-- Rows of which no two have the same id, or the same value in a column of identifiers. -/
structure Valid (t : RecipientRows) : Prop where
  nodup_ids : (t.rows.map RecipientRow.id).Nodup
  id_le : ∀ row ∈ t.rows, row.id ≤ t.lastId
  nodup_values : ∀ c, (columnValues c t.rows).Nodup

/-- Changes the rows with a property. -/
def update (p : RecipientRow → Bool) (f : RecipientRow → RecipientRow) (t : RecipientRows) :
    RecipientRows :=
  { t with rows := t.rows.map fun row => if p row then f row else row }

/-- Takes a value of a column from every row but one. -/
def release (c : IdColumn) (value : String) (self : Int) (t : RecipientRows) : RecipientRows :=
  t.update (fun row => c.value row = some value && row.id ≠ self) c.clear

/-- No row but one has a value in a column. -/
def Free (c : IdColumn) (value : String) (self : Int) (t : RecipientRows) : Prop :=
  ∀ row ∈ t.rows, row.id ≠ self → c.value row ≠ some value

/-- The id of the row that has a value in a column. -/
def find (t : RecipientRows) (c : IdColumn) (value : String) : Option Int :=
  (t.rows.find? fun row => c.value row = some value).map RecipientRow.id

/-- The row that is ours: by the first identifier, else by the second, else by the phone number. -/
def selfId? (o : OwnEntry) (t : RecipientRows) : Option Int :=
  (t.find .aci o.aci.toString).or ((t.find .pni o.pni.toString).or (t.find .e164 o.e164))

/-- The id that is ours, or will be when the row is added. -/
def selfId (o : OwnEntry) (t : RecipientRows) : Int := (t.selfId? o).getD (t.lastId + 1)

/-- One step of the claim of the row `self`. -/
def claim (o : OwnEntry) (self : Int) (t : RecipientRows) : ClaimStep → RecipientRows
  | .arrive =>
    match t.selfId? o with
    | some _ => t
    | none =>
      let row : RecipientRow :=
        { id := t.lastId + 1, aci := o.aci.toString, pni := o.pni.toString, e164 := o.e164 }
      ⟨t.rows ++ [row], t.lastId + 1⟩
  | .share => t.update (·.id = self) fun row => { row with profileSharing := flag true }
  | .register =>
    (t.release .aci (o.value .aci) self).update (·.id = self) fun row =>
      { row with registered := flag true, aci := some o.aci.toString }
  | .link =>
    match t.find .aci o.aci.toString with
    | none => t
    | some id =>
      let free := (t.release .pni (o.value .pni) id).release .e164 (o.value .e164) id
      free.update (·.id = id) fun row =>
        { row with pni := some o.pni.toString, e164 := some o.e164 }
  | .setKey => t.update (·.id = self) fun row => { row with profileKey := o.profileKey.toHex }

def claimAll (o : OwnEntry) (self : Int) (t : RecipientRows) (steps : List ClaimStep) :
    RecipientRows :=
  steps.foldl (claim o self) t

/-- Our entry, as it is to be. -/
def ownRow (o : OwnEntry) (self : Int) : RecipientRow where
  id := self
  aci := some o.aci.toString
  pni := some o.pni.toString
  e164 := some o.e164
  registered := flag true
  profileSharing := flag true
  profileKey := some o.profileKey.toHex

/-- What the whole claim makes of a row: ours says everything, another loses what is ours. -/
def settledRow (o : OwnEntry) (self : Int) (row : RecipientRow) : RecipientRow :=
  if row.id = self then ownRow o self
  else
    IdColumn.e164.drop (o.value .e164)
      (IdColumn.pni.drop (o.value .pni) (IdColumn.aci.drop (o.value .aci) row))

variable {o : OwnEntry} {self : Int} {t : RecipientRows}

/-! ### Unique identifiers -/

theorem mem_columnValues {c : IdColumn} {rows : List RecipientRow} {v : String} :
    v ∈ columnValues c rows ↔ ∃ row ∈ rows, c.value row = some v :=
  List.mem_filterMap

theorem nodup_columnValues_iff {c : IdColumn} {rows : List RecipientRow}
    (hids : (rows.map RecipientRow.id).Nodup) :
    (columnValues c rows).Nodup ↔
      ∀ row ∈ rows, ∀ other ∈ rows, ∀ v, c.value row = some v → c.value other = some v →
        row.id = other.id := by
  rw [columnValues, List.Nodup, List.pairwise_filterMap]
  constructor
  · intro h row hrow other hother v hr ho
    by_contra hid
    have hsymm : Std.Symm fun row other : RecipientRow =>
        ∀ v, c.value row = some v → ∀ w, c.value other = some w → v ≠ w :=
      ⟨fun row other h v ho w hr heq => h w hr v ho heq.symm⟩
    exact h.forall hrow hother (fun heq => hid (heq ▸ rfl)) v hr v ho rfl
  · intro h
    refine hids.of_map.pairwise_of_forall_ne fun row hrow other hother hne v hr w ho => ?_
    rintro rfl
    exact hne (List.inj_on_of_nodup_map hids hrow hother (h row hrow other hother v hr ho))

theorem Valid.row_inj (h : t.Valid) {row other : RecipientRow} (hrow : row ∈ t.rows)
    (hother : other ∈ t.rows) (hid : row.id = other.id) : row = other :=
  List.inj_on_of_nodup_map h.nodup_ids hrow hother hid

theorem Valid.value_inj (h : t.Valid) {c : IdColumn} {v : String} {row other : RecipientRow}
    (hrow : row ∈ t.rows) (hother : other ∈ t.rows) (hr : c.value row = some v)
    (ho : c.value other = some v) : row = other :=
  h.row_inj hrow hother
    ((nodup_columnValues_iff h.nodup_ids).1 (h.nodup_values c) row hrow other hother v hr ho)

theorem conflict?_eq_none_iff {rows : List RecipientRow} :
    conflict? rows = none ↔ ∀ c, (columnValues c rows).Nodup := by
  simp only [conflict?, List.find?_eq_none, List.mem_cons, List.not_mem_nil, or_false,
    forall_eq_or_imp, forall_eq, Bool.not_eq_true, Bool.not_eq_false', decide_eq_true_eq]
  constructor
  · rintro ⟨he164, hpni, haci⟩ c
    cases c with
    | aci => exact haci
    | pni => exact hpni
    | e164 => exact he164
  · intro h
    exact ⟨h .e164, h .pni, h .aci⟩

theorem find_eq_none_iff {c : IdColumn} {v : String} :
    t.find c v = none ↔ ∀ row ∈ t.rows, c.value row ≠ some v := by
  simp [find, List.find?_eq_none]

theorem exists_row_of_find {c : IdColumn} {v : String} {i : Int} (h : t.find c v = some i) :
    ∃ row ∈ t.rows, c.value row = some v ∧ row.id = i := by
  obtain ⟨row, hrow, hid⟩ := Option.map_eq_some_iff.1 h
  exact ⟨row, List.mem_of_find?_eq_some hrow, by simpa using List.find?_some hrow, hid⟩

theorem Valid.find_eq_some (h : t.Valid) {c : IdColumn} {v : String} {row : RecipientRow}
    (hrow : row ∈ t.rows) (hv : c.value row = some v) : t.find c v = some row.id := by
  cases hfind : t.find c v with
  | none => exact absurd hv (find_eq_none_iff.1 hfind row hrow)
  | some i =>
    obtain ⟨other, hother, ho, rfl⟩ := exists_row_of_find hfind
    rw [h.value_inj hother hrow ho hv]

theorem Valid.find_eq_some_iff (h : t.Valid) {c : IdColumn} {v : String} {i : Int} :
    t.find c v = some i ↔ ∃ row ∈ t.rows, row.id = i ∧ c.value row = some v := by
  constructor
  · intro hfind
    obtain ⟨row, hrow, hv, hid⟩ := exists_row_of_find hfind
    exact ⟨row, hrow, hid, hv⟩
  · rintro ⟨row, hrow, rfl, hv⟩
    exact h.find_eq_some hrow hv

/-- A row is found by its id. -/
theorem Valid.find?_eq_some_iff (h : t.Valid) {i : Int} {row : RecipientRow} :
    (t.rows.find? fun row => row.id = i) = some row ↔ row ∈ t.rows ∧ row.id = i := by
  constructor
  · intro hfind
    exact ⟨List.mem_of_find?_eq_some hfind, by simpa using List.find?_some hfind⟩
  · rintro ⟨hrow, rfl⟩
    cases hfind : t.rows.find? fun other => other.id = row.id with
    | none => exact absurd (decide_eq_true rfl) (List.find?_eq_none.1 hfind row hrow)
    | some other =>
      have hid : other.id = row.id := by simpa using List.find?_some hfind
      rw [h.row_inj (List.mem_of_find?_eq_some hfind) hrow hid]

theorem exists_row_of_selfId? {i : Int} (h : t.selfId? o = some i) : ∃ row ∈ t.rows, row.id = i := by
  rw [selfId?, Option.or_eq_some_iff, Option.or_eq_some_iff] at h
  rcases h with h | ⟨-, h | ⟨-, h⟩⟩
  all_goals
    obtain ⟨row, hrow, -, hid⟩ := exists_row_of_find h
    exact ⟨row, hrow, hid⟩

theorem Valid.selfId?_of_aci (h : t.Valid) {row : RecipientRow} (hrow : row ∈ t.rows)
    (haci : row.aci = some o.aci.toString) : t.selfId? o = some row.id := by
  rw [selfId?, h.find_eq_some (c := .aci) hrow haci, Option.some_or]

/-! ### Validity is kept -/

theorem mem_update {p : RecipientRow → Bool} {f : RecipientRow → RecipientRow} {row : RecipientRow} :
    row ∈ (t.update p f).rows ↔ ∃ old ∈ t.rows, (if p old then f old else old) = row :=
  List.mem_map

theorem id_update {p : RecipientRow → Bool} {f : RecipientRow → RecipientRow}
    (hid : ∀ row, (f row).id = row.id) (row : RecipientRow) :
    (if p row then f row else row).id = row.id := by
  split
  · exact hid row
  · rfl

theorem ids_update {p : RecipientRow → Bool} {f : RecipientRow → RecipientRow}
    (hid : ∀ row, (f row).id = row.id) :
    (t.update p f).rows.map RecipientRow.id = t.rows.map RecipientRow.id := by
  rw [update, List.map_map]
  exact List.map_congr_left fun row _ => id_update hid row

/-- Every new value is the old one, or one that no other row has. -/
theorem Valid.update (h : t.Valid) {p : RecipientRow → Bool} {f : RecipientRow → RecipientRow}
    (hid : ∀ row, (f row).id = row.id)
    (hvalue : ∀ c : IdColumn, ∀ row ∈ t.rows, p row → ∀ v, c.value (f row) = some v →
      c.value row = some v ∨
      ∀ other ∈ t.rows, other.id ≠ row.id → c.value (if p other then f other else other) ≠ some v) :
    (t.update p f).Valid where
  nodup_ids := by
    rw [ids_update hid]
    exact h.nodup_ids
  id_le := by
    intro row hrow
    obtain ⟨old, hold, rfl⟩ := mem_update.1 hrow
    rw [id_update hid]
    exact h.id_le old hold
  nodup_values := by
    intro c
    rw [nodup_columnValues_iff (by rw [ids_update hid]; exact h.nodup_ids)]
    intro row hrow other hother v hr ho
    obtain ⟨old, hold, rfl⟩ := mem_update.1 hrow
    obtain ⟨old', hold', rfl⟩ := mem_update.1 hother
    rw [id_update hid, id_update hid]
    by_contra hne
    have hvalueOf (row : RecipientRow) (hrow : row ∈ t.rows)
        (hr : c.value (if p row then f row else row) = some v) : c.value row = some v ∨
        ∀ other ∈ t.rows, other.id ≠ row.id →
          c.value (if p other then f other else other) ≠ some v := by
      by_cases hp : p row = true
      · rw [if_pos hp] at hr
        exact hvalue c row hrow hp v hr
      · rw [if_neg hp] at hr
        exact Or.inl hr
    rcases hvalueOf old hold hr with hr' | hfree
    · rcases hvalueOf old' hold' ho with ho' | hfree
      · exact hne (congrArg RecipientRow.id (h.value_inj hold hold' hr' ho'))
      · exact hfree old hold hne hr
    · exact hfree old' hold' (Ne.symm hne) ho

@[simp]
theorem id_clear (c : IdColumn) (row : RecipientRow) : (c.clear row).id = row.id := by
  cases c <;> rfl

theorem value_of_clear {c c' : IdColumn} {row : RecipientRow} {v : String}
    (h : c.value (c'.clear row) = some v) : c.value row = some v ∧ c ≠ c' := by
  cases c <;> cases c' <;> simp_all [IdColumn.value, IdColumn.clear]

theorem Valid.release (h : t.Valid) (c : IdColumn) (v : String) : (t.release c v self).Valid :=
  h.update (id_clear c) fun _ _ _ _ _ hv => Or.inl (value_of_clear hv).1

theorem exists_of_mem_release {c : IdColumn} {v : String} {row : RecipientRow}
    (h : row ∈ (t.release c v self).rows) : ∃ old ∈ t.rows, old.id = row.id ∧
      (row = c.clear old ∨ row = old ∧ (old.id ≠ self → c.value old ≠ some v)) := by
  obtain ⟨old, hold, rfl⟩ := mem_update.1 h
  refine ⟨old, hold, ?_⟩
  split
  · exact ⟨(id_clear c old).symm, Or.inl rfl⟩
  · rename_i hnot
    refine ⟨rfl, Or.inr ⟨rfl, fun hid hv => hnot ?_⟩⟩
    simp [hid, hv]

theorem free_release (c : IdColumn) (v : String) : (t.release c v self).Free c v self := by
  intro row hrow hid hv
  obtain ⟨old, -, hold, rfl | ⟨rfl, hfree⟩⟩ := exists_of_mem_release hrow
  · exact (value_of_clear hv).2 rfl
  · exact hfree hid hv

theorem Free.release {c : IdColumn} {v : String} (h : t.Free c v self) (c' : IdColumn)
    (v' : String) : (t.release c' v' self).Free c v self := by
  intro row hrow hid hv
  obtain ⟨old, hold, hid', rfl | ⟨rfl, -⟩⟩ := exists_of_mem_release hrow
  · exact h old hold (hid' ▸ hid) (value_of_clear hv).1
  · exact h row hold hid hv

/-- One row may get values that no other row has. -/
theorem Valid.updateSelf (h : t.Valid) {f : RecipientRow → RecipientRow}
    (hid : ∀ row, (f row).id = row.id)
    (hvalue : ∀ (c : IdColumn) row v,
      c.value (f row) = some v → c.value row = some v ∨ t.Free c v self) :
    (t.update (·.id = self) f).Valid := by
  apply h.update hid
  intro c row hrow hself v hv
  refine (hvalue c row v hv).imp id fun hfree other hother hne => ?_
  simp only [decide_eq_true_eq] at hself
  have hother' : other.id ≠ self := hself ▸ hne
  rw [if_neg (by simpa using hother')]
  exact hfree other hother hother'

theorem Valid.share (h : t.Valid) : (t.claim o self .share).Valid :=
  h.updateSelf (fun _ => rfl) fun c _ _ hv => Or.inl (by cases c <;> exact hv)

theorem Valid.setKey (h : t.Valid) : (t.claim o self .setKey).Valid :=
  h.updateSelf (fun _ => rfl) fun c _ _ hv => Or.inl (by cases c <;> exact hv)

theorem Valid.gainAci (h : t.Valid) {v : String} (haci : t.Free .aci v self) :
    (t.update (·.id = self) fun row => { row with registered := flag true, aci := some v }).Valid := by
  refine h.updateSelf (fun _ => rfl) fun c row w hw => ?_
  cases c with
  | aci =>
    cases hw
    exact Or.inr haci
  | pni => exact Or.inl hw
  | e164 => exact Or.inl hw

theorem Valid.gainOthers (h : t.Valid) {v v' : String} (hpni : t.Free .pni v self)
    (he164 : t.Free .e164 v' self) :
    (t.update (·.id = self) fun row => { row with pni := some v, e164 := some v' }).Valid := by
  refine h.updateSelf (fun _ => rfl) fun c row w hw => ?_
  cases c with
  | aci => exact Or.inl hw
  | pni =>
    cases hw
    exact Or.inr hpni
  | e164 =>
    cases hw
    exact Or.inr he164

theorem Valid.register (h : t.Valid) : (t.claim o self .register).Valid :=
  (h.release .aci _).gainAci (free_release .aci _)

theorem Valid.link (h : t.Valid) : (t.claim o self .link).Valid := by
  rw [RecipientRows.claim]
  split
  · exact h
  · exact ((h.release .pni _).release .e164 _).gainOthers
      ((free_release .pni _).release .e164 _) (free_release .e164 _)

theorem Valid.append (h : t.Valid) {row : RecipientRow} (hid : row.id = t.lastId + 1)
    (hvalue : ∀ (c : IdColumn) v, c.value row = some v → ∀ other ∈ t.rows, c.value other ≠ some v) :
    Valid ⟨t.rows ++ [row], t.lastId + 1⟩ := by
  have hids : ((t.rows ++ [row]).map RecipientRow.id).Nodup := by
    rw [List.map_append, List.nodup_append]
    refine ⟨h.nodup_ids, by simp, ?_⟩
    intro i hi j hj
    obtain ⟨other, hother, rfl⟩ := List.mem_map.1 hi
    obtain rfl : j = row.id := by simpa using hj
    have := h.id_le other hother
    omega
  refine ⟨hids, ?_, ?_⟩
  · intro other hother
    rcases List.mem_append.1 hother with hother | hother
    · have := h.id_le other hother
      dsimp only
      omega
    · obtain rfl := List.mem_singleton.1 hother
      dsimp only
      omega
  · intro c
    show (columnValues c (t.rows ++ [row])).Nodup
    rw [columnValues, List.filterMap_append, List.nodup_append]
    refine ⟨h.nodup_values c, by cases hv : c.value row <;> simp [hv], ?_⟩
    intro v hv w hw
    obtain ⟨other, hother, ho⟩ := mem_columnValues.1 hv
    obtain ⟨row', hrow', hr⟩ := List.mem_filterMap.1 hw
    obtain rfl := List.mem_singleton.1 hrow'
    rintro rfl
    exact hvalue c v hr other hother ho

theorem selfId?_eq_none_iff :
    t.selfId? o = none ↔ t.find .aci o.aci.toString = none ∧ t.find .pni o.pni.toString = none ∧
      t.find .e164 o.e164 = none := by
  simp [selfId?, Option.or_eq_none_iff]

theorem Valid.arrive (h : t.Valid) : (t.claim o self .arrive).Valid := by
  rw [RecipientRows.claim]
  cases hself : t.selfId? o with
  | some i => exact h
  | none =>
    obtain ⟨haci, hpni, he164⟩ := selfId?_eq_none_iff.1 hself
    apply h.append rfl
    intro c v hv
    cases c with
    | aci =>
      cases hv
      exact find_eq_none_iff.1 haci
    | pni =>
      cases hv
      exact find_eq_none_iff.1 hpni
    | e164 =>
      cases hv
      exact find_eq_none_iff.1 he164

theorem Valid.claim (h : t.Valid) : ∀ step, (t.claim o self step).Valid
  | .arrive => h.arrive
  | .share => h.share
  | .register => h.register
  | .link => h.link
  | .setKey => h.setKey

theorem Valid.claimAll (h : t.Valid) (steps : List ClaimStep) : (t.claimAll o self steps).Valid := by
  induction steps generalizing t with
  | nil => exact h
  | cons step steps ih => exact ih (h.claim step)

/-! ### The claim as a whole -/

/-- Rows in which our entry is there, whether or not some of the later steps were carried out. -/
structure Underway (o : OwnEntry) (id : Int) (t : RecipientRows) : Prop where
  valid : t.Valid
  found : t.selfId? o = some id

/-- The rows as the whole claim leaves them. -/
def settle (o : OwnEntry) (self : Int) (t : RecipientRows) : RecipientRows :=
  { t with rows := t.rows.map (settledRow o self) }

theorem Valid.underway_arrive (h : t.Valid) :
    Underway o (t.selfId o) (t.claim o (t.selfId o) .arrive) := by
  refine ⟨h.arrive, ?_⟩
  have hvalid : (t.claim o (t.selfId o) .arrive).Valid := h.arrive
  rw [RecipientRows.claim] at hvalid ⊢
  cases hself : t.selfId? o with
  | some i => simp [RecipientRows.selfId, hself]
  | none =>
    rw [hself] at hvalid
    rw [hvalid.selfId?_of_aci (List.mem_append_right _ List.mem_cons_self) rfl,
      RecipientRows.selfId, hself]
    rfl

theorem find_update_of_value {p : RecipientRow → Bool} {f : RecipientRow → RecipientRow}
    {c : IdColumn} (hid : ∀ row, (f row).id = row.id)
    (hvalue : ∀ row, c.value (f row) = c.value row) (v : String) :
    (t.update p f).find c v = t.find c v := by
  have hrow (row : RecipientRow) : c.value (if p row then f row else row) = c.value row := by
    split
    · exact hvalue row
    · rfl
  simp only [find, update, List.find?_map, Function.comp_def, hrow, Option.map_map, id_update hid]

theorem selfId?_update_of_value {p : RecipientRow → Bool} {f : RecipientRow → RecipientRow}
    (hid : ∀ row, (f row).id = row.id) (hvalue : ∀ (c : IdColumn) row, c.value (f row) = c.value row) :
    (t.update p f).selfId? o = t.selfId? o := by
  simp only [selfId?, find_update_of_value hid (hvalue _)]

theorem mem_release_of_id {c : IdColumn} {v : String} {row : RecipientRow} (hrow : row ∈ t.rows)
    (hid : row.id = self) : row ∈ (t.release c v self).rows :=
  mem_update.2 ⟨row, hrow, by simp [hid]⟩

namespace Underway

variable (h : Underway o self t)
include h

theorem arrive : t.claim o self .arrive = t := by
  rw [claim, h.found]

theorem exists_row : ∃ row ∈ t.rows, row.id = self := exists_row_of_selfId? h.found

/-- The row with our first identifier is ours. -/
theorem find_aci {i : Int} (hi : t.find .aci o.aci.toString = some i) : i = self := by
  have hself := h.found
  rw [RecipientRows.selfId?, hi, Option.some_or] at hself
  exact Option.some.inj hself

theorem exists_registered :
    ∃ row ∈ (t.claim o self .register).rows, row.id = self ∧
      IdColumn.aci.value row = some o.aci.toString := by
  obtain ⟨row, hrow, hid⟩ := h.exists_row
  exact ⟨{ row with registered := flag true, aci := some o.aci.toString },
    mem_update.2 ⟨row, mem_release_of_id hrow hid, by simp [hid]⟩, hid, rfl⟩

/--
No step loses the row that is ours: either no identifier moves, or the row gets the first one.
-/
theorem claim (step : ClaimStep) : Underway o self (t.claim o self step) := by
  refine ⟨h.valid.claim step, ?_⟩
  cases step with
  | arrive => rw [h.arrive, h.found]
  | share =>
    refine (selfId?_update_of_value ?_ ?_).trans h.found
    · exact fun _ => rfl
    · intro c _
      cases c <;> rfl
  | register =>
    obtain ⟨row, hrow, hid, haci⟩ := h.exists_registered
    rw [h.valid.register.selfId?_of_aci hrow haci, hid]
  | link =>
    have hvalid : (t.claim o self .link).Valid := h.valid.link
    rw [RecipientRows.claim] at hvalid ⊢
    cases hfind : t.find .aci o.aci.toString with
    | none => exact h.found
    | some i =>
      rw [hfind] at hvalid
      obtain rfl := h.find_aci hfind
      obtain ⟨row, hrow, haci, hid⟩ := exists_row_of_find hfind
      have hmem : row ∈ ((t.release .pni o.pni.toString i).release .e164 o.e164 i).rows :=
        mem_release_of_id (mem_release_of_id hrow hid) hid
      rw [hvalid.selfId?_of_aci (mem_update.2 ⟨row, hmem, rfl⟩)
        (by simpa [hid, IdColumn.value] using haci)]
      simp [hid]
  | setKey =>
    refine (selfId?_update_of_value ?_ ?_).trans h.found
    · exact fun _ => rfl
    · intro c _
      cases c <;> rfl

theorem claimAll (steps : List ClaimStep) : Underway o self (t.claimAll o self steps) := by
  induction steps generalizing t with
  | nil => exact h
  | cons step steps ih => exact ih (h.claim step)

end Underway

theorem settle_update {p : RecipientRow → Bool} {f : RecipientRow → RecipientRow}
    (h : ∀ row, p row → settledRow o self (f row) = settledRow o self row) :
    (t.update p f).settle o self = t.settle o self := by
  simp only [settle, update, List.map_map]
  congr 1
  apply List.map_congr_left
  intro row _
  rw [Function.comp_apply]
  split
  · exact h row ‹_›
  · rfl

theorem settle_updateSelf {f : RecipientRow → RecipientRow} (hid : ∀ row, (f row).id = row.id) :
    (t.update (·.id = self) f).settle o self = t.settle o self := by
  apply settle_update
  intro row hrow
  have hrow : row.id = self := by simpa using hrow
  simp [settledRow, hid, hrow]

theorem settledRow_clear {c : IdColumn} {row : RecipientRow} (hid : row.id ≠ self)
    (hv : c.value row = some (o.value c)) :
    settledRow o self (c.clear row) = settledRow o self row := by
  rw [settledRow, settledRow, id_clear, if_neg hid, if_neg hid]
  cases c with
  | aci =>
    have hv : row.aci = some o.aci.toString := hv
    simp [IdColumn.clear, IdColumn.drop, OwnEntry.value, hv, Option.filter]
  | pni =>
    have hv : row.pni = some o.pni.toString := hv
    simp [IdColumn.clear, IdColumn.drop, OwnEntry.value, hv, Option.filter]
  | e164 =>
    have hv : row.e164 = some o.e164 := hv
    simp [IdColumn.clear, IdColumn.drop, OwnEntry.value, hv, Option.filter]

theorem settle_release (c : IdColumn) :
    (t.release c (o.value c) self).settle o self = t.settle o self := by
  apply settle_update
  intro row hrow
  simp only [Bool.and_eq_true, decide_eq_true_eq] at hrow
  exact settledRow_clear hrow.2 hrow.1

theorem Underway.settle_claim (h : Underway o self t) (step : ClaimStep) :
    (t.claim o self step).settle o self = t.settle o self := by
  cases step with
  | arrive => rw [h.arrive]
  | share => exact settle_updateSelf fun _ => rfl
  | register =>
    refine (settle_updateSelf ?_).trans (settle_release .aci)
    exact fun _ => rfl
  | link =>
    rw [RecipientRows.claim]
    cases hfind : t.find .aci o.aci.toString with
    | none => rfl
    | some i =>
      obtain rfl := h.find_aci hfind
      refine (settle_updateSelf ?_).trans ((settle_release .e164).trans (settle_release .pni))
      exact fun _ => rfl
  | setKey => exact settle_updateSelf fun _ => rfl

theorem Underway.settle_claimAll (h : Underway o self t) (steps : List ClaimStep) :
    (t.claimAll o self steps).settle o self = t.settle o self := by
  induction steps generalizing t with
  | nil => rfl
  | cons step steps ih => exact (ih (h.claim step)).trans (h.settle_claim step)

theorem value_settledRow_of_ne {c : IdColumn} {row : RecipientRow} (hid : row.id ≠ self) :
    c.value (settledRow o self row) ≠ some (o.value c) := by
  rw [settledRow, if_neg hid]
  cases c with
  | aci => simp [IdColumn.value, IdColumn.drop]
  | pni => simp [IdColumn.value, IdColumn.drop]
  | e164 => simp [IdColumn.value, IdColumn.drop]

@[simp]
theorem id_settledRow (row : RecipientRow) : (settledRow o self row).id = row.id := by
  by_cases hid : row.id = self <;> simp [settledRow, ownRow, hid, IdColumn.drop]

theorem settle_settle : (t.settle o self).settle o self = t.settle o self := by
  have hrow (row : RecipientRow) :
      settledRow o self (settledRow o self row) = settledRow o self row := by
    by_cases hid : row.id = self
    · simp [settledRow, ownRow, hid]
    · simp [settledRow, hid, IdColumn.drop]
  simp [settle, Function.comp_def, hrow]

theorem update_eq_self {p : RecipientRow → Bool} {f : RecipientRow → RecipientRow}
    (h : ∀ row ∈ t.rows, p row → f row = row) : t.update p f = t := by
  have hrows : (t.rows.map fun row => if p row then f row else row) = t.rows.map fun row => row := by
    apply List.map_congr_left
    intro row hrow
    split
    · exact h row hrow ‹_›
    · rfl
  rw [update, hrows, List.map_id']

theorem settledRow_eq_self (hsettled : t.settle o self = t) {row : RecipientRow}
    (hrow : row ∈ t.rows) : settledRow o self row = row := by
  have hmap : t.rows.map (settledRow o self) = t.rows.map id := by
    rw [List.map_id]
    exact congrArg RecipientRows.rows hsettled
  exact List.map_inj_left.1 hmap row hrow

theorem updateSelf_eq_self (hsettled : t.settle o self = t) {f : RecipientRow → RecipientRow}
    (hf : ∀ row, row.id = self → f (settledRow o self row) = settledRow o self row) :
    t.update (·.id = self) f = t := by
  apply update_eq_self
  intro row hrow hid
  rw [← settledRow_eq_self hsettled hrow]
  exact hf row (by simpa using hid)

theorem release_eq_self (hsettled : t.settle o self = t) (c : IdColumn) :
    t.release c (o.value c) self = t := by
  apply update_eq_self
  intro row hrow hfree
  simp only [Bool.and_eq_true, decide_eq_true_eq] at hfree
  rw [← settledRow_eq_self hsettled hrow, id_settledRow] at hfree
  exact absurd hfree.1 (value_settledRow_of_ne hfree.2)

/-- Once our entry is settled, no step of the claim changes anything. -/
theorem Underway.claim_eq_self (h : Underway o self t) (hsettled : t.settle o self = t)
    (step : ClaimStep) : t.claim o self step = t := by
  cases step with
  | arrive => exact h.arrive
  | share =>
    apply updateSelf_eq_self hsettled
    intro row hid
    simp [settledRow, ownRow, hid]
  | register =>
    rw [RecipientRows.claim, release_eq_self hsettled .aci]
    apply updateSelf_eq_self hsettled
    intro row hid
    simp [settledRow, ownRow, hid]
  | link =>
    rw [RecipientRows.claim]
    cases hfind : t.find .aci o.aci.toString with
    | none => rfl
    | some i =>
      obtain rfl := h.find_aci hfind
      dsimp only
      rw [release_eq_self hsettled .pni, release_eq_self hsettled .e164]
      apply updateSelf_eq_self hsettled
      intro row hid
      simp [settledRow, ownRow, hid]
  | setKey =>
    apply updateSelf_eq_self hsettled
    intro row hid
    simp [settledRow, ownRow, hid]

theorem Underway.claimAll_eq_self (h : Underway o self t) (hsettled : t.settle o self = t)
    (steps : List ClaimStep) : t.claimAll o self steps = t := by
  induction steps with
  | nil => rfl
  | cons step steps ih =>
    rw [RecipientRows.claimAll, List.foldl_cons, h.claim_eq_self hsettled step]
    exact ih

theorem Underway.find_register (h : Underway o self t) :
    (t.claim o self .register).find .aci o.aci.toString = some self := by
  obtain ⟨row, hrow, hid, haci⟩ := h.exists_registered
  rw [h.valid.register.find_eq_some hrow haci, hid]

theorem drop_of_value {c : IdColumn} {v : String} {row : RecipientRow} (hv : c.value row = some v) :
    c.drop v row = c.clear row := by
  cases c <;> simp_all [IdColumn.value, IdColumn.clear, IdColumn.drop, Option.filter]

theorem drop_eq_self {c : IdColumn} {v : String} {row : RecipientRow} (hv : c.value row ≠ some v) :
    c.drop v row = row := by
  have hfilter (value : Option String) (hne : value ≠ some v) : value.filter (· ≠ v) = value := by
    cases value with
    | none => rfl
    | some w => simpa [Option.filter] using hne
  cases c with
  | aci => rw [IdColumn.drop, hfilter row.aci hv]
  | pni => rw [IdColumn.drop, hfilter row.pni hv]
  | e164 => rw [IdColumn.drop, hfilter row.e164 hv]

theorem rows_release (c : IdColumn) (v : String) :
    (t.release c v self).rows =
      t.rows.map fun row => if row.id = self then row else c.drop v row := by
  apply List.map_congr_left
  intro row _
  by_cases hid : row.id = self
  · simp [hid]
  · by_cases hv : c.value row = some v
    · rw [if_pos (by simp [hv, hid]), if_neg hid, drop_of_value hv]
    · rw [if_neg (by simp [hv]), if_neg hid, drop_eq_self hv]

theorem Underway.claimAll_all (h : Underway o self t) :
    t.claimAll o self ClaimStep.all = t.settle o self := by
  have hlink := (h.claim .share).find_register
  -- The fourth step looks our row up, so it is opened where the row is known to be found.
  rw [RecipientRows.claimAll, ClaimStep.all, List.foldl_cons, h.arrive, List.foldl_cons,
    List.foldl_cons, List.foldl_cons, List.foldl_cons, List.foldl_nil]
  rw [RecipientRows.claim.eq_def _ _ _ .link]
  dsimp only
  rw [hlink]
  simp only [RecipientRows.claim, update, settle, rows_release, List.map_map]
  congr 1
  apply List.map_congr_left
  intro row _
  by_cases hid : row.id = self
  · simp [hid, settledRow, ownRow]
  · simp [hid, settledRow, IdColumn.drop]

theorem Underway.mem_settle (h : Underway o self t) : ownRow o self ∈ (t.settle o self).rows := by
  obtain ⟨row, hrow, hid⟩ := h.exists_row
  exact List.mem_map.2 ⟨row, hrow, by rw [settledRow, if_pos hid]⟩

/-! ### From any rows -/

theorem Valid.claimAll_cons_arrive (h : t.Valid) (steps : List ClaimStep) :
    Underway o (t.selfId o) (t.claimAll o (t.selfId o) (.arrive :: steps)) :=
  h.underway_arrive.claimAll steps

theorem Valid.claimAll_all (h : t.Valid) : t.claimAll o (t.selfId o) ClaimStep.all =
    (t.claim o (t.selfId o) .arrive).settle o (t.selfId o) := by
  have hunderway : Underway o (t.selfId o) (t.claim o (t.selfId o) .arrive) := h.underway_arrive
  rw [← hunderway.claimAll_all]
  simp only [RecipientRows.claimAll, ClaimStep.all, List.foldl_cons, hunderway.arrive]

theorem Valid.underway_claimAll (h : t.Valid) :
    Underway o (t.selfId o) (t.claimAll o (t.selfId o) ClaimStep.all) :=
  h.claimAll_cons_arrive _

theorem Valid.settle_claimAll (h : t.Valid) :
    (t.claimAll o (t.selfId o) ClaimStep.all).settle o (t.selfId o) =
      t.claimAll o (t.selfId o) ClaimStep.all := by
  rw [h.claimAll_all, settle_settle]

theorem eq_nil_or_arrive {steps : List ClaimStep} (h : steps <+: ClaimStep.all) :
    steps = [] ∨ ∃ rest, steps = .arrive :: rest := by
  rcases List.prefix_cons_iff.1 h with rfl | ⟨rest, rfl, -⟩
  · exact Or.inl rfl
  · exact Or.inr ⟨rest, rfl⟩

/-- However much of the claim was made, the row that is ours is still the same. -/
theorem Valid.selfId_claimAll (h : t.Valid) {steps : List ClaimStep}
    (hsteps : steps <+: ClaimStep.all) :
    (t.claimAll o (t.selfId o) steps).selfId o = t.selfId o := by
  rcases eq_nil_or_arrive hsteps with rfl | ⟨rest, rfl⟩
  · rfl
  · rw [RecipientRows.selfId, (h.claimAll_cons_arrive rest).found, Option.getD_some]

/-- Steps of the claim that were made before leave no trace. -/
theorem Valid.claimAll_claimAll (h : t.Valid) {steps : List ClaimStep}
    (hsteps : steps <+: ClaimStep.all) :
    (t.claimAll o (t.selfId o) steps).claimAll o (t.selfId o) ClaimStep.all =
      t.claimAll o (t.selfId o) ClaimStep.all := by
  rcases eq_nil_or_arrive hsteps with rfl | ⟨rest, rfl⟩
  · rfl
  · rw [(h.claimAll_cons_arrive rest).claimAll_all, h.claimAll_all, RecipientRows.claimAll,
      List.foldl_cons, ← RecipientRows.claimAll, h.underway_arrive.settle_claimAll]

/-! ### A settled entry -/

theorem Underway.mem_of_settled (h : Underway o self t) (hsettled : t.settle o self = t) :
    ownRow o self ∈ t.rows := by
  rw [← hsettled]
  exact h.mem_settle

/-- Each of our identifiers leads to our entry. -/
theorem Underway.find_of_settled (h : Underway o self t) (hsettled : t.settle o self = t)
    (c : IdColumn) : t.find c (o.value c) = some self :=
  h.valid.find_eq_some (h.mem_of_settled hsettled) (by cases c <;> rfl)

theorem Underway.find?_of_settled (h : Underway o self t) (hsettled : t.settle o self = t) :
    (t.rows.find? fun row => row.id = self) = some (ownRow o self) :=
  h.valid.find?_eq_some_iff.2 ⟨h.mem_of_settled hsettled, rfl⟩

end RecipientRows

end Registrar
