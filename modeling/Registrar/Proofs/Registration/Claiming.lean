import Registrar.Proofs.Registration.Complete

/-!
What the calls for our own entry make of a directory: which row becomes ours, what it says then, and
what is left of the other rows.
-/

namespace Registrar

open Database

namespace OwnEntry

/-- No row has any of our identifiers. -/
def Unknown (o : OwnEntry) (t : RecipientRows) : Prop :=
  ∀ c, ∀ row ∈ t.rows, c.value row ≠ some (o.value c)

/--
The id of the row that is to be ours: the row with our first identifier, else the one with the
second, else the one with our phone number, else a new row.
-/
inductive Resolves (o : OwnEntry) (t : RecipientRows) : Int → Prop where
  | byAci {row : RecipientRow} (hrow : row ∈ t.rows) (haci : row.aci = some o.aci.toString) :
    Resolves o t row.id
  | byPni {row : RecipientRow} (hrow : row ∈ t.rows) (hpni : row.pni = some o.pni.toString)
    (hnoAci : ∀ other ∈ t.rows, other.aci ≠ some o.aci.toString) : Resolves o t row.id
  | byPhone {row : RecipientRow} (hrow : row ∈ t.rows) (he164 : row.e164 = some o.e164)
    (hnoAci : ∀ other ∈ t.rows, other.aci ≠ some o.aci.toString)
    (hnoPni : ∀ other ∈ t.rows, other.pni ≠ some o.pni.toString) : Resolves o t row.id
  | added (hunknown : o.Unknown t) : Resolves o t (t.lastId + 1)

/-- Someone else's row, without our second identifier and without our phone number. -/
def withdrawn (o : OwnEntry) (row : RecipientRow) : RecipientRow :=
  { row with
    pni := row.pni.filter (· ≠ o.pni.toString)
    e164 := row.e164.filter (· ≠ o.e164) }

/-- The rows `t'` are the rows `t` in which the row `self` was made our entry. -/
structure Claimed (o : OwnEntry) (self : Int) (t t' : RecipientRows) : Prop where
  resolves : o.Resolves t self
  valid : t'.Valid
  lastId_le : t'.lastId ≤ Int64.maxValue.toInt
  own : RecipientRows.ownRow o self ∈ t'.rows
  free : ∀ c, t'.Free c (o.value c) self
  ids_of_known : ¬o.Unknown t → t'.rows.map RecipientRow.id = t.rows.map RecipientRow.id
  ids_of_unknown : o.Unknown t →
    t.lastId < self ∧ t'.rows.map RecipientRow.id = t.rows.map RecipientRow.id ++ [self]
  others : t'.rows.filter (·.id ≠ self) = (t.rows.filter (·.id ≠ self)).map o.withdrawn

end OwnEntry

/-- The five calls of a claim, each made on what the one before left, all succeed. -/
def Database.Claims (db : Database) (o : OwnEntry) (self : Int) (db' : Database) : Prop :=
  ∃ db₁ db₂ db₃ db₄,
    trustedRecipient o.aci o.pni o.e164 db = .ok (self, db₁) ∧
    setProfileSharing self true db₁ = .ok ((), db₂) ∧
    markRegistered self o.aci db₂ = .ok ((), db₃) ∧
    linkSelf o.aci o.pni o.e164 db₃ = .ok (self, db₄) ∧
    setProfileKey self o.profileKey db₄ = .ok ((), db')

section

variable {o : OwnEntry} {self : Int} {t : RecipientRows}

/-! ### The row that is to be ours -/

theorem unknown_iff : o.Unknown t ↔ t.selfId? o = none := by
  rw [RecipientRows.selfId?_eq_none_iff]
  simp only [RecipientRows.find_eq_none_iff]
  constructor
  · intro h
    exact ⟨h .aci, h .pni, h .e164⟩
  · rintro ⟨haci, hpni, he164⟩ c
    cases c with
    | aci => exact haci
    | pni => exact hpni
    | e164 => exact he164

theorem resolves_selfId (o : OwnEntry) (t : RecipientRows) : o.Resolves t (t.selfId o) := by
  rw [RecipientRows.selfId]
  cases hself : t.selfId? o with
  | none => exact .added (unknown_iff.2 hself)
  | some i =>
    rw [RecipientRows.selfId?, Option.or_eq_some_iff, Option.or_eq_some_iff] at hself
    rcases hself with haci | ⟨hnoAci, hpni | ⟨hnoPni, he164⟩⟩
    · obtain ⟨row, hrow, hv, rfl⟩ := RecipientRows.exists_row_of_find haci
      exact .byAci hrow hv
    · obtain ⟨row, hrow, hv, rfl⟩ := RecipientRows.exists_row_of_find hpni
      exact .byPni hrow hv (RecipientRows.find_eq_none_iff.1 hnoAci)
    · obtain ⟨row, hrow, hv, rfl⟩ := RecipientRows.exists_row_of_find he164
      exact .byPhone hrow hv (RecipientRows.find_eq_none_iff.1 hnoAci)
        (RecipientRows.find_eq_none_iff.1 hnoPni)

theorem arrive_of_known (h : ¬o.Unknown t) : t.claim o self .arrive = t := by
  rw [unknown_iff] at h
  obtain ⟨i, hi⟩ := Option.ne_none_iff_exists'.1 h
  rw [RecipientRows.claim, hi]

theorem exists_arrive_of_unknown (h : o.Unknown t) (self : Int) : ∃ row : RecipientRow,
    row.id = t.lastId + 1 ∧ t.claim o self .arrive = ⟨t.rows ++ [row], t.lastId + 1⟩ := by
  rw [RecipientRows.claim, unknown_iff.1 h]
  exact ⟨_, rfl, rfl⟩

theorem selfId_of_unknown (h : o.Unknown t) : t.selfId o = t.lastId + 1 := by
  rw [RecipientRows.selfId, unknown_iff.1 h]
  rfl

/-! ### The rows of others -/

theorem RecipientRows.Valid.free_aci (h : t.Valid) : t.Free .aci o.aci.toString (t.selfId o) := by
  intro row hrow hid haci
  apply hid
  rw [RecipientRows.selfId, h.selfId?_of_aci hrow haci]
  rfl

theorem settledRow_of_ne {row : RecipientRow} (hid : row.id ≠ self)
    (haci : row.aci ≠ some o.aci.toString) :
    RecipientRows.settledRow o self row = o.withdrawn row := by
  have hdrop : IdColumn.aci.drop (o.value .aci) row = row := RecipientRows.drop_eq_self haci
  rw [RecipientRows.settledRow, if_neg hid, hdrop]
  rfl

theorem others_arrive :
    (t.claim o (t.selfId o) .arrive).rows.filter (·.id ≠ t.selfId o) =
      t.rows.filter (·.id ≠ t.selfId o) := by
  by_cases h : o.Unknown t
  · obtain ⟨row, hid, harrive⟩ := exists_arrive_of_unknown h (t.selfId o)
    rw [harrive, List.filter_append, List.filter_singleton, hid, selfId_of_unknown h]
    simp
  · rw [arrive_of_known h]

theorem RecipientRows.Valid.others_claimAll (h : t.Valid) :
    (t.claimAll o (t.selfId o) ClaimStep.all).rows.filter (·.id ≠ t.selfId o) =
      (t.rows.filter (·.id ≠ t.selfId o)).map o.withdrawn := by
  rw [h.claimAll_all, RecipientRows.settle, List.filter_map]
  simp only [Function.comp_def, RecipientRows.id_settledRow]
  rw [others_arrive]
  apply List.map_congr_left
  intro row hrow
  obtain ⟨hrow, hid⟩ := List.mem_filter.1 hrow
  have hid : row.id ≠ t.selfId o := by simpa using hid
  exact settledRow_of_ne hid (h.free_aci row hrow hid)

theorem RecipientRows.Valid.ids_claimAll (h : t.Valid) :
    (t.claimAll o (t.selfId o) ClaimStep.all).rows.map RecipientRow.id =
      (t.claim o (t.selfId o) .arrive).rows.map RecipientRow.id := by
  rw [h.claimAll_all, RecipientRows.settle, List.map_map]
  exact List.map_congr_left fun row _ => RecipientRows.id_settledRow row

theorem RecipientRows.Valid.claimed (h : t.Valid) (hlimit : t.lastId < Int64.maxValue.toInt) :
    o.Claimed (t.selfId o) t (t.claimAll o (t.selfId o) ClaimStep.all) where
  resolves := resolves_selfId o t
  valid := h.claimAll _
  lastId_le := by
    rw [h.claimAll_all]
    show (t.claim o (t.selfId o) .arrive).lastId ≤ _
    by_cases hunknown : o.Unknown t
    · obtain ⟨row, -, harrive⟩ := exists_arrive_of_unknown hunknown (t.selfId o)
      rw [harrive]
      exact hlimit
    · rw [arrive_of_known hunknown]
      exact Int.le_of_lt hlimit
  own := h.underway_claimAll.mem_of_settled h.settle_claimAll
  free := by
    intro c row hrow hid
    rw [← RecipientRows.settledRow_eq_self h.settle_claimAll hrow]
    exact RecipientRows.value_settledRow_of_ne hid
  ids_of_known := by
    intro hknown
    rw [h.ids_claimAll, arrive_of_known hknown]
  ids_of_unknown := by
    intro hunknown
    obtain ⟨row, hid, harrive⟩ := exists_arrive_of_unknown hunknown (t.selfId o)
    have hself := selfId_of_unknown hunknown
    refine ⟨by omega, ?_⟩
    rw [h.ids_claimAll, harrive, List.map_append, hself, ← hid]
    rfl
  others := h.others_claimAll

end

/-! ### The calls -/

section

variable {α : Type} {o : OwnEntry} {t t' : RecipientRows} {db db' : Database}

theorem claims_claimAll (ht : db.recipients = some t) (hvalid : t.Valid) :
    db.Claims o (t.selfId o)
      { db with recipients := some (t.claimAll o (t.selfId o) ClaimStep.all) } := by
  let withRows (t' : RecipientRows) : Database := { db with recipients := some t' }
  let t₁ := t.claim o (t.selfId o) .arrive
  let t₂ := t₁.claim o (t.selfId o) .share
  let t₃ := t₂.claim o (t.selfId o) .register
  let t₄ := t₃.claim o (t.selfId o) .link
  have h₁ : RecipientRows.Underway o (t.selfId o) t₁ := hvalid.underway_arrive
  have h₂ : RecipientRows.Underway o (t.selfId o) t₂ := h₁.claim .share
  have h₃ : RecipientRows.Underway o (t.selfId o) t₃ := h₂.claim .register
  have h₄ : RecipientRows.Underway o (t.selfId o) t₄ := h₃.claim .link
  obtain ⟨self, harrive, rfl⟩ := (alters_trustedRecipient (o := o)).exists_eq db ht hvalid
  obtain ⟨_, hshare, -⟩ :=
    (alters_setProfileSharing (o := o)).exists_eq (withRows t₁) rfl h₁.valid
  obtain ⟨_, hregister, -⟩ :=
    (alters_markRegistered h₂.exists_row).exists_eq (withRows t₂) rfl h₂.valid
  -- The fourth call looks for our first identifier, which by now stands in our row alone.
  have hfind : t₃.find .aci o.aci.toString = some (t.selfId o) := h₂.find_register
  obtain ⟨self, hlink, hself⟩ :=
    (alters_linkSelf (by rw [hfind]; simp)).exists_eq (withRows t₃) rfl h₃.valid
  obtain rfl := h₃.find_aci hself
  obtain ⟨_, hkey, -⟩ := alters_setProfileKey.exists_eq (withRows t₄) rfl h₄.valid
  exact ⟨withRows t₁, withRows t₂, withRows t₃, withRows t₄, Query.mapError_eq_ok.1 harrive,
    Query.mapError_eq_ok.1 hshare, hregister, hlink, Query.mapError_eq_ok.1 hkey⟩

theorem Database.Claims.claimSelf {self : Int} (h : db.Claims o self db') {d : Device}
    (hdatabase : d.database = db) (houtages : d.outages = []) :
    Registration.claimSelf o.aci o.pni o.e164 o.profileKey d =
      .ok self { d with database := db' } := by
  obtain ⟨db₁, db₂, db₃, db₄, harrive, hshare, hregister, hlink, hkey⟩ := h
  subst hdatabase
  have hconsult {α : Type} {q : Query DatabaseError α} {a : α} {db db' : Database}
      (h : q db = .ok (a, db')) : (q.mapError failure) db = .ok (a, db') :=
    Query.mapError_eq_ok.2 h
  rw [Registration.claimSelf, act_bind_eq, Device.consult, ask_eq_ok houtages (hconsult harrive)]
  dsimp only
  rw [act_bind_eq, Device.consult, ask_eq_ok (d := { d with database := db₁ }) houtages
    (hconsult hshare)]
  dsimp only
  rw [act_bind_eq, ask_eq_ok (d := { d with database := db₂ }) houtages hregister]
  dsimp only
  rw [act_bind_eq, ask_eq_ok (d := { d with database := db₃ }) houtages hlink]
  dsimp only
  rw [act_bind_eq, Device.consult, ask_eq_ok (d := { d with database := db₄ }) houtages
    (hconsult hkey)]
  rfl

/--
From any directory the calls of the claim succeed and put our entry in order. What is said of the
rows is what any caller can see, and the entry is read back as a whole.
-/
theorem exists_claimed (haci : o.aci.uuid.isNil = false) (hpni : o.pni.uuid.isNil = false)
    (ht : db.recipients = some t) (hvalid : t.Valid) (hlimit : t.lastId < Int64.maxValue.toInt) :
    ∃ self t' db', db' = { db with recipients := some t' } ∧ db.Claims o self db' ∧
      o.Claimed self t t' ∧ db'.Answers (recipient self) (some (o.recipient self)) ∧
      ∀ d : Device, d.database = db → d.outages = [] →
        Registration.claimSelf o.aci o.pni o.e164 o.profileKey d =
          .ok self { d with database := db' } := by
  have hclaims := claims_claimAll (o := o) ht hvalid
  have hclaimed : o.Claimed (t.selfId o) t _ := hvalid.claimed hlimit
  refine ⟨_, _, _, rfl, hclaims, hclaimed, ?_, fun d => hclaims.claimSelf⟩
  rw [← ofRow_ownRow haci hpni]
  exact answers_recipient rfl (hvalid.underway_claimAll.find?_of_settled hvalid.settle_claimAll)

namespace Sample

/-- The three identifiers of the entry stand in three different rows. -/
def scattered : RecipientRows where
  rows :=
    [{ id := 1, aci := some "33333333-3333-3333-3333-333333333333", e164 := some "+15550100" },
      { id := 2, pni := some "PNI:22222222-2222-2222-2222-222222222222", e164 := some "+15550111" },
      { id := 5, aci := some "11111111-1111-1111-1111-111111111111" }]
  lastId := 6

theorem valid_scattered : scattered.Valid := by
  refine ⟨by decide, by decide, fun c => ?_⟩
  cases c with
  | aci => decide
  | pni => decide
  | e164 => decide

end Sample

theorem exists_claimed_scattered :
    ∃ o : OwnEntry, o.aci.toString = "11111111-1111-1111-1111-111111111111" ∧
      o.pni.toString = "PNI:22222222-2222-2222-2222-222222222222" ∧ o.e164 = "+15550100" ∧
      ∃ t', o.Claimed 5 Sample.scattered t' ∧
        ({ recipients := some Sample.scattered } : Database).Claims o 5
          { recipients := some t' } := by
  let o : OwnEntry :=
    { aci := ⟨.primary, ⟨List.replicate 32 1, rfl⟩⟩
      pni := ⟨.secondary, ⟨List.replicate 32 2, rfl⟩⟩
      e164 := "+15550100"
      profileKey := ⟨List.replicate 32 7, rfl⟩ }
  obtain ⟨self, t', db', rfl, hclaims, hclaimed, -⟩ := exists_claimed (o := o) rfl rfl
    (rfl : ({ recipients := some Sample.scattered } : Database).recipients = _)
    Sample.valid_scattered (by decide)
  have hself : (trustedRecipient o.aci o.pni o.e164 { recipients := some Sample.scattered }).map
      Prod.fst = .ok 5 := by
    decide +kernel
  obtain ⟨_, _, _, _, harrive, -⟩ := id hclaims
  rw [harrive] at hself
  cases hself
  exact ⟨o, by decide, by decide, rfl, t', hclaimed, hclaims⟩

end

end Registrar
