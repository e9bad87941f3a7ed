import Registrar.Proofs.Registration.ClaimCalls
import Registrar.Proofs.ServiceId

/-!
Requests to the directory, in any order.

A request fails only where its own row is missing, and changes nothing then. All others keep the
directory in order: no identifier is in two rows, the ids ascend and none is given up, and what
stands in a column of identifiers can be read. From the last of these it follows that looking an
identifier up agrees with the records.
-/

namespace Registrar

open Database

inductive DirectoryRequest where
  | find (id : ServiceId)
  | findPhone (e164 : String)
  | record (row : Int)
  | knownKey (e164 : String)
  | count
  | trusted (aci pni : ServiceId) (e164 : String)
  | setSharing (row : Int) (enabled : Bool)
  | register (row : Int) (aci : ServiceId)
  | link (aci pni : ServiceId) (e164 : String)
  | setKey (row : Int) (key : ProfileKey)

namespace DirectoryRequest

@[reducible]
def Reply : DirectoryRequest → Type
  | find _ | findPhone _ => Option Int
  | record _ => Option Recipient
  | knownKey _ => Option ProfileKey
  | count => Nat
  | trusted .. | link .. => Int
  | setSharing .. | register .. | setKey .. => Unit

def ask : (request : DirectoryRequest) → Act Failure request.Reply
  | find id => Device.consult (recipientOf id)
  | findPhone e164 => Device.consult (findRecipient .e164 e164)
  | record row => Device.consult (recipient row)
  | knownKey e164 => Device.knownProfileKey e164
  | count => Device.consult recipientCount
  | trusted aci pni e164 => Device.consult (trustedRecipient aci pni e164)
  | setSharing row enabled => Device.consult (setProfileSharing row enabled)
  | register row aci => Device.ask (markRegistered row aci)
  | link aci pni e164 => Device.ask (linkSelf aci pni e164)
  | setKey row key => Device.consult (setProfileKey row key)

/-- The identifiers that are to be stored are no nil ones. -/
def Proper : DirectoryRequest → Prop
  | trusted aci pni _ | link aci pni _ => aci.uuid.isNil = false ∧ pni.uuid.isNil = false
  | register _ aci => aci.uuid.isNil = false
  | _ => True

/-- How a request fails, if the row that it needs is missing. -/
def failure? (t : RecipientRows) : DirectoryRequest → Option Failure
  | register row _ =>
    if ∃ other ∈ t.rows, other.id = row then none
    else some (.storage s!"recipient {row} not found")
  | link aci _ _ =>
    if ∃ row ∈ t.rows, row.aci = some aci.toString then none
    else some (.storage "self recipient missing while linking ids")
  | _ => none

end DirectoryRequest

/-- The device after some requests; those that fail are passed over. -/
def Device.asked (d : Device) (requests : List DirectoryRequest) : Device :=
  requests.foldl (fun d request => endOf (request.ask d)) d

def Recipient.identifier (r : Recipient) : Role → Option ServiceId
  | .primary => r.aci
  | .secondary => r.pni

/-- What holds of a directory that only requests have changed. -/
structure Device.DirectoryInOrder (d : Device) (t : RecipientRows) : Prop where
  recipients : d.database.recipients = some t
  nodup_values : ∀ c, (columnValues c t.rows).Nodup
  ascending : (t.rows.map RecipientRow.id).Pairwise (· < ·)
  fails : ∀ request : DirectoryRequest, request.Proper →
    ∀ e, request.failure? t = some e → request.ask d = .error e d
  succeeds : ∀ request : DirectoryRequest, request.Proper →
    request.failure? t = none → ∃ reply d', request.ask d = .ok reply d'
  find_iff : ∀ (id : ServiceId) (row : Int), DirectoryRequest.ask (.find id) d = .ok (some row) d ↔
    ∃ r, DirectoryRequest.ask (.record row) d = .ok (some r) d ∧ r.identifier id.role = some id
  findPhone_iff : ∀ (e164 : String) (row : Int),
    DirectoryRequest.ask (.findPhone e164) d = .ok (some row) d ↔
    ∃ r, DirectoryRequest.ask (.record row) d = .ok (some r) d ∧ r.e164 = some e164

/-! ### Rows in order -/

/-- A text that some identifier is stored as. -/
def Written (text : String) : Prop :=
  ∃ id : ServiceId, id.uuid.isNil = false ∧ id.toString = text

namespace RecipientRows

structure Orderly (t : RecipientRows) : Prop where
  valid : t.Valid
  ascending : (t.rows.map RecipientRow.id).Pairwise (· < ·)
  written : ∀ role, ∀ row ∈ t.rows, ∀ text,
    (IdColumn.ofRole role).value row = some text → Written text

/-- The rows `t'` are in order, and those of `t` are the first of them. -/
structure Grows (t t' : RecipientRows) : Prop where
  orderly : t'.Orderly
  ids : t.rows.map RecipientRow.id <+: t'.rows.map RecipientRow.id

variable {o : OwnEntry} {self : Int} {t t' t'' : RecipientRows}

theorem Orderly.grows (h : t.Orderly) : t.Grows t := ⟨h, List.prefix_rfl⟩

theorem Grows.trans (h : t.Grows t') (h' : t'.Grows t'') : t.Grows t'' :=
  ⟨h'.orderly, h.ids.trans h'.ids⟩

theorem Orderly.grows_update (h : t.Orderly) {p : RecipientRow → Bool}
    {f : RecipientRow → RecipientRow} (hvalid : (t.update p f).Valid)
    (hid : ∀ row, (f row).id = row.id)
    (hwritten : ∀ role row text, (IdColumn.ofRole role).value (f row) = some text →
      (IdColumn.ofRole role).value row = some text ∨ Written text) : t.Grows (t.update p f) := by
  have hids := ids_update (t := t) (p := p) hid
  refine ⟨⟨hvalid, by rw [hids]; exact h.ascending, ?_⟩, by simp only [hids, List.prefix_rfl]⟩
  intro role row hrow text htext
  obtain ⟨old, hold, rfl⟩ := mem_update.1 hrow
  split at htext
  · rcases hwritten role old text htext with hkept | hnew
    · exact h.written role old hold text hkept
    · exact hnew
  · exact h.written role old hold text htext

theorem Orderly.grows_release (h : t.Orderly) (c : IdColumn) (v : String) :
    t.Grows (t.release c v self) :=
  h.grows_update (h.valid.release c v) (id_clear c) fun _ _ _ htext => Or.inl (value_of_clear htext).1

theorem Orderly.grows_detail (h : t.Orderly) {f : RecipientRow → RecipientRow}
    (hid : ∀ row, (f row).id = row.id) (hvalue : ∀ (c : IdColumn) row, c.value (f row) = c.value row) :
    t.Grows (t.update (·.id = self) f) := by
  refine h.grows_update (h.valid.updateSelf hid fun c row v hv => Or.inl ?_) hid ?_
  · rwa [hvalue] at hv
  · intro role row text htext
    rw [hvalue] at htext
    exact Or.inl htext

theorem Orderly.grows_arrive (h : t.Orderly) (haci : o.aci.uuid.isNil = false)
    (hpni : o.pni.uuid.isNil = false) : t.Grows (t.claim o self .arrive) := by
  have hvalid : (t.claim o self .arrive).Valid := h.valid.arrive
  rw [claim] at hvalid ⊢
  cases hself : t.selfId? o with
  | some i => exact h.grows
  | none =>
    rw [hself] at hvalid
    dsimp only at hvalid ⊢
    refine ⟨⟨hvalid, ?_, ?_⟩, ?_⟩
    · rw [List.map_append, List.pairwise_append]
      refine ⟨h.ascending, by simp, ?_⟩
      intro i hi j hj
      obtain ⟨row, hrow, rfl⟩ := List.mem_map.1 hi
      obtain rfl : j = t.lastId + 1 := by simpa using hj
      have := h.valid.id_le row hrow
      omega
    · intro role row hrow text htext
      rcases List.mem_append.1 hrow with hrow | hrow
      · exact h.written role row hrow text htext
      · obtain rfl := List.mem_singleton.1 hrow
        cases role with
        | primary => exact ⟨o.aci, haci, Option.some.inj htext⟩
        | secondary => exact ⟨o.pni, hpni, Option.some.inj htext⟩
    · rw [List.map_append]
      exact List.prefix_append _ _

theorem Orderly.grows_register (h : t.Orderly) (haci : o.aci.uuid.isNil = false) :
    t.Grows (t.claim o self .register) := by
  have hfree : t.Grows (t.release .aci o.aci.toString self) := h.grows_release .aci _
  refine hfree.trans (hfree.orderly.grows_update h.valid.register ?_ ?_)
  · exact fun _ => rfl
  · intro role row text htext
    cases role with
    | primary => exact Or.inr ⟨o.aci, haci, Option.some.inj htext⟩
    | secondary => exact Or.inl htext

theorem Orderly.grows_link (h : t.Orderly) (hpni : o.pni.uuid.isNil = false) :
    t.Grows (t.claim o self .link) := by
  have hvalid : (t.claim o self .link).Valid := h.valid.link
  rw [claim] at hvalid ⊢
  cases hfind : t.find .aci o.aci.toString with
  | none => exact h.grows
  | some i =>
    rw [hfind] at hvalid
    dsimp only at hvalid ⊢
    have hpniFree : t.Grows (t.release .pni o.pni.toString i) := h.grows_release .pni _
    have hfree : t.Grows ((t.release .pni o.pni.toString i).release .e164 o.e164 i) :=
      hpniFree.trans (hpniFree.orderly.grows_release .e164 _)
    refine hfree.trans (hfree.orderly.grows_update hvalid ?_ ?_)
    · exact fun _ => rfl
    · intro role row text htext
      cases role with
      | primary => exact Or.inl htext
      | secondary => exact Or.inr ⟨o.pni, hpni, Option.some.inj htext⟩

/-! ### Identifiers and records -/

theorem identifier_ofRow (role : Role) (row : RecipientRow) :
    (Recipient.ofRow row).identifier role = readStored ((IdColumn.ofRole role).value row) := by
  cases role <;> rfl

theorem Orderly.identifier_eq_iff (h : t.Orderly) {row : RecipientRow} (hrow : row ∈ t.rows)
    {id : ServiceId} : (Recipient.ofRow row).identifier id.role = some id ↔
      (IdColumn.ofRole id.role).value row = some id.toString := by
  rw [identifier_ofRow]
  cases hvalue : (IdColumn.ofRole id.role).value row with
  | none => simp [readStored]
  | some text =>
    -- The text is that of some identifier, so it is read, and no other identifier has the same.
    obtain ⟨id', hid', rfl⟩ := h.written id.role row hrow text hvalue
    rw [readStored_toString hid', Option.some.injEq, Option.some.injEq, ServiceId.toString_inj]

theorem Orderly.record_eq_iff (h : t.Orderly) {i : Int} {r : Recipient} :
    (t.rows.find? fun row => row.id = i).map Recipient.ofRow = some r ↔
      ∃ row ∈ t.rows, row.id = i ∧ Recipient.ofRow row = r := by
  simp only [Option.map_eq_some_iff, h.valid.find?_eq_some_iff, and_assoc]

theorem Orderly.find_eq_iff (h : t.Orderly) {id : ServiceId} {i : Int} :
    t.find (.ofRole id.role) id.toString = some i ↔
      ∃ r, (t.rows.find? fun row => row.id = i).map Recipient.ofRow = some r ∧
        r.identifier id.role = some id := by
  rw [h.valid.find_eq_some_iff]
  constructor
  · rintro ⟨row, hrow, hid, hvalue⟩
    exact ⟨_, h.record_eq_iff.2 ⟨row, hrow, hid, rfl⟩, (h.identifier_eq_iff hrow).2 hvalue⟩
  · rintro ⟨r, hr, hidentifier⟩
    obtain ⟨row, hrow, hid, rfl⟩ := h.record_eq_iff.1 hr
    exact ⟨row, hrow, hid, (h.identifier_eq_iff hrow).1 hidentifier⟩

theorem Orderly.findPhone_eq_iff (h : t.Orderly) {e164 : String} {i : Int} :
    t.find .e164 e164 = some i ↔
      ∃ r, (t.rows.find? fun row => row.id = i).map Recipient.ofRow = some r ∧
        r.e164 = some e164 := by
  rw [h.valid.find_eq_some_iff]
  constructor
  · rintro ⟨row, hrow, hid, hvalue⟩
    exact ⟨_, h.record_eq_iff.2 ⟨row, hrow, hid, rfl⟩, hvalue⟩
  · rintro ⟨r, hr, he164⟩
    obtain ⟨row, hrow, hid, rfl⟩ := h.record_eq_iff.1 hr
    exact ⟨row, hrow, hid, he164⟩

end RecipientRows

/-! ### One request -/

theorem exists_ownEntry (aci pni : ServiceId) (e164 : String) :
    ∃ o : OwnEntry, o.aci = aci ∧ o.pni = pni ∧ o.e164 = e164 :=
  ⟨⟨aci, pni, e164, ⟨List.replicate 32 0, rfl⟩⟩, rfl, rfl, rfl⟩

section

variable {db : Database} {t : RecipientRows}

theorem markRegistered_eq_error (ht : db.recipients = some t) (hvalid : t.Valid) {self : Int}
    (hself : ¬∃ row ∈ t.rows, row.id = self) (aci : ServiceId) :
    markRegistered self aci db = .error (.storage s!"recipient {self} not found") := by
  have hfree (row : RecipientRow) (hrow : row ∈ (t.release .aci aci.toString self).rows) :
      row.id ≠ self := by
    obtain ⟨old, hold, hid, -⟩ := RecipientRows.exists_of_mem_release hrow
    intro heq
    exact hself ⟨old, hold, hid.trans heq⟩
  have hrelease : Alters t (t.release .aci aci.toString self) _ _ :=
    Alters.update _ _ fun h => h.release .aci aci.toString
  obtain ⟨_, hfirst, -⟩ := hrelease.exists_eq db ht hvalid
  have hgain : Alters (t.release .aci aci.toString self) _ _ _ :=
    Alters.update _ _ fun h => h.gainAci (RecipientRows.free_release .aci aci.toString)
  obtain ⟨n, hsecond, hn⟩ := hgain.exists_eq
    { db with recipients := some (t.release .aci aci.toString self) } rfl (hvalid.release .aci _)
  have hnone : n = 0 := by
    rw [hn, List.countP_eq_zero]
    intro row hrow
    simpa using hfree row hrow
  -- Both changes go through, the second of them on no row; the failure then takes back the first.
  refine (Query.bind_of_ok hfirst).trans ((Query.bind_of_ok hsecond).trans ?_)
  rw [if_pos hnone]
  rfl

theorem find_aci_eq_none_iff {aci : ServiceId} :
    t.find .aci aci.toString = none ↔ ¬∃ row ∈ t.rows, row.aci = some aci.toString := by
  rw [RecipientRows.find_eq_none_iff]
  constructor
  · rintro h ⟨row, hrow, haci⟩
    exact h row hrow haci
  · intro h row hrow haci
    exact h ⟨row, hrow, haci⟩

theorem linkSelf_eq_error (ht : db.recipients = some t) {aci : ServiceId}
    (haci : ¬∃ row ∈ t.rows, row.aci = some aci.toString) (pni : ServiceId) (e164 : String) :
    linkSelf aci pni e164 db = .error (.storage "self recipient missing while linking ids") := by
  have hfind : (findRecipient .aci aci.toString).mapError failure db = .ok (none, db) :=
    Query.mapError_eq_ok.2 (by rw [findRecipient_eq ht, find_aci_eq_none_iff.2 haci])
  rw [linkSelf, Query.bind_apply, hfind]
  rfl

end

/-- A device on which every call of the database is made, and its directory in order. -/
structure Device.Tends (d : Device) (t : RecipientRows) : Prop where
  recipients : d.database.recipients = some t
  outages : d.outages = []
  orderly : t.Orderly

namespace Device.Tends

variable {α : Type} {d : Device} {t t' : RecipientRows} (h : d.Tends t)
include h

theorem consult_eq {q : Query DatabaseError α} {a : α} (hq : q d.database = .ok (a, d.database)) :
    Device.consult q d = .ok a d :=
  ask_eq_ok h.outages (Query.mapError_eq_ok.2 hq)

theorem ask_find (id : ServiceId) :
    DirectoryRequest.ask (.find id) d = .ok (t.find (.ofRole id.role) id.toString) d :=
  h.consult_eq (findRecipient_eq h.recipients _ _)

theorem ask_findPhone (e164 : String) :
    DirectoryRequest.ask (.findPhone e164) d = .ok (t.find .e164 e164) d :=
  h.consult_eq (findRecipient_eq h.recipients _ _)

theorem ask_record (i : Int) : DirectoryRequest.ask (.record i) d =
    .ok ((t.rows.find? fun row => row.id = i).map Recipient.ofRow) d :=
  h.consult_eq (recipient_eq h.recipients i)

theorem ask_count : DirectoryRequest.ask .count d = .ok t.rows.length d := by
  apply h.consult_eq
  simp [recipientCount, recipientRows, h.recipients]

theorem ask_knownKey (e164 : String) :
    ∃ key, DirectoryRequest.ask (.knownKey e164) d = .ok key d := by
  rw [DirectoryRequest.ask, Device.knownProfileKey, act_bind_eq,
    h.consult_eq (findRecipient_eq h.recipients _ _)]
  cases t.find .e164 e164 with
  | none => exact ⟨none, rfl⟩
  | some i =>
    dsimp only
    have hrecord := h.ask_record i
    rw [DirectoryRequest.ask] at hrecord
    rw [act_bind_eq, hrecord]
    exact ⟨_, rfl⟩

theorem ask_alters {q : Query Failure α} {post : α → Prop} (hq : Alters t t' q post)
    (hgrows : t.Grows t') :
    ∃ a d' t', Device.ask q d = .ok a d' ∧ d'.Tends t' ∧ t.Grows t' := by
  obtain ⟨a, hrun, -⟩ := hq.exists_eq d.database h.recipients h.orderly.valid
  exact ⟨a, _, t', ask_eq_ok h.outages hrun, ⟨rfl, h.outages, hgrows.orderly⟩, hgrows⟩

theorem ask_detail (self : Int) {f : RecipientRow → RecipientRow} (hid : ∀ row, (f row).id = row.id)
    (hvalue : ∀ (c : IdColumn) row, c.value (f row) = c.value row) :
    ∃ a d' t', Device.consult (do let _ ← updateRecipients (·.id = self) f) d = .ok a d' ∧
      d'.Tends t' ∧ t.Grows t' := by
  have hgrows : t.Grows (t.update (·.id = self) f) := h.orderly.grows_detail hid hvalue
  exact h.ask_alters (alters_updateSelf self fun _ => hgrows.orderly.valid) hgrows

/-- A request that has its row succeeds; the rows stay in order and none is lost. -/
theorem ask_of_failure?_eq_none {request : DirectoryRequest} (hproper : request.Proper)
    (hfailure : request.failure? t = none) :
    ∃ reply d' t', request.ask d = .ok reply d' ∧ d'.Tends t' ∧ t.Grows t' := by
  cases request with
  | find id => exact ⟨_, d, t, h.ask_find id, h, h.orderly.grows⟩
  | findPhone e164 => exact ⟨_, d, t, h.ask_findPhone e164, h, h.orderly.grows⟩
  | record i => exact ⟨_, d, t, h.ask_record i, h, h.orderly.grows⟩
  | knownKey e164 =>
    obtain ⟨key, hkey⟩ := h.ask_knownKey e164
    exact ⟨key, d, t, hkey, h, h.orderly.grows⟩
  | count => exact ⟨_, d, t, h.ask_count, h, h.orderly.grows⟩
  | trusted aci pni e164 =>
    obtain ⟨o, rfl, rfl, rfl⟩ := exists_ownEntry aci pni e164
    have hgrows : t.Grows (t.claim o 0 .arrive) := h.orderly.grows_arrive hproper.1 hproper.2
    exact h.ask_alters alters_trustedRecipient hgrows
  | setSharing self enabled => exact h.ask_detail self (fun _ => rfl) (by intro c _; cases c <;> rfl)
  | register self aci =>
    obtain ⟨o, rfl, -, -⟩ := exists_ownEntry aci aci ""
    have hself : ∃ row ∈ t.rows, row.id = self := by
      by_contra hnone
      rw [DirectoryRequest.failure?, if_neg hnone] at hfailure
      cases hfailure
    exact h.ask_alters (alters_markRegistered hself) (h.orderly.grows_register hproper)
  | link aci pni e164 =>
    obtain ⟨o, rfl, rfl, rfl⟩ := exists_ownEntry aci pni e164
    have haci : t.find .aci o.aci.toString ≠ none := by
      intro hnone
      rw [DirectoryRequest.failure?, if_neg (find_aci_eq_none_iff.1 hnone)] at hfailure
      cases hfailure
    have hgrows : t.Grows (t.claim o 0 .link) := h.orderly.grows_link hproper.2
    exact h.ask_alters (alters_linkSelf haci) hgrows
  | setKey self key => exact h.ask_detail self (fun _ => rfl) (by intro c _; cases c <;> rfl)

/-- One that lacks its row fails, and changes nothing. -/
theorem ask_of_failure?_eq_some {request : DirectoryRequest} {e : Failure}
    (hfailure : request.failure? t = some e) : request.ask d = .error e d := by
  cases request with
  | register self aci =>
    by_cases hself : ∃ row ∈ t.rows, row.id = self
    · rw [DirectoryRequest.failure?, if_pos hself] at hfailure
      cases hfailure
    · rw [DirectoryRequest.failure?, if_neg hself] at hfailure
      cases hfailure
      exact ask_eq_error h.outages
        (markRegistered_eq_error h.recipients h.orderly.valid hself aci)
  | link aci pni e164 =>
    by_cases haci : ∃ row ∈ t.rows, row.aci = some aci.toString
    · rw [DirectoryRequest.failure?, if_pos haci] at hfailure
      cases hfailure
    · rw [DirectoryRequest.failure?, if_neg haci] at hfailure
      cases hfailure
      exact ask_eq_error h.outages (linkSelf_eq_error h.recipients haci pni e164)
  | _ => cases hfailure

theorem directoryInOrder : d.DirectoryInOrder t where
  recipients := h.recipients
  nodup_values := h.orderly.valid.nodup_values
  ascending := h.orderly.ascending
  fails := fun _ _ _ hfailure => h.ask_of_failure?_eq_some hfailure
  succeeds := by
    intro request hproper hfailure
    obtain ⟨reply, d', -, hask, -⟩ := h.ask_of_failure?_eq_none hproper hfailure
    exact ⟨reply, d', hask⟩
  find_iff := by
    intro id row
    simp only [h.ask_find, h.ask_record, EStateM.Result.ok.injEq, and_true, h.orderly.find_eq_iff]
  findPhone_iff := by
    intro e164 row
    simp only [h.ask_findPhone, h.ask_record, EStateM.Result.ok.injEq, and_true,
      h.orderly.findPhone_eq_iff]

/-! ### Many requests -/

theorem after_ask {request : DirectoryRequest} (hproper : request.Proper) :
    ∃ t', (endOf (request.ask d)).Tends t' ∧ t.Grows t' := by
  cases hfailure : request.failure? t with
  | some e =>
    rw [h.ask_of_failure?_eq_some hfailure]
    exact ⟨t, h, h.orderly.grows⟩
  | none =>
    obtain ⟨reply, d', t', hask, htends, hgrows⟩ := h.ask_of_failure?_eq_none hproper hfailure
    rw [hask]
    exact ⟨t', htends, hgrows⟩

theorem asked {requests : List DirectoryRequest} (hproper : ∀ request ∈ requests, request.Proper) :
    ∃ t', (d.asked requests).Tends t' ∧ t.Grows t' := by
  -- Each request starts from rows in order, whatever became of the ones before.
  induction requests generalizing d t with
  | nil => exact ⟨t, h, h.orderly.grows⟩
  | cons request requests ih =>
    obtain ⟨t₁, h₁, hgrows₁⟩ := h.after_ask (hproper request List.mem_cons_self)
    obtain ⟨t₂, h₂, hgrows₂⟩ := ih h₁ fun later hlater => hproper later (List.mem_cons_of_mem _ hlater)
    exact ⟨t₂, h₂, hgrows₁.trans hgrows₂⟩

end Device.Tends

theorem orderly_empty : RecipientRows.Orderly {} where
  valid := ⟨List.nodup_nil, fun _ hrow => absurd hrow List.not_mem_nil, fun _ => List.nodup_nil⟩
  ascending := List.Pairwise.nil
  written := fun _ _ hrow => absurd hrow List.not_mem_nil

theorem asked_append (d : Device) (before after : List DirectoryRequest) :
    d.asked (before ++ after) = (d.asked before).asked after :=
  List.foldl_append

/--
Whatever was asked of an empty directory, it is in order, as it was at any time before, and the rows
that were there then are still the first ones.
-/
theorem directoryInOrder_asked {d : Device} {requests : List DirectoryRequest}
    (hempty : d.database.recipients = some {}) (houtages : d.outages = [])
    (hproper : ∀ request ∈ requests, request.Proper) :
    ∃ t, (d.asked requests).DirectoryInOrder t ∧
      ∀ before, before <+: requests → ∃ t₀, (d.asked before).DirectoryInOrder t₀ ∧
        t₀.rows.map RecipientRow.id <+: t.rows.map RecipientRow.id := by
  have hstart : d.Tends {} := ⟨hempty, houtages, orderly_empty⟩
  obtain ⟨t, htends, -⟩ := hstart.asked hproper
  refine ⟨t, htends.directoryInOrder, ?_⟩
  rintro before ⟨after, rfl⟩
  obtain ⟨t₀, htends₀, -⟩ := hstart.asked fun request hrequest =>
    hproper request (List.mem_append_left after hrequest)
  obtain ⟨t', htends', hgrows⟩ := htends₀.asked fun request hrequest =>
    hproper request (List.mem_append_right before hrequest)
  rw [← asked_append] at htends'
  obtain rfl : t' = t := Option.some.inj (htends'.recipients.symm.trans htends.recipients)
  exact ⟨t₀, htends₀.directoryInOrder, hgrows.ids⟩

namespace Sample

/-- The first two fail, and the last but one moves what the first row has to the second. -/
def directoryRequests (aci pni other : ServiceId) : List DirectoryRequest :=
  [.register 1 aci, .link aci pni "+15550100", .trusted other pni "+15550100", .register 1 aci,
    .trusted other ⟨.secondary, other.uuid⟩ "+15550111", .link other pni "+15550100",
    .setSharing 7 true]

theorem proper_directoryRequests {aci pni other : ServiceId} (haci : aci.uuid.isNil = false)
    (hpni : pni.uuid.isNil = false) (hother : other.uuid.isNil = false) :
    ∀ request ∈ directoryRequests aci pni other, request.Proper := by
  simp only [directoryRequests, List.forall_mem_cons]
  exact ⟨haci, ⟨haci, hpni⟩, ⟨hother, hpni⟩, haci, ⟨hother, hother⟩, ⟨hother, hpni⟩, trivial,
    fun _ h => by cases h⟩

end Sample

theorem directoryInOrder_asked_sample :
    ∃ aci pni other : ServiceId, aci.toString = "11111111-1111-1111-1111-111111111111" ∧
      pni.toString = "PNI:22222222-2222-2222-2222-222222222222" ∧
      other.toString = "33333333-3333-3333-3333-333333333333" ∧
      ∃ t, (({ entropy := ⟨fun _ => 0, 0⟩ } : Device).asked
          (Sample.directoryRequests aci pni other)).DirectoryInOrder t ∧
        t.rows.map (fun row => (row.id, row.aci, row.e164)) =
          [(1, some aci.toString, none), (2, some other.toString, some "+15550100")] := by
  let aci : ServiceId := ⟨.primary, ⟨List.replicate 32 1, rfl⟩⟩
  let pni : ServiceId := ⟨.secondary, ⟨List.replicate 32 2, rfl⟩⟩
  let other : ServiceId := ⟨.primary, ⟨List.replicate 32 3, rfl⟩⟩
  have hproper : ∀ request ∈ Sample.directoryRequests aci pni other, request.Proper :=
    Sample.proper_directoryRequests rfl rfl rfl
  obtain ⟨t, ht, -⟩ := directoryInOrder_asked (d := { entropy := ⟨fun _ => 0, 0⟩ }) rfl rfl hproper
  have hrows : (({ entropy := ⟨fun _ => 0, 0⟩ } : Device).asked
      (Sample.directoryRequests aci pni other)).database.recipients.map
        (fun t => t.rows.map fun row => (row.id, row.aci, row.e164)) =
      some [(1, some aci.toString, none), (2, some other.toString, some "+15550100")] := by
    decide +kernel
  rw [ht.recipients] at hrows
  exact ⟨aci, pni, other, by decide, by decide, by decide, t, ht, Option.some.inj hrows⟩

end Registrar
