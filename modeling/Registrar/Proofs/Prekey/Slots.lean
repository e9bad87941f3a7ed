import Registrar.Account
import Registrar.Proofs.Prekey.Counting

/-!
The places in the database where the ledgers keep their values.

All of them are texts under keys of one table, which the roles share with each other and with the
account. No two places have the same key, and none has the key of an entry of the account.
-/

namespace Registrar

open Database

/-- What a ledger keeps one text for. -/
inductive Ledger.Slot where
  | counter (space : Ledger.Space)
  | pointer (p : Ledger.Pointer)
  | registered
  deriving DecidableEq

def Ledger.Slot.name : Ledger.Slot → String
  | counter space => counterName space
  | pointer p => pointerName p
  | registered => "signed_registered"

def slotKey (role : Role) (slot : Ledger.Slot) : String := ledgerKey role slot.name

theorem slotKey_inj {role role' : Role} {slot slot' : Ledger.Slot} :
    slotKey role slot = slotKey role' slot' ↔ role = role' ∧ slot = slot' := by
  constructor
  · cases role <;> cases role' <;> rcases slot with (_ | _ | _) | (_ | _) | _ <;>
      rcases slot' with (_ | _ | _) | (_ | _) | _ <;> decide
  · rintro ⟨rfl, rfl⟩
    rfl

theorem key_ne_ledgerKey (entry : Account.Entry) (role : Role) (name : String) :
    entry.key ≠ ledgerKey role name := by
  -- The keys of the account start with another letter.
  intro h
  have hfirst := congrArg (fun s : String => s.toList.head?) h
  simp [Account.Entry.key, ledgerKey] at hfirst

/-! ### Texts in their places -/

/-- A text can be put under every key. -/
def Database.Open (db : Database) : Prop := ∃ kv, db.keyValues = some kv ∧ kv.refused = []

/-- The text under a key. -/
def Database.text? (db : Database) (key : String) : Option String :=
  db.keyValues.bind (·.values.find? key)

/-- The text that a role keeps in a place. -/
def Database.slot? (db : Database) (role : Role) (slot : Ledger.Slot) : Option String :=
  db.keyValues.bind (·.values.find? (slotKey role slot))

variable {db : Database} {role : Role} {slot : Ledger.Slot} {cs : List Change}

theorem open_empty : ({} : Database).Open := ⟨_, rfl, rfl⟩

theorem text?_after {key : String} (h : ∀ c ∈ cs, ∀ w ∈ c.textRows, w.1 ≠ key) :
    (db.after cs).text? key = db.text? key := by
  have hkey : key ∉ (cs.flatMap Change.textRows).map Prod.fst := by
    intro hmem
    obtain ⟨w, hw, hkey⟩ := List.mem_map.1 hmem
    obtain ⟨c, hc, hwc⟩ := List.mem_flatMap.1 hw
    exact h c hc w hwc hkey
  rw [text?, text?, after]
  cases db.keyValues with
  | none => rfl
  | some kv => exact Table.find?_writeAll_of_not_mem hkey

theorem slot?_after (h : ∀ c ∈ cs, ∀ w ∈ c.textRows, w.1 ≠ slotKey role slot) :
    (db.after cs).slot? role slot = db.slot? role slot :=
  text?_after h

section

variable {key : String} (h : ∀ c ∈ cs, ∀ w ∈ c.textRows, w.1 ≠ key)

include h

/-- What is not written reads as before. -/
theorem readText_after :
    readText key (db.after cs) = (readText key db).map fun r => (r.1, db.after cs) := by
  have htext : (db.after cs).text? key = db.text? key := text?_after h
  rw [text?, text?] at htext
  rw [readText_eq, readText_eq]
  cases hkv : db.keyValues with
  | none => simp [after, hkv, Except.map]
  | some kv => simpa [after, hkv, Except.map] using htext

theorem readNumber_after :
    readNumber key (db.after cs) = (readNumber key db).map fun r => (r.1, db.after cs) := by
  rw [readNumber, Query.bind_apply, Query.bind_apply, readText_after h]
  cases readText key db with
  | error e => rfl
  | ok r =>
    obtain ⟨_ | raw, db'⟩ := r
    · rfl
    · dsimp only [Except.map]
      cases Text.readNumeral raw.toList <;> rfl

theorem readBool_after :
    readBool key (db.after cs) = (readBool key db).map fun r => (r.1, db.after cs) := by
  rw [readBool, Query.bind_apply, Query.bind_apply, readText_after h]
  cases readText key db <;> rfl

end

/-- What is written in one place of a ledger is written nowhere else. -/
theorem ne_slotKey_of_ledger (value : String) {role' : Role} {slot' : Ledger.Slot}
    (h : (role', slot') ≠ (role, slot)) :
    ∀ c ∈ [Change.ledger role slot.name value], ∀ w ∈ c.textRows, w.1 ≠ slotKey role' slot' := by
  intro c hc w hw heq
  rw [List.mem_singleton.1 hc] at hw
  rw [List.mem_singleton.1 hw] at heq
  obtain ⟨rfl, rfl⟩ := slotKey_inj.1 heq
  exact h rfl

theorem slot?_after_self {kv : KeyValues} (hkv : db.keyValues = some kv) (role : Role)
    (slot : Ledger.Slot) (value : String) :
    (db.after [.ledger role slot.name value]).slot? role slot = some value := by
  have hfind : (kv.values.writeAll [(slotKey role slot, some value)]).find? (slotKey role slot) =
      some value := by
    rw [Table.find?_writeAll]
    simp [Table.lastWrite]
  rw [slot?, Database.after, hkv]
  exact hfind

namespace Database.Open

theorem after (h : db.Open) (cs : List Change) : (db.after cs).Open := by
  obtain ⟨kv, hkv, hfree⟩ := h
  refine ⟨{ kv with values := kv.values.writeAll (cs.flatMap Change.textRows) }, ?_, hfree⟩
  rw [Database.after, hkv]
  rfl

theorem readText_eq (h : db.Open) (role : Role) (slot : Ledger.Slot) :
    readText (slotKey role slot) db = .ok (db.slot? role slot, db) := by
  obtain ⟨kv, hkv, -⟩ := h
  rw [Registrar.readText_eq, slot?, hkv]
  rfl

theorem writeText_eq (h : db.Open) (key : String) (value : Option String) :
    writeText key value db = .ok ((), db.after [.texts [(key, value)]]) := by
  obtain ⟨kv, hkv, hfree⟩ := h
  rw [Registrar.writeText_eq, hkv]
  simp [hfree]

theorem slot?_after_ledger (h : db.Open) (role : Role) (slot : Ledger.Slot) (value : String)
    (role' : Role) (slot' : Ledger.Slot) :
    (db.after [.ledger role slot.name value]).slot? role' slot' =
      if role' = role ∧ slot' = slot then some value else db.slot? role' slot' := by
  obtain ⟨kv, hkv, -⟩ := h
  simp only [slot?, Database.after, hkv, Option.map_some, Option.bind_some, List.flatMap_cons,
    Change.textRows, List.flatMap_nil, List.append_nil, Table.find?_writeAll, Table.lastWrite,
    Option.none_or]
  have hkey : ledgerKey role slot.name = slotKey role' slot' ↔ role' = role ∧ slot' = slot := by
    rw [← slotKey, slotKey_inj, eq_comm, @eq_comm _ slot]
  simp only [hkey]
  split <;> rfl

end Database.Open

/-! ### Counters -/

/-- A text tells a number; when there is none, the number is zero. -/
def Tells (raw : Option String) (n : UInt32) : Prop :=
  raw = some (Text.numeral n) ∨ raw = none ∧ n = 0

theorem Tells.exists_eq {raw : Option String} {n : UInt32} (h : Tells raw n) :
    ∃ found : Option UInt32, raw = found.map Text.numeral ∧ found.getD 0 = n := by
  rcases h with h | ⟨h, rfl⟩
  · exact ⟨some n, h, rfl⟩
  · exact ⟨none, h, rfl⟩

theorem Database.Open.readNumber_eq (h : db.Open) (role : Role) (slot : Ledger.Slot)
    {n : Option UInt32} (hn : db.slot? role slot = n.map Text.numeral) :
    readNumber (slotKey role slot) db = .ok (n, db) := by
  rw [readNumber, Query.bind_apply, h.readText_eq, hn]
  cases n with
  | none => rfl
  | some n => simp [Text.readNumeral_toList_numeral]

theorem readNumber_after_ledger {kv : KeyValues} (hkv : db.keyValues = some kv) (role : Role)
    (slot : Ledger.Slot) (n : UInt32) :
    readNumber (slotKey role slot) (db.after [.ledger role slot.name (Text.numeral n)]) =
      .ok (some n, db.after [.ledger role slot.name (Text.numeral n)]) := by
  have htext := slot?_after_self hkv role slot (Text.numeral n)
  rw [readNumber, Query.bind_apply, readText_eq]
  rw [slot?] at htext
  cases hkv' : (db.after [.ledger role slot.name (Text.numeral n)]).keyValues with
  | none =>
    rw [hkv'] at htext
    cases htext
  | some kv' =>
    rw [hkv', Option.bind_some] at htext
    simp only [htext, Text.readNumeral_toList_numeral]
    rfl

/-- Ids are handed out after a counter that can be read and written. -/
theorem reserve_eq_of_readNumber {space : Ledger.Space} {found : Option UInt32} {kv : KeyValues}
    (hkv : db.keyValues = some kv) (hfree : slotKey role (.counter space) ∉ kv.refused)
    (hread : readNumber (slotKey role (.counter space)) db = .ok (found, db)) (count : UInt32) :
    Database.reserve role space count db =
      (Ledger.reserve (found.getD 0) count space.kind).map fun ids =>
        (ids.1, db.after [.ledger role (Ledger.Slot.counter space).name (Text.numeral ids.2)]) := by
  have hread : (readNumber (ledgerKey role (counterName space))).mapError KeyError.ofDatabase db =
      .ok (found, db) :=
    Query.mapError_eq_ok.2 hread
  simp only [Database.reserve, Query.bind_apply, hread, Query.lift_apply]
  cases Ledger.reserve (found.getD 0) count space.kind with
  | error e => rfl
  | ok ids =>
    have hwrite : writeNumber (ledgerKey role (counterName space)) ids.2 db =
        .ok ((), db.after [.ledger role (Ledger.Slot.counter space).name (Text.numeral ids.2)]) := by
      rw [writeNumber, writeText_eq, hkv]
      exact if_neg fun hrefused => hfree hrefused.2
    have hwrite := (Query.mapError_eq_ok (f := KeyError.ofDatabase)).2 hwrite
    simp only [Except.map, hwrite, Query.pure_apply]

theorem Database.Open.reserve_eq (h : db.Open) {space : Ledger.Space} {n : UInt32}
    (hn : Tells (db.slot? role (.counter space)) n) (count : UInt32) :
    Database.reserve role space count db =
      (Ledger.reserve n count space.kind).map fun ids =>
        (ids.1, db.after [.ledger role (Ledger.Slot.counter space).name (Text.numeral ids.2)]) := by
  obtain ⟨found, hfound, rfl⟩ := hn.exists_eq
  obtain ⟨kv, hkv, hfree⟩ := h
  exact reserve_eq_of_readNumber hkv (by simp [hfree])
    (Open.readNumber_eq ⟨kv, hkv, hfree⟩ role (.counter space) hfound) count

end Registrar
