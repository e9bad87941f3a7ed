import Registrar.Proofs.Prekey.Independence
import Registrar.Proofs.Prekey.Unreadable
import Registrar.Proofs.Registration.Issuing
import Registrar.Proofs.Registration.Sparing

/-!
The registration ids of a device.

A call for one finds a number or makes one, and the number stays: no other work on the device
writes under its key, and a further call does not where it finds something.
-/

namespace Registrar

open Database Registration

/-! ### One call -/

/-- A registration id is there to be found. -/
def Database.HasId (db : Database) (role : Role) (n : UInt32) : Prop :=
  n ≠ 0 ∧ ∃ raw, db.text? (Account.Entry.registrationId role).key = some raw ∧
    Text.Spells raw.toList n

/-- No registration id was kept, or only a zero. -/
def Database.LacksId (db : Database) (role : Role) : Prop :=
  db.text? (Account.Entry.registrationId role).key = none ∨
    ∃ raw, db.text? (Account.Entry.registrationId role).key = some raw ∧ Text.Spells raw.toList 0

section

variable {db db' : Database} {role : Role} {draw : Account.Draw} {n : UInt32}

theorem exists_text?_of_readNumber {key : String} (h : readNumber key db = .ok (some n, db')) :
    ∃ raw, db.text? key = some raw ∧ Text.Spells raw.toList n := by
  obtain rfl := eq_of_readNumber h
  cases hraw : db'.text? key with
  | some raw => exact ⟨raw, rfl, (readNumber_eq_ok_iff hraw).1 h⟩
  | none =>
    rw [readNumber_eq] at h
    cases hkv : db'.keyValues with
    | none =>
      rw [hkv] at h
      cases h
    | some kv =>
      have hfind : kv.values.find? key = none := by
        rwa [text?, hkv] at hraw
      rw [hkv] at h
      simp only [hfind] at h
      cases h

theorem registrationId_eq (role : Role) (draw : Account.Draw) (db : Database) :
    Account.registrationId role draw db =
      match readNumber (Account.Entry.registrationId role).key db with
      | .error e => .error (failure e)
      | .ok (found, _) =>
        if found.getD 0 = 0 then
          match writeNumber (Account.Entry.registrationId role).key (draw 1 16380) db with
          | .error e => .error (failure e)
          | .ok (_, db') => .ok (draw 1 16380, db')
        else .ok (found.getD 0, db) := by
  have hmade (db : Database) : Except.mapError failure
      ((do
        writeNumber (Account.Entry.registrationId role).key (draw 1 16380)
        return draw 1 16380 : Query DatabaseError UInt32) db) =
      match writeNumber (Account.Entry.registrationId role).key (draw 1 16380) db with
      | .error e => .error (failure e)
      | .ok (_, db') => .ok (draw 1 16380, db') := by
    rw [Query.bind_apply]
    cases writeNumber (Account.Entry.registrationId role).key (draw 1 16380) db <;> rfl
  rw [Account.registrationId, Query.mapError, Query.bind_apply]
  cases hread : readNumber (Account.Entry.registrationId role).key db with
  | error e => rfl
  | ok result =>
    obtain ⟨found, db₁⟩ := result
    obtain rfl := eq_of_readNumber hread
    cases found with
    | none => exact hmade db₁
    | some n =>
      by_cases hn : n = 0
      · subst hn
        exact hmade db₁
      · dsimp only [Option.getD_some]
        rw [if_neg hn, if_pos hn]
        rfl

theorem Database.HasId.registrationId_eq (h : db.HasId role n) (draw : Account.Draw) :
    Account.registrationId role draw db = .ok (n, db) := by
  obtain ⟨hn, raw, hraw, hspells⟩ := h
  rw [Registrar.registrationId_eq, (readNumber_eq_ok_iff hraw).2 hspells]
  exact if_neg hn

theorem Database.Garbled.registrationId_eq
    (h : db.Garbled (Account.Entry.registrationId role).key) (draw : Account.Draw) :
    ∃ detail, Account.registrationId role draw db = .error (.storage detail) := by
  obtain ⟨raw, cause, hread⟩ := h.readNumber_eq
  rw [Registrar.registrationId_eq, hread]
  exact ⟨_, rfl⟩

theorem Database.LacksId.exists_readNumber {kv : KeyValues} (h : db.LacksId role)
    (hkv : db.keyValues = some kv) :
    ∃ found, readNumber (Account.Entry.registrationId role).key db = .ok (found, db) ∧
      found.getD 0 = 0 := by
  rcases h with hnone | ⟨raw, hraw, hspells⟩
  · rw [text?, hkv, Option.bind_some] at hnone
    rw [readNumber_eq, hkv]
    simp only [hnone]
    exact ⟨none, rfl, rfl⟩
  · exact ⟨some 0, (readNumber_eq_ok_iff hraw).2 hspells, rfl⟩

theorem lacksId_of_readNumber {found : Option UInt32}
    (h : readNumber (Account.Entry.registrationId role).key db = .ok (found, db))
    (hzero : found.getD 0 = 0) : db.LacksId role := by
  cases found with
  | some n =>
    obtain rfl : n = 0 := hzero
    exact Or.inr (exists_text?_of_readNumber h)
  | none =>
    cases hraw : db.text? (Account.Entry.registrationId role).key with
    | none => exact Or.inl hraw
    | some raw =>
      rw [readNumber_of_text? hraw] at h
      cases hnumeral : Text.readNumeral raw.toList <;> simp [hnumeral] at h

theorem hasId_or_garbled_or_lacksId (db : Database) (role : Role) : (∃ n, db.HasId role n) ∨
    db.Garbled (Account.Entry.registrationId role).key ∨ db.LacksId role := by
  cases hraw : db.text? (Account.Entry.registrationId role).key with
  | none => exact Or.inr (Or.inr (Or.inl hraw))
  | some raw =>
    by_cases hspells : ∃ n, Text.Spells raw.toList n
    · obtain ⟨n, hn⟩ := hspells
      by_cases hzero : n = 0
      · subst hzero
        exact Or.inr (Or.inr (Or.inr ⟨raw, hraw, hn⟩))
      · exact Or.inl ⟨n, hzero, raw, hraw, hn⟩
    · exact Or.inr (Or.inl ⟨raw, hraw, fun n hn => hspells ⟨n, hn⟩⟩)

/-- What a call writes, if it writes. -/
def Account.Draw.row (draw : Account.Draw) (role : Role) : String × Option String :=
  ((Account.Entry.registrationId role).key, some (Text.numeral (draw 1 16380)))

theorem Database.LacksId.registrationId_eq (h : db.LacksId role) (htakes : db.Takes [draw.row role]) :
    Account.registrationId role draw db =
      .ok (draw 1 16380, db.after [.texts [draw.row role]]) := by
  obtain ⟨db', hwrite, -⟩ := exists_readNumber_of_takes htakes
  obtain ⟨kv, hkv, -⟩ := htakes
  obtain ⟨found, hread, hzero⟩ := h.exists_readNumber hkv
  obtain ⟨rfl, -⟩ := readNumber_of_writeNumber hwrite
  rw [Registrar.registrationId_eq, hread]
  dsimp only
  rw [if_pos hzero, hwrite]
  rfl

/-- A call finds a number, or keeps the one that is drawn so that it is found from then on. -/
theorem registrationId_cases (h : Account.registrationId role draw db = .ok (n, db')) :
    (∃ raw, db'.text? (Account.Entry.registrationId role).key = some raw ∧
      Text.Spells raw.toList n) ∧
    (db.HasId role n ∧ db' = db ∨
      db.LacksId role ∧ n = draw 1 16380 ∧ db' = db.after [.texts [draw.row role]]) := by
  rw [registrationId_eq] at h
  cases hread : readNumber (Account.Entry.registrationId role).key db with
  | error e =>
    rw [hread] at h
    cases h
  | ok result =>
    obtain ⟨found, db₁⟩ := result
    obtain rfl := eq_of_readNumber hread
    rw [hread] at h
    dsimp only at h
    by_cases hzero : found.getD 0 = 0
    · rw [if_pos hzero] at h
      cases hwrite : writeNumber (Account.Entry.registrationId role).key (draw 1 16380) db₁ with
      | error e =>
        rw [hwrite] at h
        cases h
      | ok written =>
        rw [hwrite] at h
        cases h
        obtain ⟨hdb', hback⟩ := readNumber_of_writeNumber hwrite
        exact ⟨exists_text?_of_readNumber hback,
          Or.inr ⟨lacksId_of_readNumber hread hzero, rfl, hdb'⟩⟩
    · rw [if_neg hzero] at h
      cases h
      cases found with
      | none => exact absurd rfl hzero
      | some n =>
        have hraw := exists_text?_of_readNumber hread
        exact ⟨hraw, Or.inl ⟨⟨hzero, hraw⟩, rfl⟩⟩

theorem draw_bounds (hdraw : draw.InRange) : 1 ≤ (draw 1 16380).toNat ∧
    (draw 1 16380).toNat ≤ 16380 := by
  obtain ⟨hlow, hhigh⟩ := hdraw 1 16380 (by decide)
  exact ⟨UInt32.le_iff_toNat_le.1 hlow, UInt32.le_iff_toNat_le.1 hhigh⟩

theorem draw_ne_zero (hdraw : draw.InRange) : draw 1 16380 ≠ 0 := by
  intro hzero
  have hlow := (draw_bounds hdraw).1
  rw [hzero] at hlow
  exact absurd hlow (by decide)

theorem hasId_of_registrationId (hdraw : draw.InRange)
    (h : Account.registrationId role draw db = .ok (n, db')) : db'.HasId role n := by
  obtain ⟨hraw, ⟨hhas, rfl⟩ | ⟨-, rfl, -⟩⟩ := registrationId_cases h
  · exact hhas
  · exact ⟨draw_ne_zero hdraw, hraw⟩

end

/-! ### What else is done with a device -/

section

variable {d : Device} {role : Role} {n : UInt32}

theorem Database.HasId.of_text?_eq {db db' : Database} (h : db.HasId role n)
    (htext : db'.text? (Account.Entry.registrationId role).key =
      db.text? (Account.Entry.registrationId role).key) : db'.HasId role n := by
  rwa [HasId, htext]

theorem database_ledger_of_memory {m : MemoryStores} (hm : d.memory = some m) (role : Role)
    (r : Ledger.Request) : (endOf (Device.ledger role r d)).database = d.database := by
  obtain ⟨database, memory, cachedSelf, faults, outages, entropy, events⟩ := d
  obtain rfl : memory = some m := hm
  rw [Device.ledger, act_bind_eq, Device.allow]
  rcases Fault.meet (.ledger role r) faults with ⟨_ | e, rest⟩
  · dsimp only
    rw [act_get_bind_eq]
    dsimp only [Device.onMemory]
    cases Ledger.Memory.answer r (m.roles.get role).ledger <;> rfl
  · rfl

/-- A ledger keeps its texts under other keys than the registration ids. -/
theorem text?_ledger (role : Role) (r : Ledger.Request) (d : Device) (entry : Account.Entry) :
    (endOf (Device.ledger role r d)).database.text? entry.key = d.database.text? entry.key := by
  cases hmemory : d.memory with
  | some m => rw [database_ledger_of_memory hmemory]
  | none =>
    by_cases hr : ∃ space count, r = .reserve space count
    · obtain ⟨space, count, rfl⟩ := hr
      exact (countsUp_ledger role space count d).texts _ fun _ _ => key_ne_ledgerKey entry _ _
    · have hr' (space : Ledger.Space) (count : UInt32) : r ≠ .reserve space count :=
        fun heq => hr ⟨space, count, heq⟩
      rcases ledger_cases hmemory r with
        ⟨e, d', hledger, hdatabase, -⟩ | ⟨a, d', hledger, hanswer, -⟩
      · rw [hledger, endOf, hdatabase]
      · obtain ⟨ws, hdatabase, hws⟩ := exists_texts_of_answerLedger hr' hanswer
        rw [hledger, endOf, hdatabase]
        refine text?_after fun c hc w hw => ?_
        obtain rfl := List.mem_singleton.1 hc
        obtain ⟨slot, -, hkey⟩ := hws w hw
        rw [hkey]
        exact (key_ne_ledgerKey entry role _).symm

theorem text?_register (suite : Suite) (d : Device) (a : Attempt) (c : Circumstances) (role : Role) :
    (a.leave suite d c).database.text? (Account.Entry.registrationId role).key =
      d.database.text? (Account.Entry.registrationId role).key := by
  cases hids : confirmed a.response.confirmation with
  | error f =>
    rw [leave_of_confirmed_error hids]
    rfl
  | ok ids => exact (spared_leave suite d c hids).registrationId role

theorem text?_deed (suite : Suite) (d : Device) (x : Deed) (role : Role) :
    (x.leave suite d).database.text? (Account.Entry.registrationId role).key =
      d.database.text? (Account.Entry.registrationId role).key := by
  cases x with
  | generate p c =>
    exact (countsUp_generateBoth suite p c.now (d.under c)).texts _ fun _ _ =>
      key_ne_ledgerKey _ _ _
  | register a c => exact text?_register suite d a c role

/--
The call for a registration id is the only request that writes one; the setters have other entries.
-/
def Account.Request.Ordinary : Account.Request → Prop
  | .setText entry _ => ∀ role, entry ≠ .registrationId role
  | .setMarked entry _ => ∀ role, entry ≠ .registrationId role
  | _ => True

def Command.Ordinary : Command → Prop
  | .account r _ => r.Ordinary
  | _ => True

theorem text?_after_entry {db : Database} {entry : Account.Entry} (value : Option String)
    (h : entry ≠ .registrationId role) :
    (db.after [.texts [(entry.key, value)]]).text? (Account.Entry.registrationId role).key =
      db.text? (Account.Entry.registrationId role).key := by
  refine text?_after fun c hc w hw => ?_
  obtain rfl := List.mem_singleton.1 hc
  obtain rfl := List.mem_singleton.1 hw
  exact Account.Entry.key_ne_registrationId h

theorem text?_registrationId_of_ne {db db' : Database} {other : Role} {draw : Account.Draw}
    (h : Account.registrationId other draw db = .ok (n, db')) (hne : role ≠ other) :
    db'.text? (Account.Entry.registrationId role).key =
      db.text? (Account.Entry.registrationId role).key := by
  obtain ⟨-, ⟨-, rfl⟩ | ⟨-, -, rfl⟩⟩ := registrationId_cases h
  · rfl
  · exact text?_after_entry _ fun heq => hne (Account.Entry.registrationId.inj heq).symm

theorem hasId_of_answer {db db' : Database} {r : Account.Request} {a : r.Reply}
    (h : db.HasId role n) (hr : r.Ordinary) (hanswer : Account.answer r db = .ok (a, db')) :
    db'.HasId role n := by
  cases r with
  | setText entry value =>
    rw [eq_of_writeText (Query.mapError_eq_ok.1 hanswer)]
    exact h.of_text?_eq (text?_after_entry _ (hr role))
  | setMarked entry value =>
    rw [eq_of_writeText (Query.mapError_eq_ok.1 hanswer)]
    exact h.of_text?_eq (text?_after_entry _ (hr role))
  | setServiceId id =>
    rw [eq_of_writeText (Query.mapError_eq_ok.1 hanswer)]
    exact h.of_text?_eq (text?_after_entry _ (by simp))
  | commitRegistered =>
    rw [(makes_commitRegistered.ok _ _ hanswer).1]
    refine h.of_text?_eq (text?_after fun c hc w hw => ?_)
    obtain rfl := List.mem_singleton.1 hc
    have hne {entry : Account.Entry} (hentry : ∀ role, entry ≠ .registrationId role) :
        entry.key ≠ (Account.Entry.registrationId role).key :=
      Account.Entry.key_ne_registrationId (hentry role)
    simp only [Change.textRows, commitTexts, List.mem_cons, List.not_mem_nil, or_false] at hw
    rcases hw with rfl | rfl | rfl | rfl <;> exact hne (by simp)
  | registrationId other draw =>
    by_cases hother : role = other
    · subst hother
      cases (h.registrationId_eq draw).symm.trans hanswer
      exact h
    · exact h.of_text?_eq (text?_registrationId_of_ne hanswer hother)

theorem hasId_account (h : d.database.HasId role n) {r : Account.Request} (hr : r.Ordinary) :
    (endOf (Device.ask (Account.answer r) d)).database.HasId role n := by
  cases hask : Device.ask (Account.answer r) d with
  | ok a d' => exact hasId_of_answer h hr (answer_of_ask hask)
  | error e d' =>
    rw [endOf, (eq_of_ask_eq_error hask).1]
    exact h

/-- A registration id stays where it is through everything that is done with a device. -/
theorem hasId_leave (suite : Suite) (h : d.database.HasId role n) {x : Command} (hx : x.Ordinary) :
    (x.leave suite d).database.HasId role n := by
  cases x with
  | deed x => exact h.of_text?_eq (text?_deed suite d x role)
  | ledger role' r c => exact h.of_text?_eq (text?_ledger role' r (d.under c) _)
  | account r c => exact hasId_account (d := d.under c) h hx

theorem hasId_run (suite : Suite) (h : d.database.HasId role n) {xs : List Command}
    (hxs : ∀ x ∈ xs, x.Ordinary) :
    (xs.foldl (Command.leave suite) d).database.HasId role n := by
  induction xs generalizing d with
  | nil => exact h
  | cons x xs ih =>
    obtain ⟨hx, hrest⟩ := List.forall_mem_cons.1 hxs
    exact ih (hasId_leave suite h hx) hrest

end

/-! ### Calls on a device -/

/-- How a call for the registration id of a role goes. -/
structure Device.CallsId (d : Device) (role : Role) (draw : Account.Draw) : Prop where
  reads : (∃ n, d.database.HasId role n) ∨
    d.database.Garbled (Account.Entry.registrationId role).key ∨ d.database.LacksId role
  found : ∀ n, d.database.HasId role n → d.Answers → ∃ d',
    Device.ask (Account.registrationId role draw) d = .ok n d' ∧ d'.database = d.database
  garbled : d.database.Garbled (Account.Entry.registrationId role).key → ∃ detail d',
    Device.ask (Account.registrationId role draw) d = .error (.storage detail) d' ∧
      d'.database = d.database
  made : d.database.LacksId role → d.database.Takes [draw.row role] → d.Answers → ∃ d',
    Device.ask (Account.registrationId role draw) d = .ok (draw 1 16380) d' ∧
      d'.database = d.database.after [.texts [draw.row role]]
  of_ok : ∀ n d', Device.ask (Account.registrationId role draw) d = .ok n d' →
    d'.database.HasId role n ∧ (d.database.HasId role n ∧ d'.database = d.database ∨
      d.database.LacksId role ∧ 1 ≤ n.toNat ∧ n.toNat ≤ 16380)
  of_error : ∀ e d', Device.ask (Account.registrationId role draw) d = .error e d' →
    (∃ detail, e = .storage detail) ∧ d'.database = d.database
  other : ∀ other, other ≠ role →
    (endOf (Device.ask (Account.registrationId role draw) d)).database.text?
        (Account.Entry.registrationId other).key =
      d.database.text? (Account.Entry.registrationId other).key

/-- A device has one answer to a call for the registration id of a role, and keeps to it. -/
structure Device.GivesId (d : Device) (role : Role) (n : UInt32) : Prop where
  ok : ∀ draw c, (d.under c).Answers → ∃ d',
    Device.ask (Account.registrationId role draw) (d.under c) = .ok n d'
  of_ok : ∀ draw c m d', Device.ask (Account.registrationId role draw) (d.under c) = .ok m d' →
    m = n ∧ d'.database = d.database

section

variable {d d' : Device} {role : Role} {n : UInt32}

theorem exists_storage_of_ask {draw : Account.Draw} {e : Failure}
    (h : Device.ask (Account.registrationId role draw) d = .error e d') :
    (∃ detail, e = .storage detail) ∧ d'.database = d.database := by
  obtain ⟨hdatabase, ⟨cause, rfl⟩ | hanswer⟩ := eq_of_ask_eq_error h
  · exact ⟨⟨_, rfl⟩, hdatabase⟩
  · obtain ⟨cause, -, rfl⟩ := Query.mapError_eq_error.1 hanswer
    exact ⟨⟨_, rfl⟩, hdatabase⟩

theorem callsId (d : Device) (role : Role) {draw : Account.Draw} (hdraw : draw.InRange) :
    d.CallsId role draw where
  reads := hasId_or_garbled_or_lacksId d.database role
  found n h hanswers := by
    rw [Device.ask, hanswers.query_eq, h.registrationId_eq]
    exact ⟨_, rfl, rfl⟩
  garbled h := by
    obtain ⟨detail, herror⟩ := h.registrationId_eq draw
    cases hask : Device.ask (Account.registrationId role draw) d with
    | ok n d' => cases (answer_of_ask hask).symm.trans herror
    | error e d' =>
      obtain ⟨⟨detail', rfl⟩, hdatabase⟩ := exists_storage_of_ask hask
      exact ⟨detail', d', rfl, hdatabase⟩
  made h htakes hanswers := by
    rw [Device.ask, hanswers.query_eq, h.registrationId_eq htakes]
    exact ⟨_, rfl, rfl⟩
  of_ok n d' hask := by
    refine ⟨hasId_of_registrationId hdraw (answer_of_ask hask), ?_⟩
    obtain ⟨-, hfound | ⟨hlacks, rfl, -⟩⟩ := registrationId_cases (answer_of_ask hask)
    · exact Or.inl hfound
    · exact Or.inr ⟨hlacks, draw_bounds hdraw⟩
  of_error e d' hask := exists_storage_of_ask hask
  other other hne := by
    cases hask : Device.ask (Account.registrationId role draw) d with
    | ok n d' => exact text?_registrationId_of_ne (answer_of_ask hask) hne
    | error e d' => rw [endOf, (eq_of_ask_eq_error hask).1]

theorem Database.HasId.givesId (h : d.database.HasId role n) : d.GivesId role n where
  ok draw c hanswers := by
    have hhas : (d.under c).database.HasId role n := h
    rw [Device.ask, hanswers.query_eq, hhas.registrationId_eq]
    exact ⟨_, rfl⟩
  of_ok draw c m d' hask := by
    have hanswer := answer_of_ask hask
    obtain ⟨hn, hdatabase⟩ :=
      Prod.mk.inj (Except.ok.inj ((h.registrationId_eq draw).symm.trans hanswer))
    exact ⟨hn.symm, hdatabase.symm⟩

end

/--
A call for a registration id finds the number that is kept, or draws one where there is none; a
text that is no number makes it fail. The number that it has come to is what every later call comes
to, whatever is done with the device in between.
-/
theorem registrationId_stays (suite : Suite) (d : Device) (role : Role) {draw : Account.Draw}
    (hdraw : draw.InRange) :
    d.CallsId role draw ∧
    ∀ n d', Device.ask (Account.registrationId role draw) d = .ok n d' →
      ∀ xs : List Command, (∀ x ∈ xs, x.Ordinary) →
        (xs.foldl (Command.leave suite) d').GivesId role n := by
  have hcalls := callsId d role hdraw
  refine ⟨hcalls, fun n d' hask xs hxs => ?_⟩
  exact (hasId_run suite (hcalls.of_ok n d' hask).1 hxs).givesId

namespace Sample

def five : Account.FreshId := ⟨5, by decide, by decide⟩

/-- Bundles are made, the other role's id is asked for, and an attempt is made in between. -/
def busy : List Command :=
  [.deed (.generate provisioner calm), .account (.registrationId .secondary five) full,
    .ledger .primary (.setPointer .activeSigned 3) calm, .account (.setText .pushToken none) calm,
    .deed (.register attempt full)]

theorem ordinary_busy : ∀ x ∈ busy, x.Ordinary := by
  simp [busy, Command.Ordinary, Account.Request.Ordinary]

end Sample

theorem registrationId_stays_busy : ∃ d', Device.ask (Account.registrationId .primary Sample.five)
      (.fresh Sample.entropy) = .ok 5 d' ∧
    (Sample.busy.foldl (Command.leave Suite.standard) d').GivesId .primary 5 := by
  obtain ⟨hcalls, hstays⟩ :=
    registrationId_stays Suite.standard (.fresh Sample.entropy) .primary Sample.five.inRange
  obtain ⟨d', hask, -⟩ := hcalls.made (Or.inl rfl)
    ⟨_, rfl, fun _ _ _ => List.not_mem_nil⟩ fun e he => by cases he
  exact ⟨d', hask, hstays 5 d' hask Sample.busy Sample.ordinary_busy⟩

end Registrar
