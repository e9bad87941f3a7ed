import Mathlib.Data.List.TakeWhile
import Registrar.Proofs.Prekey.Limits
import Registrar.Proofs.Prekey.Reservations

/-!
Numbers that cannot be read.

A text that is no numeral is never taken for a number, and nothing is put in its place: whoever
needs the number fails, and the database stays as it is. Where bundles are made, the batches before
the one that needs the number have taken their ids by then, and keep them.
-/

namespace Registrar

open Database

/-! ### Texts and numbers -/

section

variable {db db' : Database} {key raw : String}

theorem readNumber_of_text? (h : db.text? key = some raw) :
    readNumber key db = match Text.readNumeral raw.toList with
      | .ok n => .ok (some n, db)
      | .error cause => .error (.notANumber key raw cause) := by
  obtain ⟨kv, hkv, hraw⟩ := Option.bind_eq_some_iff.1 h
  rw [readNumber_eq, hkv]
  cases hnumeral : Text.readNumeral raw.toList <;> simp only [hraw, hnumeral]

theorem readNumber_eq_ok_iff (h : db.text? key = some raw) {n : UInt32} :
    readNumber key db = .ok (some n, db) ↔ Text.Spells raw.toList n := by
  rw [readNumber_of_text? h, ← Text.readNumeral_eq_ok_iff]
  cases Text.readNumeral raw.toList <;> simp

/-- There is a text under a key, and it is no numeral. -/
def Database.Garbled (db : Database) (key : String) : Prop :=
  ∃ raw, db.text? key = some raw ∧ ∀ n, ¬Text.Spells raw.toList n

theorem garbled_of_readNumeral {cause : Text.NumeralError} (htext : db.text? key = some raw)
    (h : Text.readNumeral raw.toList = .error cause) : db.Garbled key := by
  refine ⟨raw, htext, fun n hn => ?_⟩
  rw [← Text.readNumeral_eq_ok_iff, h] at hn
  cases hn

theorem Database.Garbled.readNumber_eq (h : db.Garbled key) :
    ∃ raw cause, readNumber key db = .error (.notANumber key raw cause) := by
  obtain ⟨raw, hraw, hnone⟩ := h
  refine ⟨raw, ?_⟩
  rw [readNumber_of_text? hraw]
  cases hread : Text.readNumeral raw.toList with
  | ok n => exact absurd (Text.readNumeral_eq_ok_iff.1 hread) (hnone n)
  | error cause => exact ⟨cause, rfl⟩

theorem Database.Garbled.of_text?_eq (h : db.Garbled key) (htext : db'.text? key = db.text? key) :
    db'.Garbled key := by
  rwa [Garbled, htext]

/-- A number that can be written is read back. -/
theorem exists_readNumber_of_takes {n : UInt32} (h : db.Takes [(key, some (Text.numeral n))]) :
    ∃ db', writeNumber key n db = .ok ((), db') ∧ readNumber key db' = .ok (some n, db') := by
  obtain ⟨kv, hkv, hfree⟩ := h
  have hwrite : ∃ db', writeNumber key n db = .ok ((), db') := by
    rw [writeNumber, writeText_eq, hkv]
    exact ⟨_, if_neg fun hrefused => hfree _ (List.mem_singleton_self _) rfl hrefused.2⟩
  obtain ⟨db', hdb'⟩ := hwrite
  exact ⟨db', hdb', (readNumber_of_writeNumber hdb').2⟩

variable {role : Role} {space : Ledger.Space} {p : Ledger.Pointer}

theorem Database.Garbled.answer_reserve (h : db.Garbled (slotKey role (.counter space)))
    (count : UInt32) :
    ∃ detail, answerLedger role (.reserve space count) db = .error (.storage detail) := by
  obtain ⟨raw, cause, hread⟩ := h.readNumber_eq
  have hread : (readNumber (ledgerKey role (counterName space))).mapError KeyError.ofDatabase db =
      .error (.storage (DatabaseError.notANumber _ raw cause).message) :=
    Query.mapError_eq_error.2 ⟨_, hread, rfl⟩
  exact ⟨_, by rw [answerLedger, Database.reserve, Query.bind_apply, hread]⟩

theorem Database.Garbled.answer_pointer (h : db.Garbled (slotKey role (.pointer p))) :
    ∃ detail, answerLedger role (.pointer p) db = .error (.storage detail) := by
  obtain ⟨raw, cause, hread⟩ := h.readNumber_eq
  exact ⟨_, Query.mapError_eq_error.2 ⟨_, hread, rfl⟩⟩

end

/-! ### Calls that need them -/

variable {d d' d'' : Device} {role : Role} {space : Ledger.Space}

/-- A request that the database cannot answer leaves it as it is. -/
theorem ledger_eq_error (hmemory : d.memory = none) (hfaults : d.faults = []) {r : Ledger.Request}
    (h : ∃ detail, answerLedger role r d.database = .error (.storage detail)) :
    ∃ detail d', Device.ledger role r d = .error (.storage detail) d' ∧ d'.database = d.database := by
  obtain ⟨detail, hanswer⟩ := h
  rw [ledger_eq hmemory, hfaults, Fault.meet]
  dsimp only
  rcases query_cases KeyError.ofDatabase (answerLedger role r) { d with faults := [] } with
    ⟨e, -, heq⟩ | ⟨e, he, heq⟩ | ⟨a, db', hok, -⟩
  · exact ⟨_, _, heq, rfl⟩
  · obtain rfl : e = .storage detail := Except.error.inj (he.symm.trans hanswer)
    exact ⟨detail, _, heq, rfl⟩
  · cases hok.symm.trans hanswer

/-- On a device that nothing disturbs, a request comes to what the database answers. -/
theorem Calm.ledger_eq (h : Calm d) (role : Role) (r : Ledger.Request) :
    Device.ledger role r d = match answerLedger role r d.database with
      | .ok (a, db') => .ok a { d with outages := d.outages.tail, database := db' }
      | .error e => .error e { d with outages := d.outages.tail } := by
  have hledger : Device.ledger role r d = Device.query KeyError.ofDatabase (answerLedger role r) d := by
    rw [Device.ledger, allow_bind_of_faults_eq_nil h.faults, act_get_bind_eq]
    simp only [h.memory]
  rw [hledger, (answers_of_outages h.outages).query_eq]
  cases answerLedger role r d.database <;> rfl

theorem Calm.after_outage (h : Calm d) : Calm { d with outages := d.outages.tail } :=
  ⟨h.memory, h.faults, fun o ho => h.outages o (List.mem_of_mem_tail ho)⟩

/-! ### Batches that were made before -/

namespace Batch

/-- The batches that are made before the first one that takes ids of a space for a role. -/
def before (role : Role) (space : Ledger.Space) : List (Role × Batch) :=
  (requests Role.all).takeWhile fun b => ¬(b.1 = role ∧ b.2.space = space)

theorem exists_requests_eq (role : Role) (space : Ledger.Space) :
    ∃ batch rest, requests Role.all = before role space ++ (role, batch) :: rest ∧
      batch.space = space := by
  cases role <;> cases space <;> exact ⟨_, _, rfl, rfl⟩

theorem ne_of_mem_before {b : Role × Batch} (h : b ∈ before role space) :
    ¬(b.1 = role ∧ b.2.space = space) := by
  have hb := List.mem_takeWhile_imp h
  exact of_decide_eq_true hb

variable {sizes : BatchSizes} {batches : List (Role × Batch)}

theorem taken_eq_zero (h : ∀ b ∈ batches, ¬(b.1 = role ∧ b.2.space = space)) :
    taken sizes role space batches = 0 := by
  rw [taken, List.map_congr_left fun b hb => if_neg (h b hb)]
  simp

end Batch

/-- A counter can be read and written. -/
structure Device.Usable (d : Device) (role : Role) (space : Ledger.Space) : Prop where
  reads : ∃ n, readNumber (slotKey role (.counter space)) d.database = .ok (n, d.database)
  writes : ∀ value, d.database.Takes [(slotKey role (.counter space), some value)]

/-- The counters of some batches have moved on by what these take, and nothing else has changed. -/
structure Device.Passed (sizes : BatchSizes) (done : List (Role × Batch)) (d d' : Device) : Prop where
  calm : Calm d'
  changed : ∃ cs, d'.database = d.database.after cs ∧
    ∀ c ∈ cs, ∃ b ∈ done, ∃ value, c = .ledger b.1 (Ledger.Slot.counter b.2.space).name value
  counter : ∀ role space, (d'.counter role space).toNat =
    (d.counter role space).toNat + Batch.taken sizes role space done
  told : ∀ b ∈ done, d'.database.slot? b.1 (.counter b.2.space) =
    some (Text.numeral (d'.counter b.1 b.2.space))

section

variable {sizes : BatchSizes} {done done' : List (Role × Batch)} {batch : Batch}

theorem ne_slotKey_of_counts {slot : Ledger.Slot} {cs : List Change}
    (hcs : ∀ c ∈ cs, ∃ b ∈ done, ∃ value,
      c = .ledger b.1 (Ledger.Slot.counter b.2.space).name value)
    (h : ∀ b ∈ done, (role, slot) ≠ (b.1, Ledger.Slot.counter b.2.space)) :
    ∀ c ∈ cs, ∀ w ∈ c.textRows, w.1 ≠ slotKey role slot := by
  intro c hc
  obtain ⟨b, hb, value, rfl⟩ := hcs c hc
  exact ne_slotKey_of_ledger value (h b hb) _ (List.mem_singleton_self _)

namespace Device.Passed

theorem refl (h : Calm d) : d.Passed sizes [] d where
  calm := h
  changed := ⟨[], (after_nil _).symm, by simp⟩
  counter _ _ := rfl
  told := by simp

theorem slot?_of_ne (h : d.Passed sizes done d') {slot : Ledger.Slot}
    (hne : ∀ b ∈ done, (role, slot) ≠ (b.1, Ledger.Slot.counter b.2.space)) :
    d'.database.slot? role slot = d.database.slot? role slot := by
  obtain ⟨cs, hdatabase, hcs⟩ := h.changed
  rw [hdatabase]
  exact slot?_after (ne_slotKey_of_counts hcs hne)

theorem trans (h : d.Passed sizes done d') (h' : d'.Passed sizes done' d'') :
    d.Passed sizes (done ++ done') d'' where
  calm := h'.calm
  changed := by
    obtain ⟨cs, hdatabase, hcs⟩ := h.changed
    obtain ⟨cs', hdatabase', hcs'⟩ := h'.changed
    refine ⟨cs ++ cs', by rw [hdatabase', hdatabase, after_append], fun c hc => ?_⟩
    rcases List.mem_append.1 hc with hc | hc
    · obtain ⟨b, hb, hchange⟩ := hcs c hc
      exact ⟨b, List.mem_append_left _ hb, hchange⟩
    · obtain ⟨b, hb, hchange⟩ := hcs' c hc
      exact ⟨b, List.mem_append_right _ hb, hchange⟩
  counter role space := by
    rw [h'.counter, h.counter, Batch.taken_append, Nat.add_assoc]
  told b hb := by
    by_cases hagain : ∃ b' ∈ done', b'.1 = b.1 ∧ b'.2.space = b.2.space
    · obtain ⟨b', hb', hrole, hspace⟩ := hagain
      have htold := h'.told b' hb'
      rwa [hrole, hspace] at htold
    · -- What was told of the counter before still stands, since nothing more was taken.
      have hnone : ∀ b' ∈ done', ¬(b'.1 = b.1 ∧ b'.2.space = b.2.space) :=
        fun b' hb' hsame => hagain ⟨b', hb', hsame⟩
      have hcounter : d''.counter b.1 b.2.space = d'.counter b.1 b.2.space := by
        rw [← UInt32.toNat_inj, h'.counter, Batch.taken_eq_zero hnone, Nat.add_zero]
      have hmem : b ∈ done :=
        (List.mem_append.1 hb).resolve_right fun hb' => hnone b hb' ⟨rfl, rfl⟩
      rw [hcounter, ← h.told b hmem]
      refine h'.slot?_of_ne fun b' hb' heq => hnone b' hb' ?_
      simpa [eq_comm] using heq

/-- What the batches were told is there to be read, and so is what was there before. -/
theorem usable (h : d.Passed sizes done d') (husable : d.Usable role space) :
    d'.Usable role space where
  reads := by
    obtain ⟨cs, hdatabase, hcs⟩ := h.changed
    by_cases htaken : ∃ b ∈ done, b.1 = role ∧ b.2.space = space
    · obtain ⟨b, hb, rfl, rfl⟩ := htaken
      exact ⟨_, (readNumber_eq_ok_iff (h.told b hb)).2
        (Text.readNumeral_eq_ok_iff.1 (Text.readNumeral_toList_numeral _))⟩
    · obtain ⟨n, hn⟩ := husable.reads
      have hne : ∀ c ∈ cs, ∀ w ∈ c.textRows, w.1 ≠ slotKey role (.counter space) :=
        ne_slotKey_of_counts hcs fun b hb heq => htaken ⟨b, hb, by simpa [eq_comm] using heq⟩
      exact ⟨n, by rw [hdatabase, readNumber_after hne, hn]; rfl⟩
  writes value := by
    obtain ⟨cs, hdatabase, -⟩ := h.changed
    rw [hdatabase, takes_after]
    exact husable.writes value

theorem after_outage (h : d.Passed sizes done d') :
    d.Passed sizes done { d' with outages := d'.outages.tail } :=
  ⟨h.calm.after_outage, h.changed, h.counter, h.told⟩

theorem withEntropy (h : d.Passed sizes done d') (e : Entropy) :
    d.Passed sizes done { d' with entropy := e } :=
  ⟨⟨h.calm.memory, h.calm.faults, h.calm.outages⟩, h.changed, h.counter, h.told⟩

end Device.Passed

/-- A batch takes its ids where its counter can be read and written and has as many left. -/
theorem exists_passed_one (hcalm : Calm d) (husable : d.Usable role batch.space)
    (hcount : batch.count sizes ≠ 0)
    (hroom : (d.counter role batch.space).toNat + (batch.count sizes).toNat < UInt32.size) :
    ∃ first d', Device.ledger role (.reserve batch.space (batch.count sizes)) d = .ok first d' ∧
      d.Passed sizes [(role, batch)] d' := by
  obtain ⟨n, hn⟩ := husable.reads
  obtain ⟨kv, hkv, hfree⟩ := husable.writes ""
  rcases reserve_cases (d.counter role batch.space) batch.space.kind hcount with
    ⟨first, last, hok, -, hlast⟩ | ⟨-, hsize⟩
  · rw [counter_of_readNumber hcalm.memory hn] at hok
    have hanswer : answerLedger role (.reserve batch.space (batch.count sizes)) d.database =
        .ok (first, d.database.after
          [.ledger role (Ledger.Slot.counter batch.space).name (Text.numeral last)]) := by
      rw [answerLedger, reserve_eq_of_readNumber hkv (hfree _ (List.mem_singleton_self _) rfl) hn,
        hok]
      rfl
    have hledger := hcalm.ledger_eq role (.reserve batch.space (batch.count sizes))
    rw [hanswer] at hledger
    have hmoved : d.Moved role batch.space last { d with
        outages := d.outages.tail
        database := d.database.after
          [.ledger role (Ledger.Slot.counter batch.space).name (Text.numeral last)] } :=
      moved_database hkv hcalm.memory role batch.space last hcalm.memory rfl rfl rfl
    have hcalm' := hcalm.after_outage
    refine ⟨first, _, hledger, ⟨hcalm'.memory, hcalm'.faults, hcalm'.outages⟩,
      ⟨_, rfl, fun c hc => ?_⟩, (hmoved.advanced hlast).counter, fun b hb => ?_⟩
    · exact ⟨_, List.mem_singleton_self _, _, List.mem_singleton.1 hc⟩
    · obtain rfl := List.mem_singleton.1 hb
      rw [hmoved.self]
      exact slot?_after_self hkv role (.counter batch.space) (Text.numeral last)
  · exact absurd hroom (Nat.not_lt.2 hsize)

/-- Each counter that some batches need can be read and written, and has as many ids left. -/
structure Device.CanPass (d : Device) (sizes : BatchSizes) (batches : List (Role × Batch)) : Prop where
  usable : ∀ b ∈ batches, d.Usable b.1 b.2.space
  room : ∀ role space,
    (d.counter role space).toNat + Batch.taken sizes role space batches < UInt32.size

theorem exists_passed (hcalm : Calm d) {batches : List (Role × Batch)}
    (h : d.CanPass sizes batches) (hcount : ∀ batch, Batch.count sizes batch ≠ 0) :
    ∃ firsts d', Granted Device.ledger sizes batches d firsts d' ∧ d.Passed sizes batches d' := by
  induction batches generalizing d with
  | nil => exact ⟨[], d, .nil d, .refl hcalm⟩
  | cons b batches ih =>
    obtain ⟨role, batch⟩ := b
    obtain ⟨husable, hrest⟩ := List.forall_mem_cons.1 h.usable
    have hroom : (d.counter role batch.space).toNat +
        Batch.taken sizes role batch.space ((role, batch) :: batches) < UInt32.size :=
      h.room role batch.space
    have htaken (role' : Role) (space : Ledger.Space) :
        Batch.taken sizes role' space ((role, batch) :: batches) =
          Batch.taken sizes role' space [(role, batch)] + Batch.taken sizes role' space batches :=
      Batch.taken_append [(role, batch)] batches
    rw [htaken, Batch.taken_singleton, if_pos ⟨rfl, rfl⟩, ← Nat.add_assoc] at hroom
    obtain ⟨first, d₁, hledger, hone⟩ := exists_passed_one hcalm husable (hcount batch)
      (Nat.lt_of_le_of_lt (Nat.le_add_right _ _) hroom)
    have hcan : d₁.CanPass sizes batches := by
      refine ⟨fun b hb => hone.usable (hrest b hb), fun role' space => ?_⟩
      rw [hone.counter, Nat.add_assoc, ← htaken]
      exact h.room role' space
    obtain ⟨firsts, d', hgranted, hpassed⟩ := ih hone.calm hcan
    exact ⟨first :: firsts, d', .cons hledger hgranted, hone.trans hpassed⟩

/-- A counter that cannot be read refuses the first batch that needs it. -/
theorem exists_refused (hcalm : Calm d) (hcan : d.CanPass sizes (Batch.before role space))
    (hcount : ∀ batch, Batch.count sizes batch ≠ 0)
    (hgarbled : d.database.Garbled (slotKey role (.counter space))) :
    ∃ detail d', Refused Device.ledger sizes (Batch.requests Role.all) d (Batch.before role space)
        (.storage detail) d' ∧ d.Passed sizes (Batch.before role space) d' := by
  obtain ⟨firsts, d₁, hgranted, hpassed⟩ := exists_passed hcalm hcan hcount
  obtain ⟨batch, rest, hrequests, rfl⟩ := Batch.exists_requests_eq role space
  have htext : d₁.database.slot? role (.counter batch.space) =
      d.database.slot? role (.counter batch.space) :=
    hpassed.slot?_of_ne fun b hb heq => Batch.ne_of_mem_before hb (by simpa [eq_comm] using heq)
  obtain ⟨detail, hanswer⟩ :=
    (hgarbled.of_text?_eq htext).answer_reserve (batch.count sizes)
  have hledger := hpassed.calm.ledger_eq role (.reserve batch.space (batch.count sizes))
  rw [hanswer] at hledger
  have hrefused : Refused Device.ledger sizes
      (Batch.before role batch.space ++ (role, batch) :: rest) d
      (Batch.before role batch.space ++ []) (.storage detail) _ :=
    hgranted.append_refused (.here hledger)
  rw [List.append_nil, ← hrequests] at hrefused
  exact ⟨detail, _, hrefused, hpassed.after_outage⟩

end

/-! ### All of it together -/

/-- What becomes of the numbers that a device keeps as texts, and of those who need them. -/
structure Device.NumbersStand (d : Device) : Prop where
  read_iff : ∀ key raw, d.database.text? key = some raw → ∀ n,
    readNumber key d.database = .ok (some n, d.database) ↔ Text.Spells raw.toList n
  garbled : ∀ key, d.database.Garbled key →
    ∃ raw cause, readNumber key d.database = .error (.notANumber key raw cause)
  written : ∀ key n, d.database.Takes [(key, some (Text.numeral n))] →
    ∃ db', writeNumber key n d.database = .ok ((), db') ∧ readNumber key db' = .ok (some n, db')
  reserve : d.memory = none → d.faults = [] → ∀ role space,
    d.database.Garbled (slotKey role (.counter space)) → ∀ count, ∃ detail d',
      Device.ledger role (.reserve space count) d = .error (.storage detail) d' ∧
        d'.database = d.database
  pointer : d.memory = none → d.faults = [] → ∀ role p,
    d.database.Garbled (slotKey role (.pointer p)) → ∃ detail d',
      Device.ledger role (.pointer p) d = .error (.storage detail) d' ∧ d'.database = d.database
  /-- The batches that were made before the one that fails keep their ids. -/
  generateBoth : Calm d → ∀ (suite : Suite) (p : Provisioner) (now : Int64) (role : Role)
      (space : Ledger.Space),
    d.database.Garbled (slotKey role (.counter space)) →
    d.CanPass p.sizes (Batch.before role space) → ∃ detail d',
      Device.generateBoth suite p now d = .error (.storage detail) d' ∧
        d.Passed p.sizes (Batch.before role space) d'

/-- A number is read as it is spelled, and where none is spelled nothing stands in for it. -/
theorem numbersStand (d : Device) : d.NumbersStand where
  read_iff key raw htext n := readNumber_eq_ok_iff htext
  garbled key h := h.readNumber_eq
  written key n h := exists_readNumber_of_takes h
  reserve hmemory hfaults role space h count :=
    ledger_eq_error hmemory hfaults (h.answer_reserve count)
  pointer hmemory hfaults role p h := ledger_eq_error hmemory hfaults h.answer_pointer
  generateBoth hcalm suite p now role space h hcan := by
    obtain ⟨detail, d', hrefused, hpassed⟩ := exists_refused hcalm hcan p.count_ne_zero h
    have herror := Provisioner.generateBoth_of_refused hrefused suite now d.entropy
    exact ⟨detail, _, Follows.registering_error (drawing_error herror), hpassed.withEntropy _⟩

namespace Sample

/-- The last one-time id of the secondary role is no number, and other numbers are oddly spelled. -/
def misread : Device :=
  let texts : Table String String := (((∅ : Table String String).insert
    "prekeys.aci.last_signed_id" "+07").insert
    "prekeys.pni.last_one_time_id" "12x").insert
    "prekeys.pni.active_signed_id" "4294967296"
  { database := { keyValues := some { values := texts } }, entropy := entropy }

theorem calm_misread : Calm misread := ⟨rfl, rfl, fun o ho => by cases ho⟩

theorem garbled_misread : misread.database.Garbled (slotKey .secondary (.counter .oneTime)) ∧
    misread.database.Garbled (slotKey .secondary (.pointer .activeSigned)) :=
  ⟨garbled_of_readNumeral rfl rfl, garbled_of_readNumeral rfl rfl⟩

theorem canPass_misread :
    misread.CanPass provisioner.sizes (Batch.before .secondary .oneTime) where
  usable := by
    rintro ⟨role, batch⟩ hb
    have hne : ¬(role = .secondary ∧ batch.space = .oneTime) := Batch.ne_of_mem_before hb
    refine ⟨?_, fun value => ⟨_, rfl, fun _ _ _ => List.not_mem_nil⟩⟩
    cases role <;> cases batch <;> first | exact ⟨_, rfl⟩ | exact absurd ⟨rfl, rfl⟩ hne
  room role space := by
    cases role <;> cases space <;> decide

/-- Five batches are made before the one whose ids cannot be told. -/
theorem numbersStand_misread :
    readNumber "prekeys.aci.last_signed_id" misread.database = .ok (some 7, misread.database) ∧
    (∀ count, ∃ detail d',
      Device.ledger .secondary (.reserve .oneTime count) misread = .error (.storage detail) d' ∧
        d'.database = misread.database) ∧
    (∃ detail d', Device.ledger .secondary (.pointer .activeSigned) misread =
      .error (.storage detail) d' ∧ d'.database = misread.database) ∧
    ∃ detail d', Device.generateBoth Suite.standard provisioner 0 misread =
        .error (.storage detail) d' ∧
      misread.Passed provisioner.sizes (Batch.before .secondary .oneTime) d' := by
  have h := numbersStand misread
  refine ⟨(h.read_iff _ "+07" rfl 7).2 (Text.readNumeral_eq_ok_iff.1 rfl),
    h.reserve rfl rfl _ _ garbled_misread.1, h.pointer rfl rfl _ _ garbled_misread.2,
    h.generateBoth calm_misread Suite.standard provisioner 0 _ _ garbled_misread.1 canPass_misread⟩

end Sample

end Registrar
