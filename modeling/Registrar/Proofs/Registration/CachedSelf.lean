import Registrar.Proofs.Registration.Progress

/-!
What is known of our own entry without looking it up.

Our entry is kept as it was looked up, and forgotten by an attempt that has claimed it as a whole.
An attempt that stops before does not forget it, although the identifier of the account may be
another one by then, or the entry another row.
-/

namespace Registrar

open Database Registration

/-- What the directory says of the person with an identifier. -/
def Database.entryOf (aci : ServiceId) : Query DatabaseError (Option Recipient) := do
  match ← recipientOf aci with
  | none => return none
  | some id => recipient id

namespace Device

/-- What is kept of our entry, if anything, is what the directory says of the account. -/
def CachesSelf (d : Device) : Prop :=
  d.cachedSelf = none ∨ ∃ aci, d.database.Answers (Account.serviceId .primary) (some aci) ∧
    d.database.Answers (entryOf aci) d.cachedSelf

/-- Whoever asks for our entry gets what the directory says of the account. -/
def ReadsSelf (d : Device) : Prop :=
  ∀ aci found, d.database.Answers (Account.serviceId .primary) (some aci) →
    d.database.Answers (entryOf aci) found →
      answerOf? (selfRecipient aci { d with outages := [] }) = some found

end Device

section

variable {suite : Suite} {a : Attempt} {d d' : Device} {c : Circumstances} {aci pni : ServiceId}
  {db : Database}

/-! ### Asking for our entry -/

theorem entryOf_eq {t : RecipientRows} (ht : db.recipients = some t) (aci : ServiceId) :
    entryOf aci db = .ok ((t.find (.ofRole aci.role) aci.toString).bind fun id =>
      (t.rows.find? fun row => row.id = id).map Recipient.ofRow, db) := by
  rw [entryOf, Query.bind_apply, recipientOf, findRecipient_eq ht]
  cases t.find (.ofRole aci.role) aci.toString with
  | none => rfl
  | some id => exact recipient_eq ht id

theorem exists_recipients_of_entryOf {found : Option Recipient} (h : db.Answers (entryOf aci) found) :
    ∃ t, db.recipients = some t := by
  cases ht : db.recipients with
  | none =>
    simp only [Answers, entryOf, recipientOf, findRecipient, Query.bind_apply,
      recipientRows_eq_error ht] at h
    cases h
  | some t => exact ⟨t, rfl⟩

theorem answers_entryOf_iff {found : Option Recipient} :
    db.Answers (entryOf aci) found ↔ (entryOf aci db).map Prod.fst = .ok found := by
  apply answers_iff
  cases ht : db.recipients with
  | none =>
    simp only [entryOf, recipientOf, findRecipient, Query.bind_apply, recipientRows_eq_error ht]
    rfl
  | some t =>
    rw [entryOf_eq ht]
    rfl

theorem answers_entryOf_congr {db' : Database} (h : db'.recipients = db.recipients)
    {found : Option Recipient} (hfound : db.Answers (entryOf aci) found) :
    db'.Answers (entryOf aci) found := by
  obtain ⟨t, ht⟩ := exists_recipients_of_entryOf hfound
  rw [Answers, entryOf_eq ht] at hfound
  rw [Answers, entryOf_eq (h.trans ht)]
  cases hfound
  rfl

theorem Database.Answers.unique {ε α : Type} {q : Query ε α} {a b : α} (h : db.Answers q a)
    (h' : db.Answers q b) : a = b :=
  congrArg Prod.fst (Except.ok.inj (h.symm.trans h'))

theorem selfRecipient_of_cached {r : Recipient} (hcached : d.cachedSelf = some r)
    (aci : ServiceId) : Device.selfRecipient aci d = .ok (some r) d := by
  rw [Device.selfRecipient, act_get_bind_eq, hcached]
  rfl

theorem selfRecipient_of_none (hcached : d.cachedSelf = none) (houtages : d.outages = [])
    {found : Option Recipient} (h : d.database.Answers (entryOf aci) found) :
    ∃ d', Device.selfRecipient aci d = .ok found d' := by
  obtain ⟨t, ht⟩ := exists_recipients_of_entryOf h
  have hfind : d.database.Answers (recipientOf aci) (t.find (.ofRole aci.role) aci.toString) :=
    findRecipient_eq ht _ _
  rw [Answers, entryOf_eq ht] at h
  rw [Device.selfRecipient, act_get_bind_eq, hcached]
  simp only [act_bind_eq, consult_eq houtages hfind]
  cases hid : t.find (.ofRole aci.role) aci.toString with
  | none =>
    rw [hid] at h
    cases h
    exact ⟨d, rfl⟩
  | some id =>
    rw [hid] at h
    have hrecipient : d.database.Answers (recipient id) found := (recipient_eq ht id).trans h
    simp only [act_bind_eq, consult_eq houtages hrecipient]
    exact ⟨_, rfl⟩

theorem readsSelf_iff :
    d.ReadsSelf ↔ d.cachedSelf = none ∨ ∀ aci found,
      d.database.Answers (Account.serviceId .primary) (some aci) →
        d.database.Answers (entryOf aci) found → found = d.cachedSelf := by
  cases hcached : d.cachedSelf with
  | none =>
    refine iff_of_true (fun aci found _ hfound => ?_) (Or.inl rfl)
    obtain ⟨d', hself⟩ := selfRecipient_of_none (d := { d with outages := [] }) hcached rfl hfound
    rw [hself]
    rfl
  | some r =>
    have hcached' : ({ d with outages := [] } : Device).cachedSelf = some r := hcached
    have hself (aci : ServiceId) :
        answerOf? (Device.selfRecipient aci { d with outages := [] }) = some (some r) := by
      rw [selfRecipient_of_cached hcached']
      rfl
    simp only [Device.ReadsSelf, hself, Option.some.injEq, reduceCtorEq, false_or]
    exact ⟨fun h aci found haci hfound => (h aci found haci hfound).symm,
      fun h aci found haci hfound => (h aci found haci hfound).symm⟩

theorem Device.CachesSelf.readsSelf (h : d.CachesSelf) : d.ReadsSelf := by
  rw [readsSelf_iff]
  rcases h with hnone | ⟨aci, haci, hentry⟩
  · exact Or.inl hnone
  · refine Or.inr fun aci' found haci' hfound => ?_
    obtain rfl := Option.some.inj (haci'.unique haci)
    exact hfound.unique hentry

/-! ### Attempts -/

theorem serviceId_eq (role : Role) (db : Database) :
    Account.serviceId role db = match db.keyValues with
      | none => .error (.storage (DatabaseError.noSuchTable TableName.keyValues.name).message)
      | some kv => match kv.values.find? (Account.Entry.serviceId role).key with
        | none => .ok (none, db)
        | some raw => match ServiceId.ofString raw with
          | .ok id => .ok (some id, db)
          | .error e => .error e.failure := by
  rw [Account.serviceId, Query.bind_apply, text_eq]
  cases db.keyValues with
  | none => rfl
  | some kv =>
    dsimp only
    cases kv.values.find? (Account.Entry.serviceId role).key with
    | none => rfl
    | some raw =>
      dsimp only
      cases ServiceId.ofString raw <;> rfl

theorem answers_serviceId_iff {role : Role} {id : Option ServiceId} :
    db.Answers (Account.serviceId role) id ↔
      (Account.serviceId role db).map Prod.fst = .ok id := by
  apply answers_iff
  rw [serviceId_eq]
  cases db.keyValues with
  | none => rfl
  | some kv =>
    dsimp only
    cases kv.values.find? (Account.Entry.serviceId role).key with
    | none => rfl
    | some raw =>
      dsimp only
      cases ServiceId.ofString raw <;> rfl

theorem answers_serviceId_congr {db' : Database} {kv kv' : KeyValues} {role : Role}
    {id : Option ServiceId} (hkv : db.keyValues = some kv) (hkv' : db'.keyValues = some kv')
    (hsame : kv'.values.find? (Account.Entry.serviceId role).key =
      kv.values.find? (Account.Entry.serviceId role).key)
    (hid : db.Answers (Account.serviceId role) id) : db'.Answers (Account.serviceId role) id := by
  rw [answers_serviceId_iff, serviceId_eq, hkv] at hid
  rw [answers_serviceId_iff, serviceId_eq, hkv']
  dsimp only at hid ⊢
  rw [hsame]
  cases hraw : kv.values.find? (Account.Entry.serviceId role).key with
  | none =>
    rw [hraw] at hid
    exact hid
  | some raw =>
    rw [hraw] at hid
    dsimp only at hid ⊢
    cases hread : ServiceId.ofString raw with
    | error e =>
      rw [hread] at hid
      cases hid
    | ok id' =>
      rw [hread] at hid
      exact hid

theorem textRows_of_keyed {e : Enrolment} (haci : aci.role = .primary)
    (hpni : pni.role = .secondary) {w : String × Option String}
    (hw : w ∈ (keyedChanges aci pni e).flatMap Change.textRows)
    (hkey : w.1 = (Account.Entry.serviceId .primary).key) : w.2 = some aci.toString := by
  -- No two texts of a plan have the same key.
  have hplan : (keyedChanges aci pni e).flatMap Change.textRows ⊆
      (plan Suite.standard 0 aci pni e 0).flatMap Change.textRows := by
    apply List.IsPrefix.subset
    apply prefix_flatMap
    rw [plan, preparing_eq, renewingChanges, ← List.append_assoc, List.append_assoc]
    exact List.prefix_append _ _
  have hown : ((Account.Entry.serviceId .primary).key, some aci.toString) ∈
      (plan Suite.standard 0 aci pni e 0).flatMap Change.textRows := by
    rw [textRows_plan, preparingTexts, haci]
    exact List.mem_cons_self
  have hsame := List.inj_on_of_nodup_map (nodup_textRows_plan haci hpni) (hplan hw) hown hkey
  rw [hsame]

/-- The identifier of the account stays what it is when the same one is stored again. -/
theorem serviceId_of_keyed {e : Enrolment} {done : List Change} (haci : aci.role = .primary)
    (hnil : aci.uuid.isNil = false) (hpni : pni.role = .secondary)
    (hdone : done <+: keyedChanges aci pni e) (h : Reached done d d')
    (hid : d.database.Answers (Account.serviceId .primary) (some aci)) :
    d'.database.Answers (Account.serviceId .primary) (some aci) := by
  cases hkv : d.database.keyValues with
  | none =>
    rw [Answers, serviceId_eq, hkv] at hid
    cases hid
  | some kv =>
    have hwrites : ∀ w ∈ (d.stored done).flatMap Change.textRows,
        w.1 = (Account.Entry.serviceId .primary).key → w.2 = some aci.toString := by
      intro w hw
      obtain ⟨change, hchange, hw⟩ := List.mem_flatMap.1 hw
      exact textRows_of_keyed haci hpni
        (List.mem_flatMap.2 ⟨change, hdone.mem (List.mem_of_mem_filter hchange), hw⟩)
    have hkv' : d'.database.keyValues =
        some { kv with values := kv.values.writeAll ((d.stored done).flatMap Change.textRows) } := by
      rw [h.database, after, hkv, Option.map_some]
    by_cases hmem : (Account.Entry.serviceId .primary).key ∈
        ((d.stored done).flatMap Change.textRows).map Prod.fst
    · exact answers_serviceId hkv' hnil (Table.find?_writeAll_of_forall hmem hwrites)
    · exact answers_serviceId_congr hkv hkv' (Table.find?_writeAll_of_not_mem hmem) hid

theorem endOf_store_of_not_keyed {e : Enrolment} {now : Int64}
    (h : answerOf? (keyed aci pni e d) = none) :
    endOf (store suite now aci pni e d) = endOf (keyed aci pni e d) := by
  rw [store_eq_claimed, claimed, bind_assoc]
  exact endOf_bind_of_stopped h _

theorem cachedSelf_leave (suite : Suite) (a : Attempt) (d : Device) (c : Circumstances) :
    (a.leave suite d c).cachedSelf = if a.claims d c then none else d.cachedSelf := by
  cases hids : confirmed a.response.confirmation with
  | error f =>
    rw [leave_of_confirmed_error hids, Attempt.claims, getsPast_of_not_confirmed hids]
    rfl
  | ok ids =>
    obtain ⟨steps, -, -, -, -, hcached⟩ := exists_steps_of_leave suite d c hids
    exact hcached

/-- An attempt for the same identifier keeps what is kept right until it comes to the directory. -/
theorem cachesSelf_leave_of_not_keyed (suite : Suite) (hcaches : d.CachesSelf)
    (hkeyed : a.getsPast d c keyed = false)
    (hsame : ∀ aci pni, confirmed a.response.confirmation = .ok (aci, pni) →
      d.database.Answers (Account.serviceId .primary) (some aci)) :
    (a.leave suite d c).CachesSelf := by
  cases hids : confirmed a.response.confirmation with
  | error f =>
    rw [leave_of_confirmed_error hids]
    exact hcaches
  | ok ids =>
    obtain ⟨aci, pni⟩ := ids
    obtain ⟨haci, hpni⟩ := confirmed_eq_ok hids
    obtain ⟨haci, hnil⟩ := ServiceId.of_read_eq_ok haci
    obtain ⟨hpni, -⟩ := ServiceId.of_read_eq_ok hpni
    obtain ⟨d₁, events, rfl, hleave⟩ := exists_store_of_leave suite d c hids
    rw [getsPast_of_confirmed hids, Option.isSome_eq_false_iff, Option.isNone_iff_eq_none] at hkeyed
    rw [hleave, endOf_store_of_not_keyed hkeyed]
    obtain ⟨done, hdone, hreached⟩ := (follows_keyed aci pni a.enrolment (d.under c)).exists_done
    have hid := serviceId_of_keyed haci hnil hpni hdone hreached (hsame aci pni hids)
    have hrecipients := hreached.recipients_eq (List.prefix_nil.1
      (claimSteps_keyedChanges aci pni a.enrolment ▸ prefix_flatMap hdone Change.claimSteps))
    have hforgets := forgets_enteredChanges aci pni a.enrolment 0
    rw [enteredChanges, List.any_append, Bool.or_eq_false_iff] at hforgets
    have hcached := hreached.cachedSelf
    rw [List.any_eq_false.2 fun change hchange =>
      List.any_eq_false.1 hforgets.1 change (hdone.mem hchange)] at hcached
    rcases hcaches with hnone | ⟨aci', haci', hentry⟩
    · exact Or.inl (hcached.trans hnone)
    · obtain rfl := Option.some.inj ((hsame aci pni hids).unique haci')
      exact Or.inr ⟨aci, hid, hcached ▸ answers_entryOf_congr hrecipients hentry⟩

/--
An attempt forgets our entry just if it claims all of it. Our entry is read as it is afterwards if
it was forgotten, if nothing was kept, or if what was kept is still right; the last is so if the
attempt has the same identifier and stops before the directory. One that succeeds has forgotten it.
-/
theorem readsSelf_leave_iff (suite : Suite) (hcaches : d.CachesSelf) (a : Attempt)
    (c : Circumstances) :
    (a.leave suite d c).cachedSelf = (if a.claims d c then none else d.cachedSelf) ∧
    ((a.leave suite d c).ReadsSelf ↔ a.claims d c = true ∨ d.cachedSelf = none ∨ ∀ aci found,
      (a.leave suite d c).database.Answers (Account.serviceId .primary) (some aci) →
        (a.leave suite d c).database.Answers (entryOf aci) found → found = d.cachedSelf) ∧
    (a.getsPast d c keyed = false → (∀ aci pni, confirmed a.response.confirmation = .ok (aci, pni) →
        d.database.Answers (Account.serviceId .primary) (some aci)) →
      (a.leave suite d c).ReadsSelf) ∧
    ∀ response d', a.runOn suite d c = .ok response d' → a.claims d c = true := by
  have hcached := cachedSelf_leave suite a d c
  refine ⟨hcached, ?_, fun hkeyed hsame =>
    (cachesSelf_leave_of_not_keyed suite hcaches hkeyed hsame).readsSelf,
    fun response d' hrun => claims_of_runOn_ok hrun⟩
  rw [readsSelf_iff, hcached]
  cases hclaims : a.claims d c with
  | true => simp
  | false => simp

theorem not_readsSelf_of_answers (aci : ServiceId) (found : Option Recipient)
    (h : (Account.serviceId .primary d.database).map Prod.fst = .ok (some aci) ∧
      (entryOf aci d.database).map Prod.fst = .ok found ∧
        answerOf? (Device.selfRecipient aci { d with outages := [] }) ≠ some found) :
    ¬d.ReadsSelf := by
  obtain ⟨hid, hentry, hself⟩ := h
  intro hreads
  exact hself (hreads aci found (answers_serviceId_iff.2 hid) (answers_entryOf_iff.2 hentry))

end

namespace Sample

/-- An account was registered, and our entry was looked up. -/
def lookedUp : Device :=
  endOf ((do
    match ← Device.ask (Account.serviceId .primary) with
    | none => return none
    | some aci => Device.selfRecipient aci : Act Failure (Option Recipient))
    (attempt.leave Suite.standard (.fresh entropy) calm))

/-- The identifiers with which the account was registered, and those of another registration. -/
def ids : ServiceId × ServiceId :=
  (confirmed attempt.response.confirmation).toOption.get (by decide +kernel)

def otherIds : ServiceId × ServiceId :=
  (confirmed other.response.confirmation).toOption.get (by decide +kernel)

/-- The same person registers again, with another number. -/
def moved : Attempt := { attempt with enrolment := other.enrolment }

/-- Our entry with the other number. -/
def movedEntry : Recipient where
  id := 1
  aci := some ids.1
  pni := some ids.2
  e164 := some "+15550199"
  registered := true
  profileSharing := true
  profileKey := some enrolment.profileKey

theorem cachesSelf_lookedUp : lookedUp.CachesSelf := by
  have hanswers : (Account.serviceId .primary lookedUp.database).map Prod.fst = .ok (some ids.1) ∧
      (entryOf ids.1 lookedUp.database).map Prod.fst = .ok lookedUp.cachedSelf := by
    decide +kernel
  exact Or.inr
    ⟨ids.1, answers_serviceId_iff.2 hanswers.1, answers_entryOf_iff.2 hanswers.2⟩

end Sample

theorem readsSelf_leave_iff_other :
    (Sample.other.leave Suite.standard Sample.lookedUp Sample.calm).cachedSelf = none ∧
      (Sample.other.leave Suite.standard Sample.lookedUp Sample.calm).ReadsSelf := by
  have hclaims : Sample.other.claims Sample.lookedUp Sample.calm = true := by decide +kernel
  obtain ⟨hcached, hreads, -⟩ := readsSelf_leave_iff Suite.standard Sample.cachesSelf_lookedUp
    Sample.other Sample.calm
  rw [hclaims] at hcached
  exact ⟨hcached, hreads.2 (Or.inl hclaims)⟩

/--
An attempt that stops halfway leaves our entry as it was kept, although the account has another
identifier by then that nobody in the directory has, or although the entry has another phone number.
-/
theorem not_readsSelf_halfway :
    Sample.lookedUp.CachesSelf ∧
    ¬(Sample.other.leave Suite.standard Sample.lookedUp Sample.full).ReadsSelf ∧
    ¬(Sample.moved.leave Suite.standard Sample.lookedUp Sample.unkeyed).ReadsSelf := by
  refine ⟨Sample.cachesSelf_lookedUp, ?_, ?_⟩
  · apply not_readsSelf_of_answers Sample.otherIds.1 none
    decide +kernel
  · apply not_readsSelf_of_answers Sample.ids.1 (some Sample.movedEntry)
    decide +kernel

end Registrar
