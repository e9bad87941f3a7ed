import Registrar.Proofs.Database.Keys
import Registrar.Proofs.Prekey.Record
import Registrar.Proofs.Registration.Standing

/-!
An account that is complete.

When the rows of a registration stand, everything that was brought along is read back from the
stores, under the ids and in the places that say what it is for.
-/

namespace Registrar

open Database Registration

/-- A query gives an answer and changes nothing. -/
def Database.Answers {ε α : Type} (db : Database) (q : Query ε α) (a : α) : Prop :=
  q db = .ok (a, db)

theorem Database.answers_iff {ε α : Type} {q : Query ε α} {db : Database} {a : α}
    (hsame : q db = (q db).map fun result => (result.1, db)) :
    db.Answers q a ↔ (q db).map Prod.fst = .ok a := by
  rw [Answers]
  cases hq : q db with
  | error e => simp [Except.map]
  | ok result =>
    rw [hq] at hsame
    simp only [Except.map, Except.ok.injEq] at hsame ⊢
    rw [hsame]
    simp

/-- A role has the keys of a bundle, and uses them. -/
structure Bundle.StoredFor (role : Role) (b : Bundle) (db : Database) : Prop where
  own : db.Answers (answerKeys role .ownIdentity) b.identity
  activeSigned : db.Answers (answerLedger role (.pointer .activeSigned)) (some b.signedId)
  signed : db.Answers (answerKeys role (.signed b.signedId)) (some b.signed)
  registered : db.Answers (answerLedger role .isRegistered) true
  oneTime : ∀ key ∈ b.oneTime, db.Answers (answerKeys role (.oneTime key.id)) (some key)
  lastResortId : db.Answers (answerLedger role (.pointer .lastResort)) (some b.lastResortId)
  lastResort : db.Answers (answerKeys role (.kyber b.lastResortId)) (some b.lastResort)
  isLastResort : db.Answers (answerKeys role (.isLastResort b.lastResortId)) true
  kyber : ∀ key ∈ b.kyber, db.Answers (answerKeys role (.kyber key.id)) (some key) ∧
    db.Answers (answerKeys role (.isLastResort key.id)) false

/-- What is known of ourselves once we are registered. -/
def OwnEntry.recipient (o : OwnEntry) (id : Int) : Recipient where
  id := id
  aci := some o.aci
  pni := some o.pni
  e164 := some o.e164
  registered := true
  profileSharing := true
  profileKey := some o.profileKey

/-- Everything that an account needs is there, and all of it comes from one enrolment. -/
structure Supplies (suite : Suite) (aci pni : ServiceId) (e : Enrolment) (id : Int)
    (db : Database) : Prop where
  bundle : ∀ role, (e.bundles.get role).StoredFor role db
  primaryId : db.Answers (Account.serviceId .primary) (some aci)
  secondaryId : db.Answers (Account.serviceId .secondary) (some pni)
  phone : db.Answers (Account.text .e164) (some e.e164)
  password : db.Answers (Account.text .servicePassword) (some e.password)
  pushToken : db.Answers (Account.text .pushToken) e.pushToken
  pushEnabled : db.Answers (Account.isMarked .pushEnabled) e.wantsPush
  registered : db.Answers (Account.isMarked .registered) true
  promptedPush : db.Answers (Account.isMarked .promptedPush) true
  unauthorized : db.Answers (Account.isMarked .unauthorized) false
  needsReregistration : db.Answers (Account.isMarked .needsReregistration) false
  byAci : db.Answers (recipientOf aci) (some id)
  byPni : db.Answers (recipientOf pni) (some id)
  byPhone : db.Answers (findRecipient .e164 e.e164) (some id)
  entry : db.Answers (recipient id) (some ((e.ownEntry aci pni).recipient id))
  identity : ∀ role, ∃ time, db.Answers (answerKeys role (.identity (toString id)))
    (some { identityKey := suite.identityPublic (e.bundles.get role).identity.secret
            verified := .verified, firstUse := true, timestamp := time
            nonblockingApproval := true })

/-! ### Reading rows -/

section

variable {db : Database} {role : Role}

theorem answers_text {kv : KeyValues} (hkv : db.keyValues = some kv) {entry : Account.Entry}
    {value : Option String} (h : kv.values.find? entry.key = value) :
    db.Answers (Account.text entry) value := by
  rw [Answers, text_eq, hkv, ← h]

theorem answers_isMarked {kv : KeyValues} (hkv : db.keyValues = some kv) {entry : Account.Entry}
    {value : Bool} (h : kv.values.find? entry.key = some (boolText value)) :
    db.Answers (Account.isMarked entry) value := by
  rw [Answers, Account.isMarked, readBool, Query.mapError_eq_ok, Query.bind_apply, readText_eq, hkv]
  cases value <;> simp [h, boolText]

theorem answers_isMarked_iff {entry : Account.Entry} {value : Bool} :
    db.Answers (Account.isMarked entry) value ↔
      (Account.isMarked entry db).map Prod.fst = .ok value := by
  apply answers_iff
  rw [Account.isMarked, Query.mapError, readBool, Query.bind_apply, readText_eq]
  cases db.keyValues <;> rfl

theorem answers_serviceId {kv : KeyValues} (hkv : db.keyValues = some kv) {id : ServiceId}
    (hid : id.uuid.isNil = false)
    (h : kv.values.find? (Account.Entry.serviceId role).key = some id.toString) :
    db.Answers (Account.serviceId role) (some id) := by
  have htext : Account.text (.serviceId role) db = .ok (some id.toString, db) :=
    answers_text hkv h
  rw [Answers, Account.serviceId, Query.bind_apply, htext]
  simp [ServiceId.ofString_toString hid]

theorem answers_pointer {kv : KeyValues} (hkv : db.keyValues = some kv) {p : Ledger.Pointer}
    {n : UInt32} (h : kv.values.find? (ledgerKey role (pointerName p)) = some (Text.numeral n)) :
    db.Answers (answerLedger role (.pointer p)) (some n) := by
  rw [Answers, answerLedger, Query.mapError_eq_ok]
  exact readNumber_of_numeral hkv h

theorem answers_isRegistered {kv : KeyValues} (hkv : db.keyValues = some kv) {value : Bool}
    (h : kv.values.find? (ledgerKey role "signed_registered") = some (boolText value)) :
    db.Answers (answerLedger role .isRegistered) value := by
  rw [Answers, answerLedger, readBool, Query.mapError_eq_ok, Query.bind_apply, readText_eq, hkv]
  cases value <;> simp [h, boolText]

theorem answers_ownIdentity {t : Table Role Bytes} (ht : db.ownIdentities = some t)
    {key : IdentityKey} (h : t.find? role = some key.secret) :
    db.Answers (answerKeys role .ownIdentity) key := by
  simp [Answers, answerKeys, ht, needKeys_some, h, IdentityKey.ofSecret, key.length_secret,
    Except.map]

theorem answers_signed {t : Table (Role × UInt32) String} (ht : db.signed = some t)
    {key : SignedPrekey} (h : t.find? (role, key.id) = some (Json.encode key)) :
    db.Answers (answerKeys role (.signed key.id)) (some key) := by
  simp [Answers, answerKeys, ht, needKeys_some, h, decodeRow_encode, SignedPrekey.roundTrips,
    Except.map]

theorem answers_oneTime {t : Table (Role × UInt32) String} (ht : db.oneTime = some t)
    {key : OneTimePrekey} (h : t.find? (role, key.id) = some (Json.encode key)) :
    db.Answers (answerKeys role (.oneTime key.id)) (some key) := by
  simp [Answers, answerKeys, ht, needKeys_some, h, decodeRow_encode, OneTimePrekey.roundTrips,
    Except.map]

theorem answers_kyber {t : Table (Role × UInt32) KyberRow} (ht : db.kyber = some t)
    {key : KyberPrekey} {lastResort : Bool}
    (h : t.find? (role, key.id) = some ⟨Json.encode key, flag lastResort⟩) :
    db.Answers (answerKeys role (.kyber key.id)) (some key) ∧
      db.Answers (answerKeys role (.isLastResort key.id)) lastResort := by
  constructor
  · simp [Answers, answerKeys, ht, needKeys_some, h, decodeRow_encode, KyberPrekey.roundTrips,
      Except.map]
  · simp only [Answers, answerKeys, Query.bind_apply, Query.get_apply, ht, needKeys_some, h]
    simp

theorem answers_identity {t : Table (Role × String) IdentityRow} (ht : db.identities = some t)
    {address : String} {r : IdentityRecord}
    (h : t.find? (role, address) = some (IdentityRow.ofRecord r)) :
    db.Answers (answerKeys role (.identity address)) (some r) := by
  simp only [Answers, answerKeys, Query.bind_apply, Query.get_apply, ht, needKeys_some, h,
    Option.map_some, toRecord_ofRecord]
  rfl

theorem answers_recipient {t : RecipientRows} (ht : db.recipients = some t) {id : Int}
    {row : RecipientRow} (h : (t.rows.find? fun row => row.id = id) = some row) :
    db.Answers (recipient id) (some (.ofRow row)) := by
  rw [Answers, recipient_eq ht, h]
  rfl

theorem ofRow_ownRow {o : OwnEntry} (haci : o.aci.uuid.isNil = false)
    (hpni : o.pni.uuid.isNil = false) (id : Int) :
    Recipient.ofRow (RecipientRows.ownRow o id) = o.recipient id := by
  simp [Recipient.ofRow, RecipientRows.ownRow, OwnEntry.recipient, readStored_toString haci,
    readStored_toString hpni, ProfileKey.ofHex?_toHex]

end

/-- An entry of ours that is settled is found by each of its identifiers, and read as it is. -/
theorem answers_ownEntry {o : OwnEntry} {id : Int} {t : RecipientRows} {db : Database}
    (ht : db.recipients = some t) (hunderway : t.Underway o id) (hsettled : t.settle o id = t)
    (haci : o.aci.role = .primary) (haci' : o.aci.uuid.isNil = false)
    (hpni : o.pni.role = .secondary) (hpni' : o.pni.uuid.isNil = false) :
    db.Answers (recipientOf o.aci) (some id) ∧ db.Answers (recipientOf o.pni) (some id) ∧
      db.Answers (findRecipient .e164 o.e164) (some id) ∧
      db.Answers (recipient id) (some (o.recipient id)) := by
  have hfind (c : IdColumn) : db.Answers (findRecipient c (o.value c)) (some id) := by
    rw [Answers, findRecipient_eq ht, hunderway.find_of_settled hsettled c]
  rw [recipientOf, recipientOf, haci, hpni, ← ofRow_ownRow haci' hpni']
  exact ⟨hfind .aci, hfind .pni, hfind .e164,
    answers_recipient ht (hunderway.find?_of_settled hsettled)⟩

/-! ### Rows that stand are read -/

/-- Storing a bundle stores its identity, and the two keys that the pointers lead to. -/
theorem core_mem_bundleChanges (role : Role) (b : Bundle) :
    Change.ownIdentity role b.identity ∈ bundleChanges role b ∧
      Change.signed role b.signed ∈ bundleChanges role b ∧
      Change.ledger role (pointerName .activeSigned) (Text.numeral b.signedId) ∈
        bundleChanges role b ∧
      Change.kyber role b.lastResort true ∈ bundleChanges role b ∧
      Change.ledger role (pointerName .lastResort) (Text.numeral b.lastResortId) ∈
        bundleChanges role b := by
  simp [bundleChanges]

section

variable {suite : Suite} {now : Int64} {aci pni : ServiceId} {e : Enrolment} {id : Int}
  {db : Database}

theorem mem_preparing_of_bundle {role : Role} {c : Change}
    (hc : c ∈ bundleChanges role (e.bundles.get role)) : c ∈ preparing suite now aci pni e id := by
  have hboth : c ∈ bundleChanges .primary e.bundles.primary ++
      bundleChanges .secondary e.bundles.secondary := by
    cases role with
    | primary => exact List.mem_append_left _ hc
    | secondary => exact List.mem_append_right _ hc
  simp only [preparing, List.mem_append] at hboth ⊢
  tauto

theorem mem_rows_of_bundle {α : Type} {role : Role} {c : Change} {f : Change → List α} {row : α}
    (hc : c ∈ bundleChanges role (e.bundles.get role)) (hrow : row ∈ f c) :
    row ∈ (plan suite now aci pni e id).flatMap f :=
  List.mem_flatMap.2 ⟨c, List.mem_append_left _ (mem_preparing_of_bundle hc), hrow⟩

namespace Standing

theorem text (h : Standing suite aci pni e id db) {w : String × Option String}
    (hw : w ∈ (plan suite 0 aci pni e id).flatMap Change.textRows) :
    ∃ kv, db.keyValues = some kv ∧ kv.values.find? w.1 = w.2 := by
  obtain ⟨t, ht, hfind⟩ := h.texts 0 w hw
  obtain ⟨kv, hkv, rfl⟩ := Option.map_eq_some_iff.1 ht
  exact ⟨kv, hkv, hfind⟩

theorem storedFor (h : Standing suite aci pni e id db) {role : Role}
    (hlaid : (e.bundles.get role).Laid) : (e.bundles.get role).StoredFor role db := by
  have hpointer (p : Ledger.Pointer) (n : UInt32)
      (hc : Change.ledger role (pointerName p) (Text.numeral n) ∈
        bundleChanges role (e.bundles.get role)) :
      db.Answers (answerLedger role (.pointer p)) (some n) := by
    obtain ⟨kv, hkv, hfind⟩ := h.text (mem_rows_of_bundle hc List.mem_cons_self)
    exact answers_pointer hkv hfind
  have hkyber (key : KyberPrekey) (lastResort : Bool)
      (hc : Change.kyber role key lastResort ∈ bundleChanges role (e.bundles.get role)) :
      db.Answers (answerKeys role (.kyber key.id)) (some key) ∧
        db.Answers (answerKeys role (.isLastResort key.id)) lastResort := by
    obtain ⟨t, ht, hfind⟩ := h.kyber 0 _ (mem_rows_of_bundle hc List.mem_cons_self)
    exact answers_kyber ht hfind
  obtain ⟨hown, hsigned, hsignedId, hlastResort, hlastResortId⟩ :=
    core_mem_bundleChanges role (e.bundles.get role)
  obtain ⟨hrecord, hmark⟩ := hkyber (e.bundles.get role).lastResort true hlastResort
  rw [hlaid.lastResort] at hrecord hmark
  refine ⟨?_, hpointer .activeSigned _ hsignedId, ?_, ?_, fun key hkey => ?_,
    hpointer .lastResort _ hlastResortId, hrecord, hmark,
    fun key hkey => hkyber key false (by simp [bundleChanges, hkey])⟩
  · obtain ⟨t, ht, hfind⟩ := h.own 0 _ (mem_rows_of_bundle hown List.mem_cons_self)
    exact answers_ownIdentity ht hfind
  · obtain ⟨t, ht, hfind⟩ := h.signed 0 _ (mem_rows_of_bundle hsigned List.mem_cons_self)
    rw [← hlaid.signed]
    exact answers_signed ht hfind
  · have hc : Change.ledger role "signed_registered" (boolText true) ∈
        bundleChanges role (e.bundles.get role) := by simp [bundleChanges]
    obtain ⟨kv, hkv, hfind⟩ := h.text (mem_rows_of_bundle hc List.mem_cons_self)
    exact answers_isRegistered hkv hfind
  · have hc : Change.oneTime role key ∈ bundleChanges role (e.bundles.get role) := by
      simp [bundleChanges, hkey]
    obtain ⟨t, ht, hfind⟩ := h.oneTime 0 _ (mem_rows_of_bundle hc List.mem_cons_self)
    exact answers_oneTime ht hfind

theorem supplies (h : Standing suite aci pni e id db) (hlaid : ∀ role, (e.bundles.get role).Laid)
    (haci : aci.role = .primary) (haci' : aci.uuid.isNil = false) (hpni : pni.role = .secondary)
    (hpni' : pni.uuid.isNil = false) : Supplies suite aci pni e id db := by
  have htext (entry : Account.Entry) (value : Option String)
      (hw : (entry.key, value) ∈ (plan suite 0 aci pni e id).flatMap Change.textRows) :
      db.Answers (Account.text entry) value := by
    obtain ⟨kv, hkv, hfind⟩ := h.text hw
    exact answers_text hkv hfind
  have hmarked (entry : Account.Entry) (value : Bool) (hw : (entry.key, some (boolText value)) ∈
      (plan suite 0 aci pni e id).flatMap Change.textRows) :
      db.Answers (Account.isMarked entry) value := by
    obtain ⟨kv, hkv, hfind⟩ := h.text hw
    exact answers_isMarked hkv hfind
  have hserviceId (role : Role) (sid : ServiceId) (hsid : sid.uuid.isNil = false)
      (hw : ((Account.Entry.serviceId role).key, some sid.toString) ∈
        (plan suite 0 aci pni e id).flatMap Change.textRows) :
      db.Answers (Account.serviceId role) (some sid) := by
    obtain ⟨kv, hkv, hfind⟩ := h.text hw
    exact answers_serviceId hkv hsid hfind
  rw [textRows_plan] at htext hmarked hserviceId
  obtain ⟨t, ht, hunderway, hsettled⟩ := h.recipients
  obtain ⟨hbyAci, hbyPni, hbyPhone, hentry⟩ :=
    answers_ownEntry ht hunderway hsettled haci haci' hpni hpni'
  exact
    { bundle := fun role => h.storedFor (hlaid role)
      primaryId := hserviceId .primary aci haci' (by simp [preparingTexts, haci])
      secondaryId := hserviceId .secondary pni hpni' (by simp [preparingTexts, hpni])
      phone := htext .e164 _ (by simp [preparingTexts])
      password := htext .servicePassword _ (by simp [preparingTexts])
      pushToken := htext .pushToken _ (by simp [preparingTexts])
      pushEnabled := hmarked .pushEnabled _ (by simp [preparingTexts])
      registered := hmarked .registered true (by simp [commitTexts])
      promptedPush := hmarked .promptedPush true (by simp [commitTexts])
      unauthorized := hmarked .unauthorized false (by simp [commitTexts])
      needsReregistration := hmarked .needsReregistration false (by simp [commitTexts])
      byAci := hbyAci
      byPni := hbyPni
      byPhone := hbyPhone
      entry := hentry
      identity := fun role => by
        obtain ⟨t, ht, hidentities⟩ := h.identities
        obtain ⟨time, htime⟩ := hidentities role
        exact ⟨time, answers_identity ht htime⟩ }

end Standing

end

/-! ### Looking ourselves up -/

theorem consult_eq {α : Type} {q : Query DatabaseError α} {a : α} {d : Device}
    (houtages : d.outages = []) (h : d.database.Answers q a) : Device.consult q d = .ok a d := by
  rw [Answers, ← Query.mapError_eq_ok (f := Database.failure)] at h
  exact ask_eq_ok houtages h

section

variable {suite : Suite} {aci pni : ServiceId} {e : Enrolment} {id : Int} {d : Device}

theorem profileKey_of_supplies (h : Supplies suite aci pni e id d.database)
    (houtages : d.outages = []) : Device.profileKey e.e164 d = .ok e.profileKey d := by
  have hknown : Device.knownProfileKey e.e164 d = .ok (some e.profileKey) d := by
    rw [Device.knownProfileKey, act_bind_eq, consult_eq houtages h.byPhone]
    dsimp only
    rw [act_bind_eq, consult_eq houtages h.entry]
    rfl
  rw [Device.profileKey, act_bind_eq, hknown]
  rfl

theorem selfRecipient_of_supplies (h : Supplies suite aci pni e id d.database)
    (houtages : d.outages = []) (hcached : d.cachedSelf = none) :
    Device.selfRecipient aci d = .ok (some ((e.ownEntry aci pni).recipient id))
      { d with cachedSelf := some ((e.ownEntry aci pni).recipient id) } := by
  have hget : (get : Act Failure Device) d = .ok d d := rfl
  rw [Device.selfRecipient, act_bind_eq, hget]
  dsimp only
  rw [hcached]
  dsimp only
  rw [act_bind_eq, consult_eq houtages h.byAci]
  dsimp only
  rw [act_bind_eq, consult_eq houtages h.entry]
  rfl

end

/-! ### Sessions and sender keys -/

section

variable {suite : Suite} {now : Int64} {aci pni : ServiceId} {e : Enrolment} {self : Int}
  {db : Database}

theorem archived_of_mem_endSessions {t : Table (Role × String) SessionRow}
    {row : (Role × String) × SessionRow} (h : row ∈ (endSessions [.primary, .secondary] t).rows) :
    row.2.archived ≠ 0 := by
  obtain ⟨⟨⟨role, address⟩, old⟩, -, rfl⟩ := List.mem_map.1 h
  cases role <;> simp

theorem exists_sessions_after_plan (hallowed : ∀ c ∈ plan suite now aci pni e self, c.Allowed db) :
    ∃ t, (db.after (plan suite now aci pni e self)).sessions =
      some (endSessions [.primary, .secondary] t) := by
  have hsessions : db.sessions.isSome := hallowed (.archive .primary) (by simp [plan, preparing])
  obtain ⟨t, ht⟩ := Option.isSome_iff_exists.1 hsessions
  exact ⟨t, by rw [after, ht, archived_plan, Option.map_some]⟩

theorem activeSessions_after_plan
    (hallowed : ∀ c ∈ plan suite now aci pni e self, c.Allowed db) (role : Role) :
    (db.after (plan suite now aci pni e self)).Answers (answerKeys role .activeSessions) 0 := by
  obtain ⟨t, hafter⟩ := exists_sessions_after_plan hallowed
  have hcount : (endSessions [.primary, .secondary] t).count
      (fun k row => k.1 = role && row.archived = 0) = 0 := by
    rw [Table.count, List.countP_eq_zero]
    intro row hrow
    simp [archived_of_mem_endSessions hrow]
  simp only [Answers, answerKeys, Query.bind_apply, Query.get_apply, hafter, needKeys_some, hcount]
  rfl

theorem session_after_plan (hallowed : ∀ c ∈ plan suite now aci pni e self, c.Allowed db)
    (role : Role) (address : String) :
    (db.after (plan suite now aci pni e self)).Answers (answerKeys role (.session address)) none := by
  obtain ⟨t, hafter⟩ := exists_sessions_after_plan hallowed
  have hended : ((endSessions [.primary, .secondary] t).find? (role, address)).filter
      (fun row => row.archived = 0) = none := by
    rw [endSessions, Table.find?_mapRows]
    cases t.find? (role, address) <;> cases role <;> simp [Option.filter]
  simp only [Answers, answerKeys, Query.bind_apply, Query.get_apply, hafter, needKeys_some, hended]
  rfl

theorem identity_after_plan (hallowed : ∀ c ∈ plan suite now aci pni e self, c.Allowed db)
    (role : Role) :
    (db.after (plan suite now aci pni e self)).Answers
      (answerKeys role (.identity (toString self)))
      (some (selfRecord suite now (e.bundles.get role).identity)) := by
  have hidentities : db.identities.isSome :=
    hallowed (selfChange suite now self e .primary) (by simp [plan, preparing])
  obtain ⟨t, ht⟩ := Option.isSome_iff_exists.1 hidentities
  apply answers_identity (t := t.writeAll
    ((plan suite now aci pni e self).flatMap Change.identityRows)) _ (find?_identityRows_plan role)
  rw [after, ht, Option.map_some]

theorem senderKeys_after_plan (hallowed : ∀ c ∈ plan suite now aci pni e self, c.Allowed db) :
    (db.after (plan suite now aci pni e self)).Answers (answerSenderKeys .count) 0 := by
  have hsenderKeys : db.senderKeys.isSome := hallowed .clearSenderKeys (by simp [plan, preparing])
  obtain ⟨t, ht⟩ := Option.isSome_iff_exists.1 hsenderKeys
  have hafter : (db.after (plan suite now aci pni e self)).senderKeys = some ∅ := by
    rw [after, ht, clears_plan]
    rfl
  simp only [Answers, answerSenderKeys, Query.bind_apply, Query.get_apply, hafter, needKeys_some]
  rfl

end

/-! ### The attempt that succeeds -/

section

variable {suite : Suite} {now : Int64} {aci pni : ServiceId} {e : Enrolment} {d d' : Device}
  {c : Confirmation}

theorem database_of_store_ok (hmemory : d.memory = none)
    (h : store suite now aci pni e d = .ok () d') :
    d'.database = d.database.after
        (plan suite now aci pni e (d.database.selfId (e.ownEntry aci pni))) ∧
      d'.cachedSelf = none ∧
      ∀ c ∈ plan suite now aci pni e (d.database.selfId (e.ownEntry aci pni)),
        c.Allowed d.database := by
  obtain ⟨hreached, hallows, -⟩ := (follows_store suite now aci pni e d).ok _ _ h
  have hcached := hreached.cachedSelf
  have hdatabase := hreached.database
  rw [forgets_plan] at hcached
  rw [stored_of_memory_eq_none hmemory] at hdatabase
  rw [Allows, stored_of_memory_eq_none hmemory] at hallows
  exact ⟨hdatabase, hcached, hallows⟩

theorem roles_of_confirmed (hids : confirmed c = .ok (aci, pni)) :
    aci.role = .primary ∧ aci.uuid.isNil = false ∧ pni.role = .secondary ∧
      pni.uuid.isNil = false := by
  obtain ⟨haci, hpni⟩ := confirmed_eq_ok hids
  obtain ⟨haci, haci'⟩ := ServiceId.of_read_eq_ok haci
  obtain ⟨hpni, hpni'⟩ := ServiceId.of_read_eq_ok hpni
  exact ⟨haci, haci', hpni, hpni'⟩

theorem standing_of_store_ok (hmemory : d.memory = none) (hsound : d.database.Sound)
    (hids : confirmed c = .ok (aci, pni)) (hlaid : ∀ role, (e.bundles.get role).Laid)
    (h : store suite now aci pni e d = .ok () d') :
    Standing suite aci pni e (d.database.selfId (e.ownEntry aci pni)) d'.database := by
  obtain ⟨hdatabase, -, hallowed⟩ := database_of_store_ok hmemory h
  obtain ⟨haci, -, hpni, -⟩ := roles_of_confirmed hids
  rw [hdatabase]
  exact standing_after_plan hsound rfl haci hpni hlaid hallowed

end

/--
An attempt that succeeds leaves a complete account: everything it brought along is read back, our
own identities among it as of now, and what belonged to an earlier registration has ended.
-/
theorem complete_of_run_ok {suite : Suite} {collaborators : Collaborators} {now : Int64}
    {a : Attempt} {d d' : Device} {response : Response} (hmemory : d.memory = none)
    (hsound : d.database.Sound) (hmade : ∀ role, (a.enrolment.bundles.get role).Made suite)
    (h : run suite collaborators now a d = .ok response d') :
    response = a.response ∧
    ∃ aci pni id, confirmed a.response.confirmation = .ok (aci, pni) ∧
      Supplies suite aci pni a.enrolment id d'.database ∧
      (∀ role, d'.database.Answers (answerKeys role (.identity (toString id)))
        (some { identityKey := suite.identityPublic (a.enrolment.bundles.get role).identity.secret
                verified := .verified, firstUse := true, timestamp := now
                nonblockingApproval := true })) ∧
      (∀ role, d'.database.Answers (answerKeys role .activeSessions) 0 ∧
        ∀ address, d'.database.Answers (answerKeys role (.session address)) none) ∧
      d'.database.Answers (answerSenderKeys .count) 0 ∧
      d'.database.Sound ∧
      Device.profileKey a.enrolment.e164 { d' with outages := [] } =
        .ok a.enrolment.profileKey { d' with outages := [] } ∧
      Device.selfRecipient aci { d' with outages := [] } =
        .ok (some ((a.enrolment.ownEntry aci pni).recipient id))
          { d' with
            outages := [], cachedSelf := some ((a.enrolment.ownEntry aci pni).recipient id) } := by
  have hlaid := fun role => (hmade role).laid
  obtain ⟨aci, pni, d₁, events, hids, hstore, hresponse, -, rfl⟩ := exists_store_of_run_ok h
  obtain ⟨hdatabase, hcached, hallowed⟩ := database_of_store_ok hmemory hstore
  have hstanding := standing_of_store_ok hmemory hsound hids hlaid hstore
  obtain ⟨haci, haci', hpni, hpni'⟩ := roles_of_confirmed hids
  have hsupplies := hstanding.supplies hlaid haci haci' hpni hpni'
  refine ⟨hresponse, aci, pni, _, hids, hsupplies, fun role => ?_, fun role => ?_, ?_, ?_, ?_, ?_⟩
  · rw [hdatabase]
    exact identity_after_plan hallowed role
  · rw [hdatabase]
    exact ⟨activeSessions_after_plan hallowed role, session_after_plan hallowed role⟩
  · rw [hdatabase]
    exact senderKeys_after_plan hallowed
  · rw [hdatabase]
    exact hsound.after _
  · exact profileKey_of_supplies hsupplies rfl
  · exact selfRecipient_of_supplies hsupplies rfl hcached

namespace Sample

/-- The device on which bundles were made once. -/
def device : Device := endOf (Device.generateBoth Suite.standard provisioner 0 (.fresh entropy))

theorem generates_later : (answerOf? (Device.generateBoth Suite.standard provisioner 0
    (device.under calm))).isSome = true := by
  decide +kernel

def later : PerRole Bundle :=
  (answerOf? (Device.generateBoth Suite.standard provisioner 0 (device.under calm))).get
    generates_later

theorem answerOf?_later : answerOf? (Device.generateBoth Suite.standard provisioner 0
    (device.under calm)) = some later :=
  (Option.some_get generates_later).symm

theorem made_of_later : ∀ role, (later.get role).Made Suite.standard :=
  made_of_generateBoth (eq_ok_of_answerOf? answerOf?_later)

attribute [irreducible] later

/-- An account with other identifiers, another number and other keys. -/
def earlier : Attempt := { other with enrolment := { other.enrolment with bundles := later } }

/-- Three others have the identifiers and the number that an attempt is to get. -/
def crowd : RecipientRows where
  rows :=
    [{ id := 1, aci := some "11111111-1111-4111-8111-111111111111", e164 := some "+15550111" },
      { id := 2, pni := some "PNI:22222222-2222-4222-8222-222222222222" },
      { id := 4, e164 := some "+15550100" }]
  lastId := 4

def crowded : Device := { database := { recipients := some crowd }, entropy := entropy }

theorem sound_crowded : crowded.database.Sound := by
  intro t ht
  cases ht
  refine ⟨by decide, by decide, fun c => ?_⟩
  cases c <;> decide

end Sample

/--
An account was registered before, and others have the identifiers and the number of the new one.
-/
theorem complete_of_run_ok_crowded :
    ∃ d₁ d₂, run Suite.standard Sample.accepting 0 Sample.earlier Sample.crowded =
        .ok Sample.earlier.response d₁ ∧
      run Suite.standard Sample.accepting 0 Sample.attempt d₁ = .ok Sample.attempt.response d₂ ∧
      ∃ aci pni id, Supplies Suite.standard aci pni Sample.attempt.enrolment id d₂.database ∧
        Device.profileKey Sample.attempt.enrolment.e164 { d₂ with outages := [] } =
          .ok Sample.attempt.enrolment.profileKey { d₂ with outages := [] } := by
  have hearlier : run Suite.standard Sample.accepting 0 Sample.earlier Sample.crowded =
      .ok Sample.earlier.response _ :=
    eq_ok_of_answerOf? (by decide +kernel)
  have hattempt : run Suite.standard Sample.accepting 0 Sample.attempt
      (endOf (run Suite.standard Sample.accepting 0 Sample.earlier Sample.crowded)) =
        .ok Sample.attempt.response _ :=
    eq_ok_of_answerOf? (by decide +kernel)
  have hmemory : (endOf (run Suite.standard Sample.accepting 0 Sample.earlier
      Sample.crowded)).memory.isNone = true := by
    decide +kernel
  obtain ⟨-, -, -, -, -, -, -, -, -, hsound, -⟩ :=
    complete_of_run_ok rfl Sample.sound_crowded Sample.made_of_later hearlier
  obtain ⟨-, aci, pni, id, -, hsupplies, -, -, -, -, hkey, -⟩ :=
    complete_of_run_ok (Option.isNone_iff_eq_none.1 hmemory) hsound Sample.made_bundles hattempt
  exact ⟨_, _, hearlier, hattempt, aci, pni, id, hsupplies, hkey⟩

end Registrar
