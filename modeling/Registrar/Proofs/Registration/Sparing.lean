import Registrar.Proofs.Prekey.Slots
import Registrar.Proofs.Registration.History

/-!
What an attempt leaves alone.

Wherever an attempt stops, it has gone through a first part of its plan, and on a device whose keys
are elsewhere only through some of that. So it is enough to look at the writes of the plan: each of
them is to a row of its own role, and says what the bundle of that role says.
-/

namespace Registrar

open Database Registration

/-! ### Rows that are written -/

section

variable {κ ν : Type} [DecidableEq κ]

/-- Every row of a table is the one it was, or a new one that is due under its key. -/
structure Renewed (due : κ → ν → Prop) (t t' : Option (Table κ ν)) : Prop where
  isSome : t'.isSome = t.isSome
  row : ∀ k, rowOf t' k = rowOf t k ∨ ∃ v, rowOf t' k = some v ∧ due k v

theorem renewed_writeAll {due : κ → ν → Prop} {ws : List (κ × Option ν)}
    (h : ∀ w ∈ ws, ∃ v, w.2 = some v ∧ due w.1 v) (t : Option (Table κ ν)) :
    Renewed due t (t.map (·.writeAll ws)) where
  isSome := Option.isSome_map
  row k := (rowOf_writeAll_cases t ws k).imp_right (h _)

end

/-- A session is as it was, or it was active and has ended. -/
theorem rowOf_endSessions (t : Option (Table (Role × String) SessionRow)) (roles : List Role)
    (k : Role × String) :
    rowOf (t.map (endSessions roles)) k = rowOf t k ∨
      ∃ row, rowOf t k = some row ∧ row.archived = 0 ∧
        rowOf (t.map (endSessions roles)) k = some { row with archived := flag true } := by
  cases t with
  | none => exact Or.inl rfl
  | some t =>
    have hfind : rowOf (some (endSessions roles t)) k =
        (t.find? k).map fun row => if k.1 ∈ roles then row.ended else row :=
      t.find?_mapRows _ k
    rw [Option.map_some, hfind]
    change _ = t.find? k ∨ ∃ row, t.find? k = some row ∧ _
    cases t.find? k with
    | none => exact Or.inl rfl
    | some row =>
      by_cases hended : k.1 ∈ roles ∧ row.archived = 0
      · exact Or.inr ⟨row, rfl, hended.2, by simp [SessionRow.ended, hended]⟩
      · refine Or.inl ?_
        by_cases hk : k.1 ∈ roles
        · have harchived : row.archived ≠ 0 := fun h => hended ⟨hk, h⟩
          simp [SessionRow.ended, hk, harchived]
        · simp [hk]

/-- No row of the directory is taken away, and new ones come after the others. -/
theorem ids_claim (o : OwnEntry) (self : Int) (t : RecipientRows) (step : ClaimStep) :
    t.rows.map RecipientRow.id <+: (t.claim o self step).rows.map RecipientRow.id := by
  have hrelease (t : RecipientRows) (c : IdColumn) (v : String) (id : Int) :
      (t.release c v id).rows.map RecipientRow.id = t.rows.map RecipientRow.id :=
    RecipientRows.ids_update fun row => by cases c <;> rfl
  have hsame {t' : RecipientRows} (h : t'.rows.map RecipientRow.id = t.rows.map RecipientRow.id) :
      t.rows.map RecipientRow.id <+: t'.rows.map RecipientRow.id :=
    h ▸ List.prefix_refl _
  cases step with
  | arrive =>
    rw [RecipientRows.claim]
    cases t.selfId? o with
    | some id => exact List.prefix_refl _
    | none => simp
  | share => exact hsame (RecipientRows.ids_update fun _ => by rfl)
  | register => exact hsame ((RecipientRows.ids_update fun _ => by rfl).trans (hrelease _ _ _ _))
  | link =>
    rw [RecipientRows.claim]
    cases t.find .aci o.aci.toString with
    | none => exact List.prefix_refl _
    | some id =>
      have hids := (hrelease (t.release .pni (o.value .pni) id) .e164 (o.value .e164) id).trans
        (hrelease t .pni (o.value .pni) id)
      exact hsame ((RecipientRows.ids_update fun _ => by rfl).trans hids)
  | setKey => exact hsame (RecipientRows.ids_update fun _ => by rfl)

theorem ids_onDirectory (cs : List Change) (t : RecipientRows) :
    t.rows.map RecipientRow.id <+: (cs.foldl Change.onDirectory t).rows.map RecipientRow.id := by
  induction cs generalizing t with
  | nil => exact List.prefix_refl _
  | cons c cs ih =>
    refine List.IsPrefix.trans ?_ (ih (Change.onDirectory t c))
    cases c with
    | claim o self step => exact ids_claim o self t step
    | _ => exact List.prefix_refl _

/-! ### The writes of the plan -/

/-- What storing a bundle puts in the places of its role's ledger. -/
def Bundle.noted? (b : Bundle) : Ledger.Slot → Option String
  | .counter _ => none
  | .pointer .activeSigned => some (Text.numeral b.signedId)
  | .pointer .lastResort => some (Text.numeral b.lastResortId)
  | .registered => some (boolText true)

/-- A text that an attempt may write: an entry of the account, or what a bundle puts in a ledger. -/
inductive Enrolment.Writes (e : Enrolment) : String × Option String → Prop
  | entry {entry : Account.Entry} {value : Option String}
    (stable : ∀ role, entry ≠ .registrationId role)
    (kept : value.isSome ∨ entry = .pushToken ∧ e.pushToken = none) : e.Writes (entry.key, value)
  | slot {role : Role} {slot : Ledger.Slot} {value : String}
    (noted : (e.bundles.get role).noted? slot = some value) :
    e.Writes (slotKey role slot, some value)

theorem Account.Entry.key_ne_registrationId {entry : Account.Entry} {role : Role}
    (h : entry ≠ .registrationId role) : entry.key ≠ (Account.Entry.registrationId role).key := by
  rcases entry with (_ | _) | _ | _ | _ | _ | _ | (_ | _) | _ | _ | _ <;> cases role <;>
    first | exact absurd rfl h | decide

namespace Enrolment.Writes

variable {e : Enrolment} {w : String × Option String}

theorem exists_noted (h : e.Writes w) {role : Role} {slot : Ledger.Slot}
    (hkey : w.1 = slotKey role slot) :
    ∃ text, (e.bundles.get role).noted? slot = some text ∧ w.2 = some text := by
  cases h with
  | entry => exact absurd hkey (key_ne_ledgerKey _ _ _)
  | slot noted =>
    obtain ⟨rfl, rfl⟩ := slotKey_inj.1 hkey
    exact ⟨_, noted, rfl⟩

theorem key_ne_registrationId (h : e.Writes w) (role : Role) :
    w.1 ≠ (Account.Entry.registrationId role).key := by
  cases h with
  | entry stable => exact Account.Entry.key_ne_registrationId (stable role)
  | slot => exact (key_ne_ledgerKey _ _ _).symm

theorem isSome (h : e.Writes w) :
    w.2.isSome ∨ w.1 = Account.Entry.pushToken.key ∧ e.pushToken = none := by
  cases h with
  | entry stable kept => exact kept.imp_right fun ⟨hentry, htoken⟩ => ⟨by rw [hentry], htoken⟩
  | slot => exact Or.inl rfl

end Enrolment.Writes

section

variable {suite : Suite} {now : Int64} {aci pni : ServiceId} {e : Enrolment} {self : Int}

theorem writes_of_mem_plan :
    ∀ w ∈ (plan suite now aci pni e self).flatMap Change.textRows, e.Writes w := by
  have hsome {entry : Account.Entry} {text : String} (h : ∀ role, entry ≠ .registrationId role) :
      e.Writes (entry.key, some text) := .entry h (Or.inl rfl)
  have htoken : e.Writes (Account.Entry.pushToken.key, e.pushToken) := by
    refine .entry (by simp) ?_
    cases e.pushToken with
    | none => exact Or.inr ⟨rfl, rfl⟩
    | some token => exact Or.inl rfl
  have hslot (role : Role) (slot : Ledger.Slot) {value : String}
      (h : (e.bundles.get role).noted? slot = some value) :
      e.Writes (slotKey role slot, some value) := .slot h
  simp only [textRows_plan, preparingTexts, commitTexts, List.forall_mem_append,
    List.forall_mem_cons]
  refine ⟨⟨hsome (by simp), hsome (by simp), ?_⟩, ?_⟩
  · exact ⟨hslot .primary (.pointer .activeSigned) rfl, hslot .primary (.pointer .lastResort) rfl,
      hslot .primary .registered rfl, hslot .secondary (.pointer .activeSigned) rfl,
      hslot .secondary (.pointer .lastResort) rfl, hslot .secondary .registered rfl,
      hsome (by simp), htoken, hsome (by simp), hsome (by simp), by simp⟩
  · exact ⟨hsome (by simp), hsome (by simp), hsome (by simp), hsome (by simp), by simp⟩

theorem ownRows_due : ∀ w ∈ (plan suite now aci pni e self).flatMap Change.ownRows,
    ∃ secret, w.2 = some secret ∧ secret = (e.bundles.get w.1).identity.secret := by
  simp [ownRows_plan, PerRole.get]

theorem signedRows_due : ∀ w ∈ (plan suite now aci pni e self).flatMap Change.signedRows,
    ∃ record, w.2 = some record ∧ w.1.2 = (e.bundles.get w.1.1).signed.id ∧
      record = Json.encode (e.bundles.get w.1.1).signed := by
  simp [signedRows_plan, PerRole.get]

theorem oneTimeRows_due : ∀ w ∈ (plan suite now aci pni e self).flatMap Change.oneTimeRows,
    ∃ record, w.2 = some record ∧ ∃ key ∈ (e.bundles.get w.1.1).oneTime,
      w.1.2 = key.id ∧ record = Json.encode key := by
  simp only [oneTimeRows_plan, oneTimeRows_bundleChanges, List.forall_mem_append,
    List.forall_mem_map]
  exact ⟨fun key hkey => ⟨_, rfl, key, hkey, rfl, rfl⟩, fun key hkey => ⟨_, rfl, key, hkey, rfl, rfl⟩⟩

/-- The keys of a bundle in the table of encapsulation keys, each with its row. -/
def Bundle.kyberRows (b : Bundle) : List (UInt32 × KyberRow) :=
  (b.lastResort.id, ⟨Json.encode b.lastResort, flag true⟩) ::
    b.kyber.map fun key => (key.id, ⟨Json.encode key, flag false⟩)

theorem kyberRows_due : ∀ w ∈ (plan suite now aci pni e self).flatMap Change.kyberRows,
    ∃ row, w.2 = some row ∧ (w.1.2, row) ∈ (e.bundles.get w.1.1).kyberRows := by
  have hrole (role : Role) (b : Bundle) : (bundleChanges role b).flatMap Change.kyberRows =
      b.kyberRows.map fun entry => ((role, entry.1), some entry.2) := by
    simp [kyberRows_bundleChanges, Bundle.kyberRows]
  simp only [kyberRows_plan, hrole, List.forall_mem_append, List.forall_mem_map]
  exact ⟨fun entry hentry => ⟨_, rfl, hentry⟩, fun entry hentry => ⟨_, rfl, hentry⟩⟩

theorem identityRows_due : ∀ w ∈ (plan suite now aci pni e self).flatMap Change.identityRows,
    ∃ row, w.2 = some row ∧ w.1.2 = toString self ∧
      row = IdentityRow.ofRecord (selfRecord suite now (e.bundles.get w.1.1).identity) := by
  simp [identityRows_plan, PerRole.get]

end

/-! ### What is left alone -/

/--
What an attempt leaves of a database. The entry of ourselves in its directory has the id `me`, or
will have it. Every row that is written is one of its own role's bundle, and no row is taken away
but sender keys, and the push token where the attempt is given none.
-/
structure Spared (suite : Suite) (now : Int64) (e : Enrolment) (me : Int) (db db' : Database) :
    Prop where
  version : db'.version = db.version
  refused : db'.keyValues.map KeyValues.refused = db.keyValues.map KeyValues.refused
  counter : ∀ role space, db'.slot? role (.counter space) = db.slot? role (.counter space)
  registrationId : ∀ role, db'.text? (Account.Entry.registrationId role).key =
    db.text? (Account.Entry.registrationId role).key
  slot : ∀ role slot, db'.slot? role slot = db.slot? role slot ∨
    ∃ text, (e.bundles.get role).noted? slot = some text ∧ db'.slot? role slot = some text
  text : ∀ key, (db.text? key).isSome → (db'.text? key).isSome ∨
    key = Account.Entry.pushToken.key ∧ e.pushToken = none
  own : Renewed (fun role secret => secret = (e.bundles.get role).identity.secret)
    db.ownIdentities db'.ownIdentities
  signed : Renewed (fun k record => k.2 = (e.bundles.get k.1).signed.id ∧
    record = Json.encode (e.bundles.get k.1).signed) db.signed db'.signed
  oneTime : Renewed (fun k record => ∃ key ∈ (e.bundles.get k.1).oneTime,
    k.2 = key.id ∧ record = Json.encode key) db.oneTime db'.oneTime
  kyber : Renewed (fun k row => (k.2, row) ∈ (e.bundles.get k.1).kyberRows) db.kyber db'.kyber
  identities : Renewed (fun k row => k.2 = toString me ∧
    row = IdentityRow.ofRecord (selfRecord suite now (e.bundles.get k.1).identity))
    db.identities db'.identities
  sessions : db'.sessions.isSome = db.sessions.isSome ∧
    ∀ k, rowOf db'.sessions k = rowOf db.sessions k ∨
      ∃ row, rowOf db.sessions k = some row ∧ row.archived = 0 ∧
        rowOf db'.sessions k = some { row with archived := flag true }
  recipients : db'.recipients.isSome = db.recipients.isSome ∧
    ∀ t t', db.recipients = some t → db'.recipients = some t' →
      t.rows.map RecipientRow.id <+: t'.rows.map RecipientRow.id
  senderKeys : db'.senderKeys = db.senderKeys ∨ db'.senderKeys = db.senderKeys.map fun _ => ∅

section

variable {suite : Suite} {now : Int64} {aci pni : ServiceId} {e : Enrolment} {self : Int}
  {db : Database} {cs : List Change}

/-- Whichever changes of the plan are made, the rest is left alone. -/
theorem spared_after (hcs : cs ⊆ plan suite now aci pni e self) :
    Spared suite now e self db (db.after cs) := by
  have hmem {β : Type} {f : Change → List β} {w : β} (hw : w ∈ cs.flatMap f) :
      w ∈ (plan suite now aci pni e self).flatMap f := by
    obtain ⟨c, hc, hwc⟩ := List.mem_flatMap.1 hw
    exact List.mem_flatMap.2 ⟨c, hcs hc, hwc⟩
  have htext (key : String) : (db.after cs).text? key = db.text? key ∨
      e.Writes (key, (db.after cs).text? key) :=
    (text?_after_cases db cs key).imp_right fun hw => writes_of_mem_plan _ (hmem hw)
  have hslot (role : Role) (slot : Ledger.Slot) :
      (db.after cs).slot? role slot = db.slot? role slot ∨
        ∃ text, (e.bundles.get role).noted? slot = some text ∧
          (db.after cs).slot? role slot = some text :=
    (htext (slotKey role slot)).imp_right fun hw => hw.exists_noted rfl
  constructor
  · rfl
  · cases hkv : db.keyValues <;> simp [after, hkv]
  · intro role space
    rcases hslot role (.counter space) with hsame | ⟨text, hnone, -⟩
    · exact hsame
    · cases hnone
  · intro role
    rcases htext (Account.Entry.registrationId role).key with hsame | hw
    · exact hsame
    · exact absurd rfl (hw.key_ne_registrationId role)
  · exact hslot
  · intro key hkey
    rcases htext key with hsame | hw
    · exact Or.inl (by rwa [hsame])
    · exact hw.isSome
  · exact renewed_writeAll (fun w hw => ownRows_due w (hmem hw)) db.ownIdentities
  · exact renewed_writeAll (fun w hw => signedRows_due w (hmem hw)) db.signed
  · exact renewed_writeAll (fun w hw => oneTimeRows_due w (hmem hw)) db.oneTime
  · exact renewed_writeAll (fun w hw => kyberRows_due w (hmem hw)) db.kyber
  · exact renewed_writeAll (fun w hw => identityRows_due w (hmem hw)) db.identities
  · exact ⟨Option.isSome_map, rowOf_endSessions db.sessions _⟩
  · refine ⟨Option.isSome_map, fun t t' ht ht' => ?_⟩
    rw [after, ht] at ht'
    cases ht'
    exact ids_onDirectory cs t
  · by_cases hclears : cs.any Change.clears = true
    · exact Or.inr (by simp [after, hclears])
    · exact Or.inl (by simp [after, hclears])

theorem spared_leave (suite : Suite) (d : Device) {a : Attempt} (c : Circumstances)
    (hids : confirmed a.response.confirmation = .ok (aci, pni)) :
    Spared suite c.now a.enrolment (d.database.selfId (a.enrolment.ownEntry aci pni)) d.database
      (a.leave suite d c).database := by
  obtain ⟨done, hdone, d₁, events, hreached, hleave⟩ := exists_done_of_leave suite d c hids
  rw [hleave]
  dsimp only
  rw [hreached.database]
  have hplan : (d.under c).stored done ⊆ plan suite c.now aci pni a.enrolment
      (d.database.selfId (a.enrolment.ownEntry aci pni)) :=
    fun change hchange => hdone.subset (List.mem_of_mem_filter hchange)
  exact spared_after hplan

end

/--
An attempt does nothing to a database if the identifiers in the server's answer cannot be read. If
they can, then wherever it stops, it leaves alone what is not its own: the counters and the
registration ids, the keys outside its bundles, the identities of others, what the sessions hold,
and every row there is but sender keys and a push token that is given up. No role gets anything of
the other's bundle.
-/
theorem leave_spares (suite : Suite) (d : Device) (a : Attempt) (c : Circumstances) :
    match confirmed a.response.confirmation with
    | .error _ => (a.leave suite d c).database = d.database
    | .ok (aci, pni) =>
      Spared suite c.now a.enrolment (d.database.selfId (a.enrolment.ownEntry aci pni)) d.database
        (a.leave suite d c).database := by
  cases hids : confirmed a.response.confirmation with
  | error f =>
    rw [leave_of_confirmed_error hids]
    rfl
  | ok ids => exact spared_leave suite d c hids

end Registrar
