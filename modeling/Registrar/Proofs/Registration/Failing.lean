import Registrar.Proofs.Prekey.Counting
import Registrar.Proofs.Registration.Outages
import Registrar.Proofs.Registration.Storing

/-!
An attempt that fails leaves the marks of the account as they were, and tells nobody.
-/

namespace Registrar

open Database Registration

/-- The marks that a registration sets together at its end. -/
def marks : List Account.Entry := [.promptedPush, .unauthorized, .needsReregistration, .registered]

/-- One of the identifiers in the server's answer cannot be read. -/
def Confirmation.Unreadable (c : Confirmation) : Prop :=
  (∃ e, ServiceId.read .primary c.uuid = .error e) ∨
    ∃ e, ServiceId.read .secondary c.pni = .error e

theorem confirmed_cases (c : Confirmation) :
    (c.Unreadable ∧ ∃ detail, confirmed c = .error (.malformedResponse detail)) ∨
      ∃ aci pni, ServiceId.read .primary c.uuid = .ok aci ∧
        ServiceId.read .secondary c.pni = .ok pni ∧ confirmed c = .ok (aci, pni) := by
  unfold confirmed
  cases haci : ServiceId.read .primary c.uuid with
  | error e => exact Or.inl ⟨Or.inl ⟨e, haci⟩, _, rfl⟩
  | ok aci =>
    cases hpni : ServiceId.read .secondary c.pni with
    | error e => exact Or.inl ⟨Or.inr ⟨e, hpni⟩, _, rfl⟩
    | ok pni => exact Or.inr ⟨aci, pni, rfl, rfl, rfl⟩

theorem confirmed_eq_error {c : Confirmation} {f : Failure} (h : confirmed c = .error f) :
    c.Unreadable ∧ ∃ detail, f = .malformedResponse detail := by
  rcases confirmed_cases c with ⟨hunreadable, detail, herror⟩ | ⟨aci, pni, -, -, hok⟩
  · rw [herror] at h
    cases h
    exact ⟨hunreadable, detail, rfl⟩
  · rw [hok] at h
    cases h

theorem confirmed_eq_ok {c : Confirmation} {aci pni : ServiceId} (h : confirmed c = .ok (aci, pni)) :
    ServiceId.read .primary c.uuid = .ok aci ∧ ServiceId.read .secondary c.pni = .ok pni := by
  rcases confirmed_cases c with ⟨-, detail, herror⟩ | ⟨aci', pni', haci, hpni, hok⟩
  · rw [herror] at h
    cases h
  · rw [hok] at h
    cases h
    exact ⟨haci, hpni⟩

theorem not_unreadable {c : Confirmation} {aci pni : ServiceId} (h : confirmed c = .ok (aci, pni)) :
    ¬c.Unreadable := by
  obtain ⟨haci, hpni⟩ := confirmed_eq_ok h
  rintro (⟨e, he⟩ | ⟨e, he⟩)
  · rw [haci] at he
    cases he
  · rw [hpni] at he
    cases he

/-! ### Texts that are not written -/

theorem text_eq (entry : Account.Entry) (db : Database) :
    Account.text entry db = match db.keyValues with
      | none => .error (.storage (DatabaseError.noSuchTable TableName.keyValues.name).message)
      | some kv => .ok (kv.values.find? entry.key, db) := by
  rw [Account.text, Query.mapError, readText_eq]
  cases db.keyValues <;> rfl

theorem isMarked_eq (entry : Account.Entry) (db : Database) :
    (Account.isMarked entry db).map Prod.fst =
      ((Account.text entry db).map Prod.fst).map (· == some "1") := by
  rw [Account.isMarked, readBool, Query.mapError, Query.bind_apply, text_eq, readText_eq]
  cases db.keyValues <;> rfl

theorem text_after_of_not_mem {db : Database} {cs : List Change} {entry : Account.Entry}
    (h : entry.key ∉ (cs.flatMap Change.textRows).map Prod.fst) :
    (Account.text entry (db.after cs)).map Prod.fst = (Account.text entry db).map Prod.fst := by
  rw [text_eq, text_eq, after]
  cases hkv : db.keyValues with
  | none => rfl
  | some kv =>
    simp only [Option.map_some, Except.map]
    rw [Table.find?_writeAll_of_not_mem h]

/-- The keys that are written before the marks. -/
def preparingKeys : List String :=
  [(Account.Entry.serviceId .primary).key, (Account.Entry.serviceId .secondary).key,
    ledgerKey .primary (pointerName .activeSigned), ledgerKey .primary (pointerName .lastResort),
    ledgerKey .primary "signed_registered", ledgerKey .secondary (pointerName .activeSigned),
    ledgerKey .secondary (pointerName .lastResort), ledgerKey .secondary "signed_registered",
    Account.Entry.e164.key, Account.Entry.pushToken.key, Account.Entry.pushEnabled.key,
    Account.Entry.servicePassword.key]

theorem key_not_mem_preparingKeys : ∀ entry ∈ marks, entry.key ∉ preparingKeys := by
  decide

theorem mem_preparingKeys {suite : Suite} {now : Int64} {aci pni : ServiceId} {e : Enrolment}
    {self : Int} {c : Change} (hc : c ∈ preparing suite now aci pni e self)
    {w : String × Option String} (hw : w ∈ c.textRows) : w.1 ∈ preparingKeys := by
  have hmem : w ∈ (preparing suite now aci pni e self).flatMap Change.textRows :=
    List.mem_flatMap.2 ⟨c, hc, hw⟩
  rw [textRows_preparing] at hmem
  have hrole (role : Role) : (Account.Entry.serviceId role).key ∈ preparingKeys := by
    cases role <;> simp [preparingKeys]
  simp only [preparingTexts, List.mem_cons, List.not_mem_nil, or_false] at hmem
  rcases hmem with rfl | rfl | rfl | rfl | rfl | rfl | rfl | rfl | rfl | rfl | rfl | rfl
  · exact hrole aci.role
  · exact hrole pni.role
  all_goals simp [preparingKeys]

/-! ### Attempts that fail -/

theorem text_of_reached {suite : Suite} {now : Int64} {aci pni : ServiceId} {e : Enrolment}
    {self : Int} {done : List Change} {d d' : Device}
    (hdone : done <+: preparing suite now aci pni e self) (h : Reached done d d')
    {entry : Account.Entry} (hentry : entry ∈ marks) :
    (Account.text entry d'.database).map Prod.fst = (Account.text entry d.database).map Prod.fst := by
  rw [h.database]
  apply text_after_of_not_mem
  intro hmem
  obtain ⟨w, hw, hkey⟩ := List.mem_map.1 hmem
  obtain ⟨c, hc, hw⟩ := List.mem_flatMap.1 hw
  have hkeys := mem_preparingKeys (hdone.mem (List.mem_of_mem_filter hc)) hw
  exact key_not_mem_preparingKeys entry hentry (hkey ▸ hkeys)

/-- An attempt that fails leaves the marks as they were. -/
theorem text_of_run_failed {suite : Suite} {collaborators : Collaborators} {now : Int64}
    {a : Attempt} {d d' : Device} {f : Failure}
    (h : run suite collaborators now a d = .error (.failed f) d') {entry : Account.Entry}
    (hentry : entry ∈ marks) :
    (Account.text entry d'.database).map Prod.fst = (Account.text entry d.database).map Prod.fst := by
  rcases run_cases suite collaborators now a d with ⟨f', -, hrun⟩ | ⟨aci, pni, -, hrun⟩
  · rw [hrun] at h
    cases h
    rfl
  · rcases hrun with ⟨f', d₁, hstore, hrun⟩ | ⟨d₁, events, -, ⟨-, hrun⟩ | ⟨-, message, hrun⟩⟩
    · rw [hrun] at h
      cases h
      obtain ⟨⟨done, hdone, hreached⟩, -⟩ := exists_done_of_store_error hstore
      exact text_of_reached hdone hreached hentry
    · rw [hrun] at h
      cases h
    · rw [hrun] at h
      cases h

theorem ofKeyError_ne_malformedResponse (k : KeyError) (detail : String) :
    Failure.ofKeyError k ≠ .malformedResponse detail := by
  cases k <;> simp [Failure.ofKeyError]

theorem run_of_store_error {suite : Suite} {collaborators : Collaborators} {now : Int64}
    {a : Attempt} {d d' : Device} {aci pni : ServiceId} {f : Failure}
    (hids : confirmed a.response.confirmation = .ok (aci, pni))
    (hstore : store suite now aci pni a.enrolment d = .error f d') :
    run suite collaborators now a d = .error (.failed f) d' := by
  rw [run, hids]
  dsimp only
  rw [act_bind_eq, EStateM.adaptExcept, hstore]

/--
An attempt fails with the first outage that one of its calls meets, if it has not failed before.
-/
theorem run_of_firstOutage {suite : Suite} {collaborators : Collaborators} {now : Int64}
    {a : Attempt} {d : Device} {n : Nat} {cause : DatabaseError}
    (hreadable : ¬a.response.confirmation.Unreadable) (hlt : n < a.enrolment.calls d.memory.isNone)
    (hfirst : d.FirstOutage n cause) :
    (∃ d', run suite collaborators now a d = .error (.failed (.storage cause.message)) d') ∨
      ∃ f d', run suite collaborators now a d = .error (.failed f) d' ∧
        (∃ m ≤ n, d'.outages = d.outages.drop m) ∧
        run suite collaborators now a { d with outages := [] } =
          .error (.failed f) { d' with outages := [] } := by
  rcases confirmed_cases a.response.confirmation with
    ⟨hunreadable, -⟩ | ⟨aci, pni, -, -, hids⟩
  · exact absurd hunreadable hreadable
  · rcases (heeds_store rfl suite now aci pni a.enrolment).cases_of_firstOutage hlt hfirst with
      ⟨d', hstore⟩ | ⟨f, d', hstore, hleft, hquiet⟩
    · exact Or.inl ⟨d', run_of_store_error hids hstore⟩
    · exact Or.inr ⟨f, d', run_of_store_error hids hstore, hleft, run_of_store_error hids hquiet⟩

/-- What is the same about a device after an attempt on it has failed, and what the failure says. -/
structure Unfinished (a : Attempt) (d : Device) (f : Failure) (d' : Device) : Prop where
  marks : ∀ entry ∈ marks,
    (Account.text entry d'.database).map Prod.fst = (Account.text entry d.database).map Prod.fst ∧
      (Account.isMarked entry d'.database).map Prod.fst =
        (Account.isMarked entry d.database).map Prod.fst
  events : d'.events = d.events
  malformed : (∃ detail, f = .malformedResponse detail) ↔ a.response.confirmation.Unreadable
  unchanged : a.response.confirmation.Unreadable →
    d'.database = d.database ∧ d'.memory = d.memory ∧ d'.cachedSelf = d.cachedSelf
  retryable : ¬a.response.confirmation.Unreadable →
    (∃ detail, f = .storage detail ∧ f.isRetryable = true) ∨
      ∃ fault ∈ d.faults, f = .ofKeyError fault.error

theorem unfinished_of_run_failed {suite : Suite} {collaborators : Collaborators} {now : Int64}
    {a : Attempt} {d d' : Device} {f : Failure}
    (h : run suite collaborators now a d = .error (.failed f) d') : Unfinished a d f d' := by
  have hmarks (entry : Account.Entry) (hentry : entry ∈ marks) :
      (Account.text entry d'.database).map Prod.fst =
          (Account.text entry d.database).map Prod.fst ∧
        (Account.isMarked entry d'.database).map Prod.fst =
          (Account.isMarked entry d.database).map Prod.fst := by
    have htext := text_of_run_failed h hentry
    exact ⟨htext, by rw [isMarked_eq, isMarked_eq, htext]⟩
  rcases run_cases suite collaborators now a d with
    ⟨f', hconfirmed, hrun⟩ | ⟨aci, pni, hconfirmed, hrun⟩
  · rw [hrun] at h
    cases h
    obtain ⟨hunreadable, hmalformed⟩ := confirmed_eq_error hconfirmed
    exact ⟨hmarks, rfl, iff_of_true hmalformed hunreadable,
      fun _ => ⟨rfl, rfl, rfl⟩, fun hreadable => absurd hunreadable hreadable⟩
  · have hreadable := not_unreadable hconfirmed
    rcases hrun with ⟨f', d₁, hstore, hrun⟩ | ⟨d₁, events, -, ⟨-, hrun⟩ | ⟨-, message, hrun⟩⟩
    · rw [hrun] at h
      cases h
      obtain ⟨⟨_, -, hreached⟩, k, rfl, hexcused⟩ := exists_done_of_store_error hstore
      have hnot : ¬∃ detail, Failure.ofKeyError k = .malformedResponse detail := by
        rintro ⟨detail, hk⟩
        exact ofKeyError_ne_malformedResponse k detail hk
      refine ⟨hmarks, hreached.events, iff_of_false hnot hreadable,
        fun hunreadable => absurd hunreadable hreadable, fun _ => ?_⟩
      rcases hexcused with ⟨detail, rfl⟩ | ⟨fault, hfault, rfl⟩
      · exact Or.inl ⟨detail, rfl, rfl⟩
      · exact Or.inr ⟨fault, hfault, rfl⟩
    · rw [hrun] at h
      cases h
    · rw [hrun] at h
      cases h

/--
An attempt that fails leaves the marks as they were and tells nobody. It is turned down for the
server's answer just when one of the identifiers cannot be read, and then nothing has changed; any
other failure is one of the storage, after which the attempt may be made again, or what a fault of
the device gives. And it does fail when a call of the database does: whichever of its calls is the
first to meet an outage, it ends with what the database says, unless it has ended before that call
as it would have without any outage.
-/
theorem failing_leaves_unfinished (suite : Suite) (collaborators : Collaborators) (now : Int64)
    (a : Attempt) (d : Device) :
    (∀ f d', run suite collaborators now a d = .error (.failed f) d' → Unfinished a d f d') ∧
    ∀ n cause, ¬a.response.confirmation.Unreadable → n < a.enrolment.calls d.memory.isNone →
      d.FirstOutage n cause →
      (∃ d', run suite collaborators now a d = .error (.failed (.storage cause.message)) d' ∧
        (Failure.storage cause.message).isRetryable = true) ∨
      ∃ f d', run suite collaborators now a d = .error (.failed f) d' ∧
        (∃ m ≤ n, d'.outages = d.outages.drop m) ∧
        run suite collaborators now a { d with outages := [] } =
          .error (.failed f) { d' with outages := [] } := by
  refine ⟨fun f d' => unfinished_of_run_failed, fun n cause hreadable hlt hfirst => ?_⟩
  rcases run_of_firstOutage hreadable hlt hfirst with ⟨d', hrun⟩ | hbefore
  · exact Or.inl ⟨d', hrun, rfl⟩
  · exact Or.inr hbefore

namespace Sample

/-- What someone brings along. -/
def enrolment : Enrolment where
  e164 := "+15550100"
  password := "secret"
  profileKey := ⟨List.replicate 32 7, rfl⟩
  bundles := bundles
  pushToken := none
  recoveryPassword := none

def attempt : Attempt where
  enrolment := enrolment
  response :=
    { confirmation :=
        { uuid := "11111111-1111-4111-8111-111111111111"
          pni := "22222222-2222-4222-8222-222222222222"
          storageCapable := false }
      pin := none
      recoveryCredential := none }
  enableLock := false

/-- The same person registers again, with other identifiers and another number. -/
def other : Attempt where
  enrolment := { enrolment with e164 := "+15550199" }
  response :=
    { confirmation :=
        { uuid := "33333333-3333-4333-8333-333333333333"
          pni := "44444444-4444-4444-8444-444444444444"
          storageCapable := false }
      pin := none
      recoveryCredential := none }
  enableLock := false

def accepting : Collaborators := fun _ => .accepts

end Sample

theorem failing_leaves_unfinished_diskFull :
    ∃ d', run Suite.standard Sample.accepting 0 Sample.attempt
        { Device.fresh Sample.entropy with outages := [none, some .diskFull] } =
          .error (.failed (.storage "disk full")) d' ∧
      (∀ entry ∈ marks, (Account.isMarked entry d'.database).map Prod.fst = .ok false) ∧
      d'.events = [] := by
  obtain ⟨hfailed, houtage⟩ := failing_leaves_unfinished Suite.standard Sample.accepting 0
    Sample.attempt { Device.fresh Sample.entropy with outages := [none, some .diskFull] }
  have hreadable : ¬Sample.attempt.response.confirmation.Unreadable := by
    have hids : (confirmed Sample.attempt.response.confirmation).toOption.isSome = true := by
      decide +kernel
    rcases confirmed_cases Sample.attempt.response.confirmation with
      ⟨-, detail, herror⟩ | ⟨aci, pni, -, -, hok⟩
    · rw [herror] at hids
      cases hids
    · exact not_unreadable hok
  have hcalls : 1 < Sample.attempt.enrolment.calls true := by
    rw [Enrolment.calls]
    omega
  have hquiet : (answerOf? (run Suite.standard Sample.accepting 0 Sample.attempt
      (Device.fresh Sample.entropy))).isSome = true := by
    decide +kernel
  rcases houtage 1 .diskFull hreadable hcalls ⟨by simp, rfl⟩ with
    ⟨d', hrun, -⟩ | ⟨f, d', -, -, hbefore⟩
  · have hunfinished := hfailed _ d' hrun
    refine ⟨d', hrun, fun entry hentry => ?_, hunfinished.events⟩
    rw [(hunfinished.marks entry hentry).2]
    revert entry
    decide +kernel
  · change run Suite.standard Sample.accepting 0 Sample.attempt (Device.fresh Sample.entropy) = _
      at hbefore
    rw [hbefore] at hquiet
    cases hquiet

end Registrar
