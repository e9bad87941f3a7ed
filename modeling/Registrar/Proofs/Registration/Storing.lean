import Registrar.Proofs.Registration.ClaimCalls
import Registrar.Proofs.Registration.KeyCalls

/-!
The changes that a registration makes, as a plan that is known before it starts.

Storing goes through the plan from its start. When it fails, it has not come to the last change,
which marks the account as a registered one.
-/

namespace Registrar

open Database Registration

/-- The changes that store one role's bundle. -/
def bundleChanges (role : Role) (b : Bundle) : List Change :=
  .ownIdentity role b.identity :: .signed role b.signed ::
    .ledger role (pointerName .activeSigned) (Text.numeral b.signedId) ::
    (b.oneTime.map (.oneTime role) ++
      .kyber role b.lastResort true ::
      .ledger role (pointerName .lastResort) (Text.numeral b.lastResortId) ::
      (b.kyber.map (.kyber role · false) ++
        [.ledger role "signed_registered" (boolText true)]))

/-- The changes that keep what the app needs to log in. -/
def accountChanges (e : Enrolment) : List Change :=
  [.texts [(Account.Entry.e164.key, some e.e164)],
    .texts [(Account.Entry.pushToken.key, e.pushToken)],
    .texts [(Account.Entry.pushEnabled.key, some (boolText e.wantsPush))],
    .texts [(Account.Entry.servicePassword.key, some e.password)]]

/-- The identity of a role, as it is saved for ourselves. -/
def selfRecord (suite : Suite) (now : Int64) (key : IdentityKey) : IdentityRecord where
  identityKey := suite.identityPublic key.secret
  verified := .verified
  firstUse := true
  timestamp := now
  nonblockingApproval := true

def selfChange (suite : Suite) (now : Int64) (self : Int) (e : Enrolment) (role : Role) : Change :=
  .identity role (toString self) (selfRecord suite now (e.bundles.get role).identity)

def serviceIdChange (id : ServiceId) : Change :=
  .texts [((Account.Entry.serviceId id.role).key, some id.toString)]

/-- What our entry in the directory is to say. -/
def Enrolment.ownEntry (e : Enrolment) (aci pni : ServiceId) : OwnEntry :=
  ⟨aci, pni, e.e164, e.profileKey⟩

/-- All changes but the last one, when our entry in the directory is the row `self`. -/
def preparing (suite : Suite) (now : Int64) (aci pni : ServiceId) (e : Enrolment) (self : Int) :
    List Change :=
  [serviceIdChange aci] ++ ([serviceIdChange pni] ++
    (([.archive .primary] ++ [.archive .secondary]) ++ ([.clearSenderKeys] ++
      ((bundleChanges .primary e.bundles.primary ++ bundleChanges .secondary e.bundles.secondary) ++
        (claimChanges (e.ownEntry aci pni) self ++ ([.forgetSelf] ++ (accountChanges e ++
          ([selfChange suite now self e .primary] ++
            [selfChange suite now self e .secondary]))))))))

/-- The changes of a whole registration. -/
def plan (suite : Suite) (now : Int64) (aci pni : ServiceId) (e : Enrolment) (self : Int) :
    List Change :=
  preparing suite now aci pni e self ++ [.texts commitTexts]

/-! ### What the parts of the plan write -/

section Rows

variable (role : Role) (b : Bundle) (o : OwnEntry) (self : Int) (e : Enrolment)

theorem flatMap_empty {α β : Type} (items : List α) : (items.flatMap fun _ => ([] : List β)) = [] :=
  List.flatMap_eq_nil_iff.2 fun _ _ => rfl

theorem textRows_bundleChanges : (bundleChanges role b).flatMap Change.textRows =
    [(ledgerKey role (pointerName .activeSigned), some (Text.numeral b.signedId)),
      (ledgerKey role (pointerName .lastResort), some (Text.numeral b.lastResortId)),
      (ledgerKey role "signed_registered", some (boolText true))] := by
  simp [bundleChanges, List.flatMap_map, flatMap_empty]

theorem ownRows_bundleChanges : (bundleChanges role b).flatMap Change.ownRows =
    [(role, some b.identity.secret)] := by
  simp [bundleChanges, List.flatMap_map, flatMap_empty]

theorem signedRows_bundleChanges : (bundleChanges role b).flatMap Change.signedRows =
    [((role, b.signed.id), some (Json.encode b.signed))] := by
  simp [bundleChanges, List.flatMap_map, flatMap_empty]

theorem oneTimeRows_bundleChanges : (bundleChanges role b).flatMap Change.oneTimeRows =
    b.oneTime.map fun key => ((role, key.id), some (Json.encode key)) := by
  simp [bundleChanges, List.flatMap_map, flatMap_empty, ← List.map_eq_flatMap]

theorem kyberRows_bundleChanges : (bundleChanges role b).flatMap Change.kyberRows =
    ((role, b.lastResort.id), some ⟨Json.encode b.lastResort, flag true⟩) ::
      b.kyber.map fun key => ((role, key.id), some ⟨Json.encode key, flag false⟩) := by
  simp [bundleChanges, List.flatMap_map, flatMap_empty, ← List.map_eq_flatMap]

theorem identityRows_bundleChanges : (bundleChanges role b).flatMap Change.identityRows = [] := by
  simp [bundleChanges, List.flatMap_map, flatMap_empty]

theorem archived_bundleChanges : (bundleChanges role b).flatMap Change.archived = [] := by
  simp [bundleChanges, List.flatMap_map, flatMap_empty]

theorem claimSteps_bundleChanges : (bundleChanges role b).flatMap Change.claimSteps = [] := by
  simp [bundleChanges, List.flatMap_map, flatMap_empty]

theorem for_bundleChanges : ∀ c ∈ bundleChanges role b, c.For o self := by
  simp [bundleChanges, or_imp, forall_and]

variable (suite : Suite) (now : Int64) (aci pni : ServiceId)

/-- The texts that are written before the marks of a registered account. -/
def preparingTexts (b b' : Bundle) : List (String × Option String) :=
  [((Account.Entry.serviceId aci.role).key, some aci.toString),
    ((Account.Entry.serviceId pni.role).key, some pni.toString),
    (ledgerKey .primary (pointerName .activeSigned), some (Text.numeral b.signedId)),
    (ledgerKey .primary (pointerName .lastResort), some (Text.numeral b.lastResortId)),
    (ledgerKey .primary "signed_registered", some (boolText true)),
    (ledgerKey .secondary (pointerName .activeSigned), some (Text.numeral b'.signedId)),
    (ledgerKey .secondary (pointerName .lastResort), some (Text.numeral b'.lastResortId)),
    (ledgerKey .secondary "signed_registered", some (boolText true)),
    (Account.Entry.e164.key, some e.e164),
    (Account.Entry.pushToken.key, e.pushToken),
    (Account.Entry.pushEnabled.key, some (boolText e.wantsPush)),
    (Account.Entry.servicePassword.key, some e.password)]

theorem textRows_preparing : (preparing suite now aci pni e self).flatMap Change.textRows =
    preparingTexts e aci pni e.bundles.primary e.bundles.secondary := by
  simp [preparing, preparingTexts, textRows_bundleChanges, claimChanges, ClaimStep.all,
    accountChanges, serviceIdChange, selfChange]

theorem textRows_plan : (plan suite now aci pni e self).flatMap Change.textRows =
    preparingTexts e aci pni e.bundles.primary e.bundles.secondary ++ commitTexts := by
  rw [plan, List.flatMap_append, textRows_preparing]
  simp

theorem ownRows_plan : (plan suite now aci pni e self).flatMap Change.ownRows =
    [(.primary, some e.bundles.primary.identity.secret),
      (.secondary, some e.bundles.secondary.identity.secret)] := by
  simp [plan, preparing, ownRows_bundleChanges, claimChanges, ClaimStep.all, accountChanges,
    serviceIdChange, selfChange]

theorem signedRows_plan : (plan suite now aci pni e self).flatMap Change.signedRows =
    [((.primary, e.bundles.primary.signed.id), some (Json.encode e.bundles.primary.signed)),
      ((.secondary, e.bundles.secondary.signed.id), some (Json.encode e.bundles.secondary.signed))] := by
  simp [plan, preparing, signedRows_bundleChanges, claimChanges, ClaimStep.all, accountChanges,
    serviceIdChange, selfChange]

theorem oneTimeRows_plan : (plan suite now aci pni e self).flatMap Change.oneTimeRows =
    (bundleChanges .primary e.bundles.primary).flatMap Change.oneTimeRows ++
      (bundleChanges .secondary e.bundles.secondary).flatMap Change.oneTimeRows := by
  simp [plan, preparing, claimChanges, ClaimStep.all, accountChanges, serviceIdChange, selfChange]

theorem kyberRows_plan : (plan suite now aci pni e self).flatMap Change.kyberRows =
    (bundleChanges .primary e.bundles.primary).flatMap Change.kyberRows ++
      (bundleChanges .secondary e.bundles.secondary).flatMap Change.kyberRows := by
  simp [plan, preparing, claimChanges, ClaimStep.all, accountChanges, serviceIdChange, selfChange]

theorem identityRows_plan : (plan suite now aci pni e self).flatMap Change.identityRows =
    [((.primary, toString self),
        some (IdentityRow.ofRecord (selfRecord suite now e.bundles.primary.identity))),
      ((.secondary, toString self),
        some (IdentityRow.ofRecord (selfRecord suite now e.bundles.secondary.identity)))] := by
  simp [plan, preparing, identityRows_bundleChanges, claimChanges, ClaimStep.all, accountChanges,
    serviceIdChange, selfChange, PerRole.get]

theorem archived_plan : (plan suite now aci pni e self).flatMap Change.archived =
    [.primary, .secondary] := by
  simp [plan, preparing, archived_bundleChanges, claimChanges, ClaimStep.all, accountChanges,
    serviceIdChange, selfChange]

theorem clears_plan : (plan suite now aci pni e self).any Change.clears = true := by
  simp [plan, preparing]

theorem forgets_plan : (plan suite now aci pni e self).any Change.forgets = true := by
  simp [plan, preparing]

theorem claimSteps_plan :
    (plan suite now aci pni e self).flatMap Change.claimSteps = ClaimStep.all := by
  simp [plan, preparing, claimSteps_bundleChanges, claimChanges, ClaimStep.all, accountChanges,
    serviceIdChange, selfChange]

theorem for_plan : ∀ c ∈ plan suite now aci pni e self, c.For (e.ownEntry aci pni) self := by
  have hclaim : ∀ c ∈ claimChanges (e.ownEntry aci pni) self, c.For (e.ownEntry aci pni) self := by
    intro c hc
    obtain ⟨step, -, rfl⟩ := List.mem_map.1 hc
    exact ⟨rfl, rfl⟩
  have haccount : ∀ c ∈ accountChanges e, c.For (e.ownEntry aci pni) self := by
    simp [accountChanges]
  simp only [plan, preparing, List.forall_mem_append, List.forall_mem_singleton]
  exact ⟨⟨trivial, trivial, ⟨trivial, trivial⟩, trivial,
    ⟨for_bundleChanges _ _ _ _, for_bundleChanges _ _ _ _⟩, hclaim, trivial, haccount, trivial,
    trivial⟩, trivial⟩

end Rows

/-! ### Storing goes through the plan -/

theorem follows_storeBundle (role : Role) (b : Bundle) (d : Device) :
    Follows id (bundleChanges role b) d (storeBundle role b) fun _ => True := by
  refine (follows_setOwnIdentity role b.identity d).bind fun _ d₁ _ _ _ => ?_
  refine (follows_storeSigned role b.signed d₁).bind fun _ d₂ _ _ _ => ?_
  refine (follows_setPointer role .activeSigned b.signedId d₂).bind fun _ d₃ _ _ _ => ?_
  refine (Follows.forM fun key d => follows_storeOneTime role key d).bind fun _ d₄ _ _ _ => ?_
  refine (follows_storeKyber role b.lastResort true d₄).bind fun _ d₅ _ _ _ => ?_
  refine (follows_setPointer role .lastResort b.lastResortId d₅).bind fun _ d₆ _ _ _ => ?_
  refine (Follows.forM fun key d => follows_storeKyber role key false d).bind fun _ d₇ _ _ _ => ?_
  exact follows_setRegistered role true d₇

theorem follows_storeAccount (e : Enrolment) (d : Device) :
    Follows Failure.ofKeyError (accountChanges e) d (storeAccount e) fun _ => True := by
  refine (follows_setText .e164 (some e.e164) d).bind fun _ d₁ _ _ _ => ?_
  refine (follows_setText .pushToken e.pushToken d₁).bind fun _ d₂ _ _ _ => ?_
  refine (follows_setMarked .pushEnabled e.wantsPush d₂).bind fun _ d₃ _ _ _ => ?_
  exact follows_setText .servicePassword (some e.password) d₃

theorem follows_saveSelf (suite : Suite) (self : Int) (now : Int64) (role : Role) {d : Device}
    {key : IdentityKey} (hown : d.memory = none →
      ∃ t, d.database.ownIdentities = some t ∧ t.find? role = some key.secret) :
    Follows id [.identity role (toString self) (selfRecord suite now key)] d
      (saveSelf suite self now role) fun _ => True := by
  refine (follows_ownIdentity role key hown).bind fun own d' hkey hreached _ => ?_
  apply follows_saveIdentity
  intro hmemory
  have hmemory : d.memory = none := by simpa [hmemory] using hreached.memory.symm
  rw [hkey hmemory]
  rfl

/-- Everything that is stored before the account is marked as registered. -/
def prepare (suite : Suite) (now : Int64) (aci pni : ServiceId) (e : Enrolment) :
    Act Failure Unit := do
  Device.ask (Account.setServiceId aci)
  Device.ask (Account.setServiceId pni)
  Role.all.forM fun role => Device.registering (Device.keys role .archiveSessions)
  Device.registering (Device.senderKeys .clear)
  Role.all.forM fun role => Device.registering (storeBundle role (e.bundles.get role))
  let self ← claimSelf aci pni e.e164 e.profileKey
  Device.clearSelf
  storeAccount e
  Role.all.forM fun role => Device.registering (saveSelf suite self now role)

theorem store_eq (suite : Suite) (now : Int64) (aci pni : ServiceId) (e : Enrolment) :
    store suite now aci pni e =
      prepare suite now aci pni e >>= fun _ => Device.ask Account.commitRegistered := by
  simp only [store, prepare, bind_assoc]

/-! ### The parts of the work -/

/-- The identifiers are stored, and the sessions of some roles end. -/
def archiving (aci pni : ServiceId) (roles : List Role) : Act Failure Unit := do
  Device.ask (Account.setServiceId aci)
  Device.ask (Account.setServiceId pni)
  roles.forM fun role => Device.registering (Device.keys role .archiveSessions)

/-- What is stored for the keys. -/
def keying (e : Enrolment) : Act Failure Unit := do
  Device.registering (Device.senderKeys .clear)
  Role.all.forM fun role => Device.registering (storeBundle role (e.bundles.get role))

/-- What is stored once the row `self` is our entry in the directory. -/
def settling (suite : Suite) (now : Int64) (e : Enrolment) (self : Int) : Act Failure Unit := do
  storeAccount e
  Role.all.forM fun role => Device.registering (saveSelf suite self now role)

/-- What is stored when the sessions have ended. -/
def renewing (suite : Suite) (now : Int64) (aci pni : ServiceId) (e : Enrolment) :
    Act Failure Unit := do
  keying e
  let self ← claimSelf aci pni e.e164 e.profileKey
  Device.clearSelf
  settling suite now e self

theorem prepare_eq (suite : Suite) (now : Int64) (aci pni : ServiceId) (e : Enrolment) :
    prepare suite now aci pni e =
      archiving aci pni Role.all >>= fun _ => renewing suite now aci pni e := by
  simp only [prepare, archiving, keying, settling, renewing, bind_assoc]

def archivingChanges (aci pni : ServiceId) (roles : List Role) : List Change :=
  [serviceIdChange aci] ++ ([serviceIdChange pni] ++ roles.map .archive)

def keyingChanges (e : Enrolment) : List Change :=
  [.clearSenderKeys] ++
    (bundleChanges .primary e.bundles.primary ++ bundleChanges .secondary e.bundles.secondary)

def settlingChanges (suite : Suite) (now : Int64) (e : Enrolment) (self : Int) : List Change :=
  accountChanges e ++
    ([selfChange suite now self e .primary] ++ [selfChange suite now self e .secondary])

def renewingChanges (suite : Suite) (now : Int64) (aci pni : ServiceId) (e : Enrolment)
    (self : Int) : List Change :=
  keyingChanges e ++ (claimChanges (e.ownEntry aci pni) self ++
    ([.forgetSelf] ++ settlingChanges suite now e self))

theorem preparing_eq (suite : Suite) (now : Int64) (aci pni : ServiceId) (e : Enrolment)
    (self : Int) :
    preparing suite now aci pni e self =
      archivingChanges aci pni Role.all ++ renewingChanges suite now aci pni e self := by
  simp [preparing, archivingChanges, renewingChanges, keyingChanges, settlingChanges, Role.all]

theorem follows_archiving (aci pni : ServiceId) (roles : List Role) (d : Device) :
    Follows Failure.ofKeyError (archivingChanges aci pni roles) d (archiving aci pni roles)
      fun _ => True := by
  refine (follows_setServiceId aci d).bind fun _ d₁ _ _ _ => ?_
  refine (follows_setServiceId pni d₁).bind fun _ d₂ _ _ _ => ?_
  exact Follows.forM fun role d => (follows_archiveSessions role d).registering

theorem follows_keying (e : Enrolment) (d : Device) :
    Follows Failure.ofKeyError (keyingChanges e) d (keying e) fun _ => True := by
  refine (follows_clearSenderKeys d).registering.bind fun _ d₁ _ _ _ => ?_
  refine Follows.both ?_ fun d₂ _ => ?_
  · exact (follows_storeBundle .primary e.bundles.primary d₁).registering
  · exact (follows_storeBundle .secondary e.bundles.secondary d₂).registering

/-- Some changes are the ones that store the identities of both roles. -/
def Holds (cs : List Change) (e : Enrolment) : Prop :=
  cs.flatMap Change.ownRows = [(.primary, some e.bundles.primary.identity.secret),
    (.secondary, some e.bundles.secondary.identity.secret)]

theorem holds_keyingChanges (e : Enrolment) : Holds (keyingChanges e) e := by
  simp [Holds, keyingChanges, ownRows_bundleChanges]

theorem claimSteps_keyingChanges (e : Enrolment) :
    (keyingChanges e).flatMap Change.claimSteps = [] := by
  simp [keyingChanges, claimSteps_bundleChanges]

/-- The identities that were stored with the bundles are there when they are saved for ourselves. -/
theorem Holds.exists_own {d d' d'' : Device} {e : Enrolment} {cs cs' : List Change}
    (hholds : Holds cs e) (hreached : Reached cs d d') (hallows : Allows d cs)
    (hreached' : Reached cs' d' d'') (hcs' : cs'.flatMap Change.ownRows = []) (role : Role)
    (hmemory : d''.memory = none) :
    ∃ t, d''.database.ownIdentities = some t ∧
      t.find? role = some (e.bundles.get role).identity.secret := by
  have hmemory' : d'.memory = none := by simpa [hmemory] using hreached'.memory.symm
  have hmemory₀ : d.memory = none := by simpa [hmemory'] using hreached.memory.symm
  rw [hreached'.database, hreached.database, stored_of_memory_eq_none hmemory₀,
    stored_of_memory_eq_none hmemory']
  rw [Allows, stored_of_memory_eq_none hmemory₀] at hallows
  have hsome : d.database.ownIdentities.isSome := by
    have hmem : (Role.primary, some e.bundles.primary.identity.secret) ∈
        cs.flatMap Change.ownRows := by
      rw [hholds]
      exact List.mem_cons_self
    obtain ⟨c, hc, hrow⟩ := List.mem_flatMap.1 hmem
    cases c with
    | ownIdentity role key => exact hallows _ hc
    | _ => cases hrow
  obtain ⟨t, ht⟩ := Option.isSome_iff_exists.1 hsome
  refine ⟨t.writeAll [(.primary, some e.bundles.primary.identity.secret),
    (.secondary, some e.bundles.secondary.identity.secret)], ?_, ?_⟩
  · rw [Holds] at hholds
    simp [after, ht, hcs', hholds]
  · cases role with
    | primary => simp [Table.find?_writeAll, Table.lastWrite, PerRole.get]
    | secondary => simp [Table.find?_writeAll, Table.lastWrite, PerRole.get]

theorem follows_settling (suite : Suite) (now : Int64) {e : Enrolment} (self : Int)
    {d d' d'' : Device} {cs cs' : List Change} (hholds : Holds cs e) (hreached : Reached cs d d')
    (hallows : Allows d cs) (hreached' : Reached cs' d' d'')
    (hcs' : cs'.flatMap Change.ownRows = []) :
    Follows Failure.ofKeyError (settlingChanges suite now e self) d''
      (settling suite now e self) fun _ => True := by
  refine (follows_storeAccount e d'').bind fun _ d₁ _ h₁ _ => ?_
  have hrows : (cs' ++ accountChanges e).flatMap Change.ownRows = [] := by
    simp [hcs', accountChanges]
  refine Follows.both ?_ fun d₂ h₂ => ?_
  · have hown := hholds.exists_own hreached hallows (hreached'.trans h₁) hrows .primary
    exact (follows_saveSelf suite self now .primary hown).registering
  · have hown := hholds.exists_own hreached hallows ((hreached'.trans h₁).trans h₂)
      (by rw [List.flatMap_append, hrows]; rfl) .secondary
    exact (follows_saveSelf suite self now .secondary hown).registering

theorem follows_renewing (suite : Suite) (now : Int64) (aci pni : ServiceId) (e : Enrolment)
    (d : Device) :
    Follows Failure.ofKeyError
      (renewingChanges suite now aci pni e (d.database.selfId (e.ownEntry aci pni))) d
      (renewing suite now aci pni e) fun _ => True := by
  refine (follows_keying e d).bind fun _ d₁ _ h₁ hallows => ?_
  rw [← selfId_eq_of_reached h₁ (claimSteps_keyingChanges e)]
  refine (follows_claimSelf (e.ownEntry aci pni) d₁).bind fun self d₂ hself h₂ _ => ?_
  obtain rfl := hself
  refine (follows_clearSelf d₂).bind fun _ d₃ _ h₃ _ => ?_
  exact follows_settling suite now _ (holds_keyingChanges e) h₁ hallows (h₂.trans h₃) rfl

theorem follows_prepare (suite : Suite) (now : Int64) (aci pni : ServiceId) (e : Enrolment)
    (d : Device) :
    Follows Failure.ofKeyError (preparing suite now aci pni e (d.database.selfId (e.ownEntry aci pni)))
      d (prepare suite now aci pni e) fun _ => True := by
  rw [preparing_eq, prepare_eq]
  refine (follows_archiving aci pni Role.all d).bind fun _ d₁ _ h₁ _ => ?_
  rw [← selfId_eq_of_reached h₁ rfl]
  exact follows_renewing suite now aci pni e d₁

theorem follows_store (suite : Suite) (now : Int64) (aci pni : ServiceId) (e : Enrolment)
    (d : Device) :
    Follows Failure.ofKeyError (plan suite now aci pni e (d.database.selfId (e.ownEntry aci pni))) d
      (store suite now aci pni e) fun _ => True := by
  rw [store_eq]
  exact (follows_prepare suite now aci pni e d).bind fun _ d' _ _ _ => follows_commitRegistered d'

/-- When storing fails, the account has not been marked as registered. -/
theorem exists_done_of_store_error {suite : Suite} {now : Int64} {aci pni : ServiceId}
    {e : Enrolment} {d d' : Device} {f : Failure} (h : store suite now aci pni e d = .error f d') :
    (∃ done, done <+: preparing suite now aci pni e (d.database.selfId (e.ownEntry aci pni)) ∧
      Reached done d d') ∧ ∃ k, f = Failure.ofKeyError k ∧ Excused d k := by
  have hprepare := follows_prepare suite now aci pni e d
  have hexcused := ((follows_store suite now aci pni e d).error f d' h).2
  refine ⟨?_, hexcused⟩
  rw [store_eq, act_bind_eq] at h
  cases hd : prepare suite now aci pni e d with
  | error f' d₁ =>
    rw [hd] at h
    cases h
    exact (hprepare.error _ _ hd).1
  | ok u d₁ =>
    rw [hd] at h
    have hreached := (hprepare.ok u d₁ hd).1.trans (reached_of_query_error h)
    rw [List.append_nil] at hreached
    exact ⟨_, List.prefix_refl _, hreached⟩

/-! ### An attempt -/

/-- No collaborator brings an attempt down. -/
def Hears (collaborators : Collaborators) (notices : List Notice) : Prop :=
  ∀ notice ∈ notices, ∀ message, collaborators notice ≠ .panics message

/-- The device once its collaborators have taken note of some notices. -/
def Device.noted (d : Device) (notices : List Notice) : Device :=
  { d with events := d.events ++ notices.map fun notice => ⟨notice, d.database⟩ }

theorem noted_cons (d : Device) (notice : Notice) (notices : List Notice) :
    (d.noted [notice]).noted notices = d.noted (notice :: notices) := by
  simp [Device.noted]

/-- The collaborators take note in order, of everything or of what comes before the first panic. -/
theorem forM_tell_cases (collaborators : Collaborators) (notices : List Notice) (d : Device) :
    (Hears collaborators notices ∧
      notices.forM (Registration.tell collaborators) d = .ok () (d.noted notices)) ∨
    ∃ before notice after message, notices = before ++ notice :: after ∧
      Hears collaborators before ∧ collaborators notice = .panics message ∧
      notices.forM (Registration.tell collaborators) d =
        .error (.panicked message) (d.noted before) := by
  induction notices generalizing d with
  | nil =>
    refine Or.inl ⟨(fun _ h => by cases h), ?_⟩
    rw [Device.noted, List.map_nil, List.append_nil]
    rfl
  | cons notice notices ih =>
    have hcons : (notice :: notices).forM (Registration.tell collaborators) d =
        (Registration.tell collaborators notice >>= fun _ =>
          notices.forM (Registration.tell collaborators)) d := rfl
    rw [hcons, act_bind_eq, Registration.tell]
    cases hnotice : collaborators notice with
    | panics message =>
      refine Or.inr ⟨[], notice, notices, message, rfl, (fun _ h => by cases h), hnotice, ?_⟩
      rw [Device.noted, List.map_nil, List.append_nil]
    | _ =>
      have hhears (told : List Notice) :
          Hears collaborators (notice :: told) ↔ Hears collaborators told := by
        simp [Hears, hnotice]
      rcases ih (d.noted [notice]) with ⟨hears, htell⟩ |
        ⟨before, bad, after, message, rfl, hbefore, hbad, htell⟩
      · rw [noted_cons] at htell
        exact Or.inl ⟨(hhears _).2 hears, htell⟩
      · rw [noted_cons] at htell
        exact Or.inr ⟨notice :: before, bad, after, message, rfl, (hhears _).2 hbefore, hbad, htell⟩

theorem not_hears {collaborators : Collaborators} {before after : List Notice} {notice : Notice}
    {message : String} (h : collaborators notice = .panics message) :
    ¬Hears collaborators (before ++ notice :: after) :=
  fun hears => hears notice (List.mem_append_right _ List.mem_cons_self) message h

/-- How an attempt can end. -/
theorem run_cases (suite : Suite) (collaborators : Collaborators) (now : Int64) (a : Attempt)
    (d : Device) :
    (∃ f, confirmed a.response.confirmation = .error f ∧
      run suite collaborators now a d = .error (.failed f) d) ∨
    ∃ aci pni, confirmed a.response.confirmation = .ok (aci, pni) ∧
      ((∃ f d', store suite now aci pni a.enrolment d = .error f d' ∧
        run suite collaborators now a d = .error (.failed f) d') ∨
      ∃ d' events, store suite now aci pni a.enrolment d = .ok () d' ∧
        (Hears collaborators a.notices ∧ run suite collaborators now a d =
            .ok a.response { d' with events := d'.events ++ events } ∨
          ¬Hears collaborators a.notices ∧ ∃ message, run suite collaborators now a d =
            .error (.panicked message) { d' with events := d'.events ++ events })) := by
  cases hconfirmed : confirmed a.response.confirmation with
  | error f =>
    refine Or.inl ⟨f, rfl, ?_⟩
    rw [run, hconfirmed]
    rfl
  | ok ids =>
    obtain ⟨aci, pni⟩ := ids
    refine Or.inr ⟨aci, pni, rfl, ?_⟩
    have hrun : run suite collaborators now a d =
        ((store suite now aci pni a.enrolment).adaptExcept Stop.failed >>= fun _ =>
          a.notices.forM (Registration.tell collaborators) >>= fun _ => pure a.response) d := by
      rw [run, hconfirmed]
    rw [hrun, act_bind_eq, EStateM.adaptExcept]
    cases hstore : store suite now aci pni a.enrolment d with
    | error f d' => exact Or.inl ⟨f, d', rfl, rfl⟩
    | ok u d' =>
      dsimp only
      rw [act_bind_eq]
      rcases forM_tell_cases collaborators a.notices d' with
        ⟨hears, htell⟩ | ⟨before, notice, after, message, hnotices, -, hpanics, htell⟩
      · exact Or.inr ⟨d', _, rfl, Or.inl ⟨hears, by rw [htell]; rfl⟩⟩
      · have hnot : ¬Hears collaborators a.notices := by
          rw [hnotices]
          exact not_hears hpanics
        refine Or.inr ⟨d', before.map fun notice => ⟨notice, d'.database⟩, rfl,
          Or.inr ⟨hnot, message, ?_⟩⟩
        rw [htell]
        rfl

theorem exists_store_of_run_ok {suite : Suite} {collaborators : Collaborators} {now : Int64}
    {a : Attempt} {d d' : Device} {response : Response}
    (h : run suite collaborators now a d = .ok response d') :
    ∃ aci pni d₁ events, confirmed a.response.confirmation = .ok (aci, pni) ∧
      store suite now aci pni a.enrolment d = .ok () d₁ ∧ response = a.response ∧
      Hears collaborators a.notices ∧ d' = { d₁ with events := d₁.events ++ events } := by
  rcases run_cases suite collaborators now a d with ⟨f, -, hrun⟩ | ⟨aci, pni, hids, hrun⟩
  · rw [hrun] at h
    cases h
  · rcases hrun with ⟨f, d₁, -, hrun⟩ | ⟨d₁, events, hstore, ⟨hears, hrun⟩ | ⟨-, message, hrun⟩⟩
    · rw [hrun] at h
      cases h
    · rw [hrun] at h
      cases h
      exact ⟨aci, pni, d₁, events, hids, hstore, rfl, hears, rfl⟩
    · rw [hrun] at h
      cases h

end Registrar
