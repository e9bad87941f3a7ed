import Registrar.Proofs.Prekey.Slots
import Registrar.Proofs.Registration.Complete

/-!
What an account is known by.

Its identifiers and its number with the entry of the directory that they lead to, and of each role
the identity key and the two keys that its ledger points to: these are the core of an account. An
attempt whose inputs have the same core leaves it standing wherever it stops, whatever else it
brings along.
-/

namespace Registrar

open Database Registration

/-- Two bundles have the same identity key, the same signed prekey and the same last resort. -/
structure Bundle.SameCore (b b' : Bundle) : Prop where
  identity : b'.identity = b.identity
  signedId : b'.signedId = b.signedId
  signed : b'.signed = b.signed
  lastResortId : b'.lastResortId = b.lastResortId
  lastResort : b'.lastResort = b.lastResort

/-- Two attempts are for the same identifiers and the same number, with bundles of the same core. -/
structure Attempt.SameCore (a a' : Attempt) : Prop where
  ids : confirmed a'.response.confirmation = confirmed a.response.confirmation
  e164 : a'.enrolment.e164 = a.enrolment.e164
  bundle : ∀ role, (a.enrolment.bundles.get role).SameCore (a'.enrolment.bundles.get role)

/--
One database says the same as another of the core of an account: the same texts and keys, the same
records where the pointers lead to, and no difference in the directory and the saved identities.
-/
structure Database.SameCore (db db' : Database) : Prop where
  serviceId : ∀ role, db'.text? (Account.Entry.serviceId role).key =
    db.text? (Account.Entry.serviceId role).key
  e164 : db'.text? Account.Entry.e164.key = db.text? Account.Entry.e164.key
  own : ∀ role, rowOf db'.ownIdentities role = rowOf db.ownIdentities role
  pointer : ∀ role p, db'.slot? role (.pointer p) = db.slot? role (.pointer p)
  signed : ∀ role n, db.slot? role (.pointer .activeSigned) = some (Text.numeral n) →
    rowOf db'.signed (role, n) = rowOf db.signed (role, n)
  lastResort : ∀ role n, db.slot? role (.pointer .lastResort) = some (Text.numeral n) →
    rowOf db'.kyber (role, n) = rowOf db.kyber (role, n)
  identities : db'.identities = db.identities
  recipients : db'.recipients = db.recipients

/-- A role has the core of a bundle, and its ledger points to the keys of that. -/
structure Bundle.CoreStoredFor (role : Role) (b : Bundle) (db : Database) : Prop where
  own : db.Answers (answerKeys role .ownIdentity) b.identity
  activeSigned : db.Answers (answerLedger role (.pointer .activeSigned)) (some b.signedId)
  signed : db.Answers (answerKeys role (.signed b.signedId)) (some b.signed)
  lastResortId : db.Answers (answerLedger role (.pointer .lastResort)) (some b.lastResortId)
  lastResort : db.Answers (answerKeys role (.kyber b.lastResortId)) (some b.lastResort)
  isLastResort : db.Answers (answerKeys role (.isLastResort b.lastResortId)) true

/-- The core of an account is there, and all of it comes from one enrolment. -/
structure SuppliesCore (suite : Suite) (aci pni : ServiceId) (e : Enrolment) (id : Int)
    (db : Database) : Prop where
  bundle : ∀ role, (e.bundles.get role).CoreStoredFor role db
  primaryId : db.Answers (Account.serviceId .primary) (some aci)
  secondaryId : db.Answers (Account.serviceId .secondary) (some pni)
  phone : db.Answers (Account.text .e164) (some e.e164)
  byAci : db.Answers (recipientOf aci) (some id)
  byPni : db.Answers (recipientOf pni) (some id)
  byPhone : db.Answers (findRecipient .e164 e.e164) (some id)
  entry : ∃ profileKey, db.Answers (recipient id) (some
    { id := id, aci := some aci, pni := some pni, e164 := some e.e164, registered := true
      profileSharing := true, profileKey := some profileKey })
  identity : ∀ role, ∃ time, db.Answers (answerKeys role (.identity (toString id)))
    (some { identityKey := suite.identityPublic (e.bundles.get role).identity.secret
            verified := .verified, firstUse := true, timestamp := time
            nonblockingApproval := true })

/-! ### The rows of the core -/

/-- The rows that a role needs for the core of a bundle. -/
structure Bundle.RootedFor (role : Role) (b : Bundle) (db : Database) : Prop where
  own : rowOf db.ownIdentities role = some b.identity.secret
  signedId : db.slot? role (.pointer .activeSigned) = some (Text.numeral b.signedId)
  signed : rowOf db.signed (role, b.signedId) = some (Json.encode b.signed)
  lastResortId : db.slot? role (.pointer .lastResort) = some (Text.numeral b.lastResortId)
  lastResort : rowOf db.kyber (role, b.lastResortId) = some ⟨Json.encode b.lastResort, flag true⟩

/--
The rows of the core of an account are there. Nothing is said of times and of the profile key.
-/
structure Rooted (suite : Suite) (aci pni : ServiceId) (e : Enrolment) (id : Int)
    (db : Database) : Prop where
  primaryId : db.text? (Account.Entry.serviceId .primary).key = some aci.toString
  secondaryId : db.text? (Account.Entry.serviceId .secondary).key = some pni.toString
  e164 : db.text? Account.Entry.e164.key = some e.e164
  bundle : ∀ role, (e.bundles.get role).RootedFor role db
  identities : ∀ role, ∃ time, rowOf db.identities (role, toString id) =
    some (IdentityRow.ofRecord (selfRecord suite time (e.bundles.get role).identity))
  recipients : ∃ t profileKey, db.recipients = some t ∧
    t.Underway ⟨aci, pni, e.e164, profileKey⟩ id ∧ t.settle ⟨aci, pni, e.e164, profileKey⟩ id = t

section

variable {κ ν : Type} [DecidableEq κ] {t : Option (Table κ ν)} {k : κ} {v : ν}
  {ws full : List (κ × Option ν)}

theorem rowOf_eq_some_iff : rowOf t k = some v ↔ ∃ t', t = some t' ∧ t'.find? k = some v :=
  Option.bind_eq_some_iff

/-- A row stays if no other row is written under its key. -/
theorem rowOf_writeAll_of_mem (h : rowOf t k = some v) (hsub : ws ⊆ full)
    (hnodup : (full.map Prod.fst).Nodup) (hmem : (k, some v) ∈ full) :
    rowOf (t.map (·.writeAll ws)) k = some v := by
  rcases rowOf_writeAll_cases t ws k with hsame | hwritten
  · rw [hsame, h]
  · exact congrArg Prod.snd (List.inj_on_of_nodup_map hnodup (hsub hwritten) hmem rfl)

end

theorem text?_eq_rowOf (db : Database) (key : String) :
    db.text? key = rowOf (db.keyValues.map KeyValues.values) key := by
  rw [text?, rowOf]
  cases db.keyValues <;> rfl

/-- A text is the one it was, or one that was written. -/
theorem text?_after_cases (db : Database) (cs : List Change) (key : String) :
    (db.after cs).text? key = db.text? key ∨
      (key, (db.after cs).text? key) ∈ cs.flatMap Change.textRows := by
  rw [text?_eq_rowOf, text?_eq_rowOf, values_after]
  exact rowOf_writeAll_cases _ _ key

section

variable {suite : Suite} {now : Int64} {aci pni : ServiceId} {e e' : Enrolment} {id : Int}
  {db db' : Database}

theorem Bundle.RootedFor.of_sameCore {role : Role} {b : Bundle} (h : b.RootedFor role db)
    (hsame : db.SameCore db') : b.RootedFor role db' where
  own := (hsame.own role).trans h.own
  signedId := (hsame.pointer role .activeSigned).trans h.signedId
  signed := (hsame.signed role _ h.signedId).trans h.signed
  lastResortId := (hsame.pointer role .lastResort).trans h.lastResortId
  lastResort := (hsame.lastResort role _ h.lastResortId).trans h.lastResort

theorem Rooted.of_sameCore (h : Rooted suite aci pni e id db) (hsame : db.SameCore db') :
    Rooted suite aci pni e id db' where
  primaryId := (hsame.serviceId .primary).trans h.primaryId
  secondaryId := (hsame.serviceId .secondary).trans h.secondaryId
  e164 := hsame.e164.trans h.e164
  bundle role := (h.bundle role).of_sameCore hsame
  identities := hsame.identities ▸ h.identities
  recipients := hsame.recipients ▸ h.recipients

/--
A change that leaves the core alone: of the texts before the marks it writes those that are there
already, and it writes no rows of the core.
-/
def Change.SparesCore (db : Database) : Change → Prop
  | .texts ws => ∀ w ∈ ws, w.1 ∈ preparingKeys → db.text? w.1 = w.2
  | .ledger role name _ => ledgerKey role name ∉ preparingKeys
  | .oneTime _ _ => True
  | .archive _ => True
  | .clearSenderKeys => True
  | .forgetSelf => True
  | _ => False

theorem Change.IsCount.sparesCore {c : Change} (hc : c.IsCount) : c.SparesCore db := by
  obtain ⟨role, space, value, rfl⟩ := hc
  exact fun hmem => counterKey_not_mem role space (List.mem_append_left _ hmem)

theorem sparesCore_commitTexts : (Change.texts commitTexts).SparesCore db := by
  intro w hw hmem
  have hkey : w.1 ∈ commitTexts.map Prod.fst := List.mem_map_of_mem hw
  obtain ⟨entry, hentry, heq⟩ := List.mem_map.1 (show w.1 ∈ marks.map Account.Entry.key from hkey)
  rw [← heq] at hmem
  exact absurd hmem (key_not_mem_preparingKeys entry hentry)

theorem text?_after_of_sparesCore {cs : List Change} (hcs : ∀ c ∈ cs, c.SparesCore db)
    {key : String} (hkey : key ∈ preparingKeys) : (db.after cs).text? key = db.text? key := by
  rcases text?_after_cases db cs key with hsame | hwritten
  · exact hsame
  · obtain ⟨c, hc, hw⟩ := List.mem_flatMap.1 hwritten
    cases c with
    | texts ws => exact (hcs _ hc _ hw hkey).symm
    | ledger role name value =>
      obtain rfl := congrArg Prod.fst (List.mem_singleton.1 hw)
      exact absurd hkey (hcs _ hc)
    | _ => cases hw

theorem Change.SparesCore.rows_eq_nil {c : Change} (hc : c.SparesCore db) :
    c.ownRows = [] ∧ c.signedRows = [] ∧ c.kyberRows = [] ∧ c.identityRows = [] ∧
      ∀ t, c.onDirectory t = t := by
  cases c with
  | ownIdentity role key => exact hc.elim
  | signed role key => exact hc.elim
  | kyber role key lastResort => exact hc.elim
  | identity role address record => exact hc.elim
  | claim o self step => exact hc.elim
  | _ => exact ⟨rfl, rfl, rfl, rfl, fun _ => rfl⟩

theorem sameCore_after {cs : List Change} (hcs : ∀ c ∈ cs, c.SparesCore db) :
    db.SameCore (db.after cs) := by
  have htext {key : String} (hkey : key ∈ preparingKeys) := text?_after_of_sparesCore hcs hkey
  have hown : cs.flatMap Change.ownRows = [] :=
    List.flatMap_eq_nil_iff.2 fun c hc => (hcs c hc).rows_eq_nil.1
  have hsigned : cs.flatMap Change.signedRows = [] :=
    List.flatMap_eq_nil_iff.2 fun c hc => (hcs c hc).rows_eq_nil.2.1
  have hkyber : cs.flatMap Change.kyberRows = [] :=
    List.flatMap_eq_nil_iff.2 fun c hc => (hcs c hc).rows_eq_nil.2.2.1
  have hidentities : cs.flatMap Change.identityRows = [] :=
    List.flatMap_eq_nil_iff.2 fun c hc => (hcs c hc).rows_eq_nil.2.2.2.1
  have hdirectory : ∀ t, cs.foldl Change.onDirectory t = t :=
    foldl_onDirectory_eq_self fun c hc => (hcs c hc).rows_eq_nil.2.2.2.2
  refine ⟨fun role => htext ?_, htext ?_, ?_, fun role p => htext ?_, ?_, ?_, ?_, ?_⟩
  · cases role <;> simp [preparingKeys]
  · simp [preparingKeys]
  · simp [after, hown]
  · cases role <;> cases p <;> decide
  · simp [after, hsigned]
  · simp [after, hkyber]
  · simp [after, hidentities]
  · simp [after, hdirectory]

/-! ### After a whole attempt -/

/-- The core is there once everything is stored but the marks. -/
theorem rooted_after_preparing (hsound : db.Sound) (hself : db.selfId (e.ownEntry aci pni) = id)
    (haci : aci.role = .primary) (hpni : pni.role = .secondary)
    (hlaid : ∀ role, (e.bundles.get role).Laid)
    (hallowed : ∀ c ∈ preparing suite now aci pni e id, c.Allowed db) :
    Rooted suite aci pni e id (db.after (preparing suite now aci pni e id)) := by
  -- Every row is found, because the whole plan writes none twice.
  have hrow {κ ν : Type} [DecidableEq κ] {t : Option (Table κ ν)}
      {f : Change → List (κ × Option ν)}
      (hnodup : (((plan suite now aci pni e id).flatMap f).map Prod.fst).Nodup)
      (hf : ∀ c : Change, c.Allowed db → f c ≠ [] → t.isSome) {w : κ × Option ν} {c : Change}
      (hc : c ∈ preparing suite now aci pni e id) (hw : w ∈ f c) :
      rowOf (t.map (·.writeAll ((preparing suite now aci pni e id).flatMap f))) w.1 = w.2 := by
    have hnodup' : (((preparing suite now aci pni e id).flatMap f).map Prod.fst).Nodup := by
      rw [plan, List.flatMap_append, List.map_append] at hnodup
      exact hnodup.sublist (List.sublist_append_left _ _)
    obtain ⟨t', ht', hfind⟩ := shows_rows hallowed hf hnodup' w (List.mem_flatMap.2 ⟨c, hc, hw⟩)
    rw [ht']
    exact hfind
  have htext {w : String × Option String} {c : Change}
      (hc : c ∈ preparing suite now aci pni e id) (hw : w ∈ c.textRows) :
      (db.after (preparing suite now aci pni e id)).text? w.1 = w.2 := by
    rw [text?_eq_rowOf, values_after]
    exact hrow (nodup_textRows_plan haci hpni) (fun _ => Change.Allowed.isSome_keyValues) hc hw
  refine ⟨?_, ?_, ?_, fun role => ?_, fun role => ⟨now, ?_⟩, ?_⟩
  · rw [← haci]
    exact htext (c := serviceIdChange aci) (by simp [preparing]) List.mem_cons_self
  · rw [← hpni]
    exact htext (c := serviceIdChange pni) (by simp [preparing]) List.mem_cons_self
  · exact htext (c := .texts [(Account.Entry.e164.key, some e.e164)])
      (by simp [preparing, accountChanges]) List.mem_cons_self
  · obtain ⟨hown, hsigned, hsignedId, hlastResort, hlastResortId⟩ :=
      core_mem_bundleChanges role (e.bundles.get role)
    have hsignedRow := hrow nodup_signedRows_plan (fun _ => Change.Allowed.isSome_signed)
      (mem_preparing_of_bundle hsigned) List.mem_cons_self
    have hlastResortRow := hrow (nodup_kyberRows_plan hlaid)
      (fun _ => Change.Allowed.isSome_kyber) (mem_preparing_of_bundle hlastResort)
      List.mem_cons_self
    rw [(hlaid role).signed] at hsignedRow
    rw [(hlaid role).lastResort] at hlastResortRow
    exact
      { own := hrow nodup_ownRows_plan (fun _ => Change.Allowed.isSome_ownIdentities)
          (mem_preparing_of_bundle hown) List.mem_cons_self
        signedId := htext (mem_preparing_of_bundle hsignedId) List.mem_cons_self
        signed := hsignedRow
        lastResortId := htext (mem_preparing_of_bundle hlastResortId) List.mem_cons_self
        lastResort := hlastResortRow }
  · refine hrow nodup_identityRows_plan (fun _ => Change.Allowed.isSome_identities)
      (c := selfChange suite now id e role) ?_ List.mem_cons_self
    cases role <;> simp [preparing]
  · have hrecipients : db.recipients.isSome :=
      hallowed (.claim (e.ownEntry aci pni) id .arrive)
        (by simp [preparing, claimChanges, ClaimStep.all])
    obtain ⟨t, ht⟩ := Option.isSome_iff_exists.1 hrecipients
    obtain rfl := (Database.selfId_eq ht _).symm.trans hself
    have hvalid := hsound t ht
    refine ⟨_, e.profileKey, ?_, hvalid.underway_claimAll, hvalid.settle_claimAll⟩
    rw [after, ht, Option.map_some, claimAll_of_preparing]
    rfl

end

/-! ### An attempt with the same core -/

namespace RecipientRows

variable {o : OwnEntry} {self : Int} {t : RecipientRows}

/-- Until the profile key is set, it makes no difference to a claim. -/
theorem claim_withKey {step : ClaimStep} (hstep : step ≠ .setKey) (profileKey : ProfileKey) :
    t.claim { o with profileKey } self step = t.claim o self step := by
  cases step with
  | setKey => exact absurd rfl hstep
  | _ => rfl

theorem claimAll_withKey {steps : List ClaimStep} (hsteps : .setKey ∉ steps)
    (profileKey : ProfileKey) :
    t.claimAll { o with profileKey } self steps = t.claimAll o self steps := by
  induction steps generalizing t with
  | nil => rfl
  | cons step steps ih =>
    rw [List.mem_cons, not_or] at hsteps
    rw [claimAll, List.foldl_cons, claim_withKey (Ne.symm hsteps.1)]
    exact ih hsteps.2

theorem eq_all_of_setKey_mem {steps : List ClaimStep} (h : steps <+: ClaimStep.all)
    (hmem : .setKey ∈ steps) : steps = ClaimStep.all := by
  have hall : ClaimStep.all = [.arrive, .share, .register, .link] ++ [.setKey] := rfl
  rcases List.prefix_concat_iff.1 (hall ▸ h) with rfl | hbefore
  · exact hall.symm
  · exact absurd (hbefore.mem hmem) (by decide)

/-- A settled entry stays settled when it is claimed again, perhaps with another profile key. -/
theorem Underway.exists_settled (h : Underway o self t) (hsettled : t.settle o self = t)
    {steps : List ClaimStep} (hsteps : steps <+: ClaimStep.all) (profileKey : ProfileKey) :
    ∃ key, Underway { o with profileKey := key } self
        (t.claimAll { o with profileKey } self steps) ∧
      (t.claimAll { o with profileKey } self steps).settle { o with profileKey := key } self =
        t.claimAll { o with profileKey } self steps := by
  by_cases hmem : .setKey ∈ steps
  · obtain rfl := eq_all_of_setKey_mem hsteps hmem
    have hself : t.selfId { o with profileKey } = self := by
      have hfound : t.selfId? { o with profileKey } = some self := h.found
      rw [selfId, hfound, Option.getD_some]
    have hunderway := h.valid.underway_claimAll (o := { o with profileKey })
    have hclaimed := h.valid.settle_claimAll (o := { o with profileKey })
    rw [hself] at hunderway hclaimed
    exact ⟨profileKey, hunderway, hclaimed⟩
  · rw [claimAll_withKey hmem, h.claimAll_eq_self hsettled]
    exact ⟨o.profileKey, h, hsettled⟩

end RecipientRows

section

variable {suite : Suite} {now : Int64} {aci pni : ServiceId} {e e' : Enrolment} {id : Int}
  {db : Database} {done : List Change}

theorem rows_subset_of_done {α : Type} (hdone : done <+: plan suite now aci pni e id)
    (f : Change → List α) : done.flatMap f ⊆ (plan suite now aci pni e id).flatMap f :=
  (prefix_flatMap hdone f).subset

theorem text?_after_done (haci : aci.role = .primary) (hpni : pni.role = .secondary)
    (hdone : done <+: plan suite now aci pni e id) {key text : String}
    (h : db.text? key = some text)
    (hmem : (key, some text) ∈ (plan suite now aci pni e id).flatMap Change.textRows) :
    (db.after done).text? key = some text := by
  rw [text?_eq_rowOf] at h
  rw [text?_eq_rowOf, values_after]
  exact rowOf_writeAll_of_mem h (rows_subset_of_done hdone _) (nodup_textRows_plan haci hpni) hmem

theorem Bundle.RootedFor.after_done {role : Role} {b : Bundle} (h : b.RootedFor role db)
    (hcore : b.SameCore (e.bundles.get role)) (haci : aci.role = .primary)
    (hpni : pni.role = .secondary) (hlaid : ∀ role, (e.bundles.get role).Laid)
    (hdone : done <+: plan suite now aci pni e id) : b.RootedFor role (db.after done) := by
  obtain ⟨hown, hsigned, hsignedId, hlastResort, hlastResortId⟩ :=
    core_mem_bundleChanges role (e.bundles.get role)
  rw [hcore.identity] at hown
  rw [hcore.signed] at hsigned
  rw [hcore.signedId] at hsignedId
  rw [hcore.lastResort] at hlastResort
  rw [hcore.lastResortId] at hlastResortId
  have hsigned' : b.signed.id = b.signedId := by
    rw [← hcore.signed, (hlaid role).signed, hcore.signedId]
  have hlastResort' : b.lastResort.id = b.lastResortId := by
    rw [← hcore.lastResort, (hlaid role).lastResort, hcore.lastResortId]
  constructor
  · exact rowOf_writeAll_of_mem h.own (rows_subset_of_done hdone _) nodup_ownRows_plan
      (mem_rows_of_bundle hown List.mem_cons_self)
  · exact text?_after_done haci hpni hdone h.signedId
      (mem_rows_of_bundle hsignedId List.mem_cons_self)
  · rw [← hsigned']
    exact rowOf_writeAll_of_mem (hsigned' ▸ h.signed) (rows_subset_of_done hdone _)
      nodup_signedRows_plan (mem_rows_of_bundle hsigned List.mem_cons_self)
  · exact text?_after_done haci hpni hdone h.lastResortId
      (mem_rows_of_bundle hlastResortId List.mem_cons_self)
  · rw [← hlastResort']
    exact rowOf_writeAll_of_mem (hlastResort' ▸ h.lastResort) (rows_subset_of_done hdone _)
      (nodup_kyberRows_plan hlaid) (mem_rows_of_bundle hlastResort List.mem_cons_self)

/-- An attempt whose inputs have the same core may stop anywhere. -/
theorem Rooted.after_done (h : Rooted suite aci pni e id db) (haci : aci.role = .primary)
    (hpni : pni.role = .secondary) (he164 : e'.e164 = e.e164)
    (hcore : ∀ role, (e.bundles.get role).SameCore (e'.bundles.get role))
    (hlaid : ∀ role, (e'.bundles.get role).Laid)
    (hdone : done <+: plan suite now aci pni e' id) :
    Rooted suite aci pni e id (db.after done) := by
  refine ⟨?_, ?_, ?_, fun role => ?_, fun role => ?_, ?_⟩
  · refine text?_after_done haci hpni hdone h.primaryId ?_
    rw [textRows_plan]
    simp [preparingTexts, haci]
  · refine text?_after_done haci hpni hdone h.secondaryId ?_
    rw [textRows_plan]
    simp [preparingTexts, hpni]
  · refine text?_after_done haci hpni hdone h.e164 ?_
    rw [textRows_plan, ← he164]
    simp [preparingTexts]
  · exact (h.bundle role).after_done (hcore role) haci hpni hlaid hdone
  · rcases rowOf_writeAll_cases db.identities (done.flatMap Change.identityRows)
      (role, toString id) with hsame | hwritten
    · obtain ⟨time, htime⟩ := h.identities role
      exact ⟨time, hsame.trans htime⟩
    · -- Only the time of the new attempt can be different.
      have hmem := rows_subset_of_done hdone Change.identityRows hwritten
      rw [identityRows_plan] at hmem
      refine ⟨now, ?_⟩
      rw [← (hcore role).identity, after]
      cases role <;> simpa [PerRole.get] using hmem
  · obtain ⟨t, key, ht, hunderway, hsettled⟩ := h.recipients
    obtain ⟨steps, hsteps, hclaim⟩ := exists_claimAll_of_prefix hdone t
    obtain ⟨key', hunderway', hsettled'⟩ :=
      hunderway.exists_settled hsettled hsteps e'.profileKey
    have hentry : e'.ownEntry aci pni = ⟨aci, pni, e.e164, e'.profileKey⟩ := by
      rw [Enrolment.ownEntry, he164]
    refine ⟨_, key', ?_, hunderway', hsettled'⟩
    rw [after, ht, Option.map_some, hclaim, hentry]

theorem Rooted.selfId_eq {o : OwnEntry} (h : Rooted suite aci pni e id db) (haci : o.aci = aci)
    (hpni : o.pni = pni) (he164 : o.e164 = e.e164) : db.selfId o = id := by
  obtain ⟨t, key, ht, hunderway, -⟩ := h.recipients
  have hfound : t.selfId? o = some id := by
    obtain ⟨aci', pni', e164', key'⟩ := o
    subst haci hpni he164
    exact hunderway.found
  rw [Database.selfId_eq ht, RecipientRows.selfId, hfound, Option.getD_some]

/-! ### Rows of the core are read -/

theorem Bundle.RootedFor.stored {role : Role} {b : Bundle} (h : b.RootedFor role db)
    (hsigned : b.signed.id = b.signedId) (hlastResort : b.lastResort.id = b.lastResortId) :
    b.CoreStoredFor role db := by
  have hpointer {p : Ledger.Pointer} {n : UInt32}
      (hp : db.slot? role (.pointer p) = some (Text.numeral n)) :
      db.Answers (answerLedger role (.pointer p)) (some n) := by
    obtain ⟨kv, hkv, hfind⟩ := Option.bind_eq_some_iff.1 hp
    exact answers_pointer hkv hfind
  obtain ⟨own, hown, hownRow⟩ := rowOf_eq_some_iff.1 h.own
  obtain ⟨signed, hsigneds, hsignedRow⟩ := rowOf_eq_some_iff.1 h.signed
  obtain ⟨kyber, hkybers, hkyberRow⟩ := rowOf_eq_some_iff.1 h.lastResort
  rw [← hsigned] at hsignedRow
  rw [← hlastResort] at hkyberRow
  have hread := answers_signed hsigneds hsignedRow
  obtain ⟨hrecord, hmark⟩ := answers_kyber hkybers hkyberRow
  rw [hsigned] at hread
  rw [hlastResort] at hrecord hmark
  exact ⟨answers_ownIdentity hown hownRow, hpointer h.signedId, hread, hpointer h.lastResortId,
    hrecord, hmark⟩

theorem Rooted.suppliesCore (h : Rooted suite aci pni e id db)
    (hlaid : ∀ role, (e.bundles.get role).Laid) (haci : aci.role = .primary)
    (haci' : aci.uuid.isNil = false) (hpni : pni.role = .secondary)
    (hpni' : pni.uuid.isNil = false) : SuppliesCore suite aci pni e id db := by
  obtain ⟨t, key, ht, hunderway, hsettled⟩ := h.recipients
  obtain ⟨hbyAci, hbyPni, hbyPhone, hentry⟩ :=
    answers_ownEntry ht hunderway hsettled haci haci' hpni hpni'
  obtain ⟨kv, hkv, hprimary⟩ := Option.bind_eq_some_iff.1 h.primaryId
  obtain ⟨kv', hkv', hsecondary⟩ := Option.bind_eq_some_iff.1 h.secondaryId
  obtain ⟨kv'', hkv'', hphone⟩ := Option.bind_eq_some_iff.1 h.e164
  exact
    { bundle := fun role =>
        (h.bundle role).stored (hlaid role).signed (hlaid role).lastResort
      primaryId := answers_serviceId hkv haci' hprimary
      secondaryId := answers_serviceId hkv' hpni' hsecondary
      phone := answers_text hkv'' hphone
      byAci := hbyAci
      byPni := hbyPni
      byPhone := hbyPhone
      entry := ⟨key, hentry⟩
      identity := fun role => by
        obtain ⟨time, htime⟩ := h.identities role
        obtain ⟨t', ht', hfound⟩ := rowOf_eq_some_iff.1 htime
        exact ⟨time, answers_identity ht' hfound⟩ }

end

end Registrar
