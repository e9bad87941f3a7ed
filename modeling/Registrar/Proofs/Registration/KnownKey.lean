import Mathlib.Data.List.Infix
import Registrar.Proofs.Registration.Progress

/-!
The profile key of a phone number.

The key stands in the row with the number. Where our own entry is another row, an attempt moves the
number there before it stores the key. An attempt that stops in between leaves the number with
whatever key our entry had before; every other one leaves it with the key that it had.
-/

namespace Registrar

open Database Registration

namespace RecipientRows

/-- The profile key in the row with an id. -/
def keyAt (t : RecipientRows) (i : Int) : Option ProfileKey :=
  ((t.rows.find? fun row => row.id = i).map Recipient.ofRow).bind Recipient.profileKey

/-- The profile key in the row with a phone number. -/
def keyOf (t : RecipientRows) (e164 : String) : Option ProfileKey :=
  (t.find .e164 e164).bind t.keyAt

end RecipientRows

/-- A profile key is known for a phone number: whoever asks for one gets it, and none is drawn. -/
def Device.KnowsKey (d : Device) (e164 : String) (key : ProfileKey) : Prop :=
  profileKey e164 { d with outages := [] } = .ok key { d with outages := [] }

namespace RecipientRows

variable {o : OwnEntry} {self : Int} {t : RecipientRows}

/-! ### What a step does to the keys -/

theorem keyAt_update {p : RecipientRow → Bool} {f : RecipientRow → RecipientRow}
    (hid : ∀ row, (f row).id = row.id) (hkey : ∀ row, (f row).profileKey = row.profileKey)
    (i : Int) : (t.update p f).keyAt i = t.keyAt i := by
  have hrow (row : RecipientRow) :
      (Recipient.ofRow (if p row then f row else row)).profileKey =
        (Recipient.ofRow row).profileKey := by
    simp only [Recipient.ofRow]
    split
    · rw [hkey]
    · rfl
  simp only [keyAt, update, List.find?_map, Function.comp_def, id_update hid, Option.bind_map, hrow]

theorem keyAt_release (c : IdColumn) (v : String) (i : Int) :
    (t.release c v self).keyAt i = t.keyAt i := by
  apply keyAt_update
  · exact id_clear c
  · intro row
    cases c <;> rfl

theorem Underway.keyAt_claim (h : Underway o self t) {step : ClaimStep} (hstep : step ≠ .setKey)
    (i : Int) : (t.claim o self step).keyAt i = t.keyAt i := by
  cases step with
  | arrive => rw [h.arrive]
  | share =>
    apply keyAt_update
    · exact fun _ => rfl
    · exact fun _ => rfl
  | register =>
    refine (keyAt_update ?_ ?_ i).trans (keyAt_release .aci _ i)
    · exact fun _ => rfl
    · exact fun _ => rfl
  | link =>
    rw [RecipientRows.claim]
    split
    · rfl
    · refine (keyAt_update ?_ ?_ i).trans ((keyAt_release .e164 _ i).trans (keyAt_release .pni _ i))
      · exact fun _ => rfl
      · exact fun _ => rfl
  | setKey => exact absurd rfl hstep

theorem Underway.keyAt_claimAll (h : Underway o self t) {steps : List ClaimStep}
    (hsteps : .setKey ∉ steps) (i : Int) : (t.claimAll o self steps).keyAt i = t.keyAt i := by
  induction steps generalizing t with
  | nil => rfl
  | cons step steps ih =>
    rw [List.mem_cons, not_or] at hsteps
    exact (ih (h.claim step) hsteps.2).trans (h.keyAt_claim (Ne.symm hsteps.1) i)

theorem Underway.findPhone_claim (h : Underway o self t) {step : ClaimStep} (hstep : step ≠ .link)
    (v : String) : (t.claim o self step).find .e164 v = t.find .e164 v := by
  cases step with
  | arrive => rw [h.arrive]
  | share =>
    apply find_update_of_value
    · exact fun _ => rfl
    · exact fun _ => rfl
  | register =>
    refine (find_update_of_value ?_ ?_ v).trans (find_update_of_value (id_clear .aci) ?_ v)
    · exact fun _ => rfl
    · exact fun _ => rfl
    · exact fun _ => rfl
  | link => exact absurd rfl hstep
  | setKey =>
    apply find_update_of_value
    · exact fun _ => rfl
    · exact fun _ => rfl

theorem Underway.findPhone_claimAll (h : Underway o self t) {steps : List ClaimStep}
    (hsteps : .link ∉ steps) (v : String) :
    (t.claimAll o self steps).find .e164 v = t.find .e164 v := by
  induction steps generalizing t with
  | nil => rfl
  | cons step steps ih =>
    rw [List.mem_cons, not_or] at hsteps
    exact (ih (h.claim step) hsteps.2).trans (h.findPhone_claim (Ne.symm hsteps.1) v)

/-- From the fourth step on the number is in our entry, which has the first identifier by then. -/
theorem Underway.findPhone_link (h : Underway o self t)
    (haci : t.find .aci o.aci.toString = some self) :
    (t.claim o self .link).find .e164 o.e164 = some self := by
  have hvalid : (t.claim o self .link).Valid := h.valid.link
  obtain ⟨row, hrow, -, hid⟩ := exists_row_of_find haci
  rw [RecipientRows.claim, haci] at hvalid ⊢
  have hmem : row ∈ ((t.release .pni o.pni.toString self).release .e164 o.e164 self).rows :=
    mem_release_of_id (mem_release_of_id hrow hid) hid
  exact hvalid.find_eq_some_iff.2
    ⟨_, mem_update.2 ⟨row, hmem, rfl⟩, by simp [hid], by simp [hid, IdColumn.value]⟩

/-! ### The claim as a whole -/

/--
Where a claim can have stopped: before the number moves, before the key is stored, or nowhere.
-/
theorem cases_of_prefix_all {steps : List ClaimStep} (h : steps <+: ClaimStep.all) :
    (.link ∉ steps ∧ .setKey ∉ steps) ∨ steps = [.arrive, .share, .register, .link] ∨
      steps = ClaimStep.all := by
  have hmem := (List.mem_inits _ _).2 h
  simp only [ClaimStep.all, List.inits, List.map_cons, List.map_nil, List.mem_cons,
    List.not_mem_nil, or_false] at hmem
  rcases hmem with rfl | rfl | rfl | rfl | rfl | rfl
  · decide
  · decide
  · decide
  · decide
  · decide
  · decide

theorem Valid.keyOf_claimAll_all (h : t.Valid) :
    (t.claimAll o (t.selfId o) ClaimStep.all).keyOf o.e164 = some o.profileKey := by
  have hphone : (t.claimAll o (t.selfId o) ClaimStep.all).find .e164 o.e164 = _ :=
    h.underway_claimAll.find_of_settled h.settle_claimAll .e164
  rw [keyOf, hphone, Option.bind_some, keyAt, h.underway_claimAll.find?_of_settled h.settle_claimAll]
  exact ProfileKey.ofHex?_toHex o.profileKey

/-- The key of our phone number after a part of the claim, where the number was known before. -/
theorem Valid.keyOf_claimAll (h : t.Valid) (hknown : t.find .e164 o.e164 ≠ none)
    {steps : List ClaimStep} (hsteps : steps <+: ClaimStep.all) :
    (t.claimAll o (t.selfId o) steps).keyOf o.e164 =
      if .setKey ∈ steps then some o.profileKey
      else if .link ∈ steps then t.keyAt (t.selfId o)
      else t.keyOf o.e164 := by
  have hself : Underway o (t.selfId o) t := by
    refine ⟨h, ?_⟩
    cases hself : t.selfId? o with
    | none => exact absurd (selfId?_eq_none_iff.1 hself).2.2 hknown
    | some i => rw [selfId, hself, Option.getD_some]
  rcases cases_of_prefix_all hsteps with ⟨hlink, hkey⟩ | rfl | rfl
  · rw [if_neg hkey, if_neg hlink, keyOf, hself.findPhone_claimAll hlink,
      funext (hself.keyAt_claimAll hkey), keyOf]
  · have hregistered := (hself.claimAll [.arrive, .share]).find_register
    have hphone := ((hself.claimAll [.arrive, .share]).claim .register).findPhone_link hregistered
    have hkey : ClaimStep.setKey ∉ [ClaimStep.arrive, .share, .register, .link] := by decide
    rw [if_neg hkey, if_pos (by decide), keyOf, funext (hself.keyAt_claimAll hkey)]
    exact congrArg (Option.bind · t.keyAt) hphone
  · rw [if_pos (by decide), h.keyOf_claimAll_all]

end RecipientRows

/-! ### Asking for the key -/

section

variable {suite : Suite} {a : Attempt} {d d' : Device} {c : Circumstances} {e164 : String}
  {key : ProfileKey} {t : RecipientRows}

theorem knownProfileKey_eq (houtages : d.outages = []) (ht : d.database.recipients = some t) :
    Device.knownProfileKey e164 d = .ok (t.keyOf e164) d := by
  have hfind : d.database.Answers (findRecipient .e164 e164) (t.find .e164 e164) :=
    findRecipient_eq ht _ _
  rw [Device.knownProfileKey, act_bind_eq, consult_eq houtages hfind, RecipientRows.keyOf]
  cases t.find .e164 e164 with
  | none => rfl
  | some i =>
    have hrow : d.database.Answers (recipient i)
        ((t.rows.find? fun row => row.id = i).map Recipient.ofRow) := recipient_eq ht i
    dsimp only
    rw [act_bind_eq, consult_eq houtages hrow]
    rfl

theorem profileKey_eq_iff (houtages : d.outages = []) : Device.profileKey e164 d = .ok key d ↔
    (d.database.recipients.bind fun t => t.keyOf e164) = some key := by
  rw [Device.profileKey, act_bind_eq]
  cases ht : d.database.recipients with
  | none =>
    have hfails : findRecipient .e164 e164 d.database =
        .error (.noSuchTable TableName.recipients.name) := by
      rw [findRecipient, Query.bind_apply, recipientRows_eq_error ht]
    rw [Device.knownProfileKey, act_bind_eq, Device.consult,
      ask_eq_error houtages (Query.mapError_eq_error.2 ⟨_, hfails, rfl⟩)]
    simp
  | some t =>
    rw [knownProfileKey_eq houtages ht, Option.bind_some]
    cases t.keyOf e164 with
    | none =>
      refine iff_of_false (fun h => ?_) (Option.some_ne_none key).symm
      have hentropy := congrArg (fun d => d.entropy.used) (EStateM.Result.ok.inj h).2
      exact absurd hentropy (by simp [Entropy.skip])
    | some known => simp [act_pure_eq]

theorem knowsKey_iff :
    d.KnowsKey e164 key ↔ (d.database.recipients.bind fun t => t.keyOf e164) = some key :=
  profileKey_eq_iff (d := { d with outages := [] }) rfl

theorem keyAt_eq_some_iff {db : Database} (ht : db.recipients = some t) {i : Int} :
    t.keyAt i = some key ↔
      ∃ r, db.Answers (recipient i) (some r) ∧ r.profileKey = some key := by
  simp [RecipientRows.keyAt, Option.bind_eq_some_iff, Answers, recipient_eq ht]

/-! ### Attempts -/

theorem exists_rows_of_leave (suite : Suite) (a : Attempt) (c : Circumstances)
    (ht : d.database.recipients = some t) (hvalid : t.Valid) :
    ∃ t', (a.leave suite d c).database.recipients = some t' ∧ t'.Valid := by
  cases hids : confirmed a.response.confirmation with
  | error f =>
    rw [leave_of_confirmed_error hids]
    exact ⟨t, ht, hvalid⟩
  | ok ids =>
    obtain ⟨steps, -, hrecipients, -⟩ := exists_steps_of_leave suite d c hids
    rw [ht] at hrecipients
    exact ⟨_, hrecipients, hvalid.claimAll steps⟩

theorem exists_rows_of_leaveAll (suite : Suite) (a : Attempt) (earlier : List Circumstances)
    (ht : d.database.recipients = some t) (hvalid : t.Valid) :
    ∃ t', (a.leaveAll suite d earlier).database.recipients = some t' ∧ t'.Valid := by
  induction earlier generalizing d t with
  | nil => exact ⟨t, ht, hvalid⟩
  | cons c earlier ih =>
    obtain ⟨t', ht', hvalid'⟩ := exists_rows_of_leave suite a c ht hvalid
    exact ih ht' hvalid'

theorem knowsKey_of_runOn_ok {response : Response} (ht : d.database.recipients = some t)
    (hvalid : t.Valid) (hrun : a.runOn suite d c = .ok response d') :
    d'.KnowsKey a.enrolment.e164 a.enrolment.profileKey := by
  obtain ⟨aci, pni, -, -, hids, -⟩ := exists_store_of_run_ok hrun
  obtain ⟨steps, hsteps, hrecipients, -, hkey, -⟩ := exists_steps_of_leave suite d c hids
  rw [Attempt.leave, hrun, ht, selfId_eq ht] at hrecipients
  rcases RecipientRows.cases_of_prefix_all hsteps with ⟨-, hnot⟩ | rfl | rfl
  · exact absurd (hkey.2 (claims_of_runOn_ok hrun)) hnot
  · exact absurd (hkey.2 (claims_of_runOn_ok hrun)) (by decide)
  · have hrows : d'.database.recipients = some _ := hrecipients
    rw [knowsKey_iff, hrows]
    exact hvalid.keyOf_claimAll_all

/--
A profile key that is known for a phone number, and that an attempt for this number carries, is
still known after it, unless the attempt stops between giving the number to an entry with another
key or none and giving it the key. Once the attempt is repeated until it succeeds, the key is known
again.
-/
theorem knowsKey_leave_iff (suite : Suite) (hsound : d.database.Sound) (a : Attempt)
    (c : Circumstances) (hknown : d.KnowsKey a.enrolment.e164 a.enrolment.profileKey) :
    ((a.leave suite d c).KnowsKey a.enrolment.e164 a.enrolment.profileKey ↔
      a.links d c = false ∨ a.claims d c = true ∨
        ∃ aci pni r, confirmed a.response.confirmation = .ok (aci, pni) ∧
          d.database.Answers (recipient (d.database.selfId (a.enrolment.ownEntry aci pni)))
            (some r) ∧ r.profileKey = some a.enrolment.profileKey) ∧
    ∀ earlier c' response d', a.runOn suite (a.leaveAll suite d earlier) c' = .ok response d' →
      d'.KnowsKey a.enrolment.e164 a.enrolment.profileKey := by
  obtain ⟨t, ht, hkey⟩ := Option.bind_eq_some_iff.1 (knowsKey_iff.1 hknown)
  have hvalid := hsound t ht
  constructor
  · cases hids : confirmed a.response.confirmation with
    | error f =>
      rw [leave_of_confirmed_error hids]
      have hunder : (d.under c).KnowsKey a.enrolment.e164 a.enrolment.profileKey := by
        rw [knowsKey_iff] at hknown ⊢
        exact hknown
      exact iff_of_true hunder (Or.inl (getsPast_of_not_confirmed hids))
    | ok ids =>
      obtain ⟨aci, pni⟩ := ids
      have hphone : t.find .e164 (a.enrolment.ownEntry aci pni).e164 ≠ none := by
        intro hnone
        rw [RecipientRows.keyOf, show t.find .e164 a.enrolment.e164 = none from hnone] at hkey
        cases hkey
      obtain ⟨steps, hsteps, hrecipients, hlinks, hclaims, -⟩ :=
        exists_steps_of_leave suite d c hids
      have hafter := hvalid.keyOf_claimAll hphone hsteps
      simp only [hlinks, hclaims] at hafter
      rw [knowsKey_iff, hrecipients, ht, selfId_eq ht]
      refine (Eq.congr_left hafter).trans ?_
      cases a.claims d c with
      | true => exact iff_of_true rfl (Or.inr (Or.inl rfl))
      | false =>
        cases a.links d c with
        | false => exact iff_of_true hkey (Or.inl rfl)
        | true => simp [keyAt_eq_some_iff ht, selfId_eq ht]
  · intro earlier c' response d' hrun
    obtain ⟨t', ht', hvalid'⟩ := exists_rows_of_leaveAll suite a earlier ht hvalid
    exact knowsKey_of_runOn_ok ht' hvalid' hrun

end

namespace Sample

/-- The phone number and its key stand in one row, and the identifier of the account in another. -/
def parted : RecipientRows where
  rows :=
    [{ id := 1, e164 := some "+15550100", profileKey := some enrolment.profileKey.toHex },
      { id := 2, aci := some "11111111-1111-4111-8111-111111111111" }]
  lastId := 2

theorem valid_parted : parted.Valid := by
  refine ⟨by decide, by decide, fun c => ?_⟩
  cases c with
  | aci => decide
  | pni => decide
  | e164 => decide

def knowing : Device :=
  let d := Device.fresh ⟨fun _ => 0, 0⟩
  { d with database := { d.database with recipients := some parted } }

theorem sound_knowing : knowing.database.Sound := by
  intro t ht
  cases ht
  exact valid_parted

theorem knowsKey_knowing :
    knowing.KnowsKey attempt.enrolment.e164 attempt.enrolment.profileKey := by
  rw [knowsKey_iff]
  decide +kernel

end Sample

theorem knowsKey_leave_iff_parted :
    (Sample.attempt.leave Suite.standard Sample.knowing Sample.calm).KnowsKey "+15550100"
      Sample.enrolment.profileKey := by
  obtain ⟨hleave, -⟩ := knowsKey_leave_iff Suite.standard Sample.sound_knowing Sample.attempt
    Sample.calm Sample.knowsKey_knowing
  exact hleave.2 (Or.inr (Or.inl (by decide +kernel)))

/--
An attempt that stops when the number has moved to our entry and the key has not leaves the number
without its key, and whoever asks for one gets another.
-/
theorem not_knowsKey_unkeyed :
    Sample.knowing.database.Sound ∧
    Sample.knowing.KnowsKey "+15550100" Sample.enrolment.profileKey ∧
    Sample.attempt.enrolment.e164 = "+15550100" ∧
    Sample.attempt.enrolment.profileKey = Sample.enrolment.profileKey ∧
    ∃ fresh, answerOf? (Device.profileKey "+15550100"
        { Sample.attempt.leave Suite.standard Sample.knowing Sample.unkeyed with outages := [] }) =
          some fresh ∧
      fresh ≠ Sample.enrolment.profileKey := by
  refine ⟨Sample.sound_knowing, Sample.knowsKey_knowing, rfl, rfl, ⟨List.replicate 32 0, rfl⟩, ?_, ?_⟩
  · decide +kernel
  · decide

end Registrar
