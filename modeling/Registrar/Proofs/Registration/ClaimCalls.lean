import Registrar.Proofs.Registration.Calls
import Registrar.Registration.Run

/-!
The calls that claim our own entry in the directory, each with the step that it takes.
-/

namespace Registrar

open Database

/-- A query that replaces the rows of the directory, or fails because the storage does. -/
structure Alters {α : Type} (t t' : RecipientRows) (q : Query Failure α) (post : α → Prop) : Prop where
  ok : ∀ db a db', db.recipients = some t → q db = .ok (a, db') →
    db' = { db with recipients := some t' } ∧ post a
  error : ∀ db e, db.recipients = some t → q db = .error e → ∃ detail, e = .storage detail
  calm : ∀ db, db.recipients = some t → t.Valid → ∃ a db', q db = .ok (a, db')

variable {α β : Type} {t t' t'' : RecipientRows} {db : Database} {post : α → Prop}
  {post' : β → Prop} {o : OwnEntry} {self : Int}

theorem findRecipient_eq (ht : db.recipients = some t) (c : IdColumn) (v : String) :
    findRecipient c v db = .ok (t.find c v, db) := by
  simp [findRecipient, recipientRows, ht, RecipientRows.find]

theorem recipient_eq (ht : db.recipients = some t) (id : Int) :
    recipient id db = .ok ((t.rows.find? fun row => row.id = id).map Recipient.ofRow, db) := by
  simp [recipient, recipientRows, ht]

namespace Alters

theorem bind {q : Query Failure α} {f : α → Query Failure β} (hq : Alters t t' q post)
    (hvalid : t.Valid → t'.Valid) (hf : ∀ a, post a → Alters t' t'' (f a) post') :
    Alters t t'' (q >>= f) post' := by
  refine ⟨fun db b db'' hdb h => ?_, fun db e hdb h => ?_, fun db hdb ht => ?_⟩
  · rw [Query.bind_apply] at h
    cases hqdb : q db with
    | error e =>
      rw [hqdb] at h
      cases h
    | ok result =>
      obtain ⟨a, db'⟩ := result
      rw [hqdb] at h
      obtain ⟨rfl, ha⟩ := hq.ok db a db' hdb hqdb
      exact (hf a ha).ok { db with recipients := some t' } b db'' rfl h
  · rw [Query.bind_apply] at h
    cases hqdb : q db with
    | error e' =>
      rw [hqdb] at h
      cases h
      exact hq.error db _ hdb hqdb
    | ok result =>
      obtain ⟨a, db'⟩ := result
      rw [hqdb] at h
      obtain ⟨rfl, ha⟩ := hq.ok db a db' hdb hqdb
      exact (hf a ha).error { db with recipients := some t' } e rfl h
  · obtain ⟨a, db', hqdb⟩ := hq.calm db hdb ht
    obtain ⟨rfl, ha⟩ := hq.ok db a db' hdb hqdb
    rw [Query.bind_apply, hqdb]
    exact (hf a ha).calm { db with recipients := some t' } rfl (hvalid ht)

theorem pure {a : α} (ha : post a) : Alters t t (Pure.pure a) post := by
  refine ⟨fun db a' db' hdb h => ?_, fun db e _ h => (by cases h), fun db _ _ => ⟨a, db, rfl⟩⟩
  cases h
  exact ⟨by rw [← hdb], ha⟩

theorem throw {detail : String} (hfalse : ¬t.Valid) :
    Alters t t' (MonadExcept.throw (Failure.storage detail)) post := by
  refine ⟨fun db a db' _ h => (by cases h), fun db e _ h => ?_, fun _ _ ht => absurd ht hfalse⟩
  cases h
  exact ⟨detail, rfl⟩

theorem find (c : IdColumn) (v : String) :
    Alters t t ((findRecipient c v).mapError failure) fun found => found = t.find c v := by
  have hrun (db : Database) (hdb : db.recipients = some t) := findRecipient_eq hdb c v
  refine ⟨fun db a db' hdb h => ?_, fun db e hdb h => ?_, fun db hdb _ => ?_⟩
  · have h := Query.mapError_eq_ok.1 h
    rw [hrun db hdb] at h
    cases h
    exact ⟨by rw [← hdb], rfl⟩
  · obtain ⟨e', h, -⟩ := Query.mapError_eq_error.1 h
    rw [hrun db hdb] at h
    cases h
  · exact ⟨_, db, Query.mapError_eq_ok.2 (hrun db hdb)⟩

theorem rows : Alters t t (recipientRows.mapError failure) fun found => found = t := by
  have hrun (db : Database) (hdb : db.recipients = some t) : recipientRows db = .ok (t, db) := by
    simp [recipientRows, hdb]
  refine ⟨fun db a db' hdb h => ?_, fun db e hdb h => ?_, fun db hdb _ => ?_⟩
  · have h := Query.mapError_eq_ok.1 h
    rw [hrun db hdb] at h
    cases h
    exact ⟨by rw [← hdb], rfl⟩
  · obtain ⟨e', h, -⟩ := Query.mapError_eq_error.1 h
    rw [hrun db hdb] at h
    cases h
  · exact ⟨t, db, Query.mapError_eq_ok.2 (hrun db hdb)⟩

theorem put {t' : RecipientRows} (hvalid : t.Valid → t'.Valid) :
    Alters t t' ((putRecipients t').mapError failure) fun _ => True := by
  have hrun (db : Database) : putRecipients t' db = match conflict? t'.rows with
      | some c => .error (.notUnique (TableName.recipients.name ++ "." ++ c.name))
      | none => .ok ((), { db with recipients := some t' }) := by
    cases hc : conflict? t'.rows <;> simp [putRecipients, hc]
  refine ⟨fun db a db' _ h => ?_, fun db e _ h => ?_, fun db _ ht => ?_⟩
  · have h := Query.mapError_eq_ok.1 h
    rw [hrun] at h
    split at h
    · cases h
    · cases h
      exact ⟨rfl, trivial⟩
  · obtain ⟨e', -, rfl⟩ := Query.mapError_eq_error.1 h
    exact ⟨_, rfl⟩
  · have hnone := RecipientRows.conflict?_eq_none_iff.2 (hvalid ht).nodup_values
    exact ⟨(), { db with recipients := some t' }, Query.mapError_eq_ok.2 (by rw [hrun, hnone])⟩

theorem update (p : RecipientRow → Bool) (f : RecipientRow → RecipientRow)
    (hvalid : t.Valid → (t.update p f).Valid) :
    Alters t (t.update p f) ((updateRecipients p f).mapError failure)
      fun n => n = t.rows.countP p := by
  have hrun (db : Database) (hdb : db.recipients = some t) :
      (updateRecipients p f).mapError failure db =
        ((putRecipients (t.update p f)).mapError failure db).map
          fun result => (t.rows.countP p, result.2) := by
    simp only [updateRecipients, recipientRows, Query.mapError, Query.bind_apply, Query.get_apply,
      Query.need_apply, hdb, RecipientRows.update]
    generalize putRecipients _ db = outcome
    cases outcome <;> rfl
  have hput := put hvalid
  refine ⟨fun db n db' hdb h => ?_, fun db e hdb h => ?_, fun db hdb ht => ?_⟩
  · rw [hrun db hdb] at h
    cases hq : (putRecipients (t.update p f)).mapError failure db with
    | error e =>
      rw [hq] at h
      cases h
    | ok result =>
      rw [hq] at h
      cases h
      exact ⟨(hput.ok db result.1 result.2 hdb hq).1, rfl⟩
  · rw [hrun db hdb] at h
    cases hq : (putRecipients (t.update p f)).mapError failure db with
    | error e' =>
      rw [hq] at h
      cases h
      exact hput.error db _ hdb hq
    | ok result =>
      rw [hq] at h
      cases h
  · obtain ⟨a, db', hq⟩ := hput.calm db hdb ht
    rw [hrun db hdb, hq]
    exact ⟨_, _, rfl⟩

theorem exists_eq {q : Query Failure α} (h : Alters t t' q post) (db : Database)
    (ht : db.recipients = some t) (hvalid : t.Valid) :
    ∃ a, q db = .ok (a, { db with recipients := some t' }) ∧ post a := by
  obtain ⟨a, db', hq⟩ := h.calm db ht hvalid
  obtain ⟨rfl, ha⟩ := h.ok db a db' ht hq
  exact ⟨a, hq, ha⟩

end Alters

/-! ### The steps of the claim -/

theorem alters_trustedRecipient :
    Alters t (t.claim o self .arrive) ((trustedRecipient o.aci o.pni o.e164).mapError failure)
      fun id => id = t.selfId o := by
  rw [trustedRecipient, Query.mapError_bind]
  refine (Alters.find .aci o.aci.toString).bind id fun byAci haci => ?_
  rw [RecipientRows.claim, RecipientRows.selfId, RecipientRows.selfId?, ← haci]
  cases byAci with
  | some i => exact Alters.pure rfl
  | none =>
    dsimp only
    rw [Query.mapError_bind]
    refine (Alters.find .pni o.pni.toString).bind id fun byPni hpni => ?_
    rw [← hpni]
    cases byPni with
    | some i => exact Alters.pure rfl
    | none =>
      dsimp only
      rw [Query.mapError_bind]
      refine (Alters.find .e164 o.e164).bind id fun byE164 he164 => ?_
      rw [← he164]
      cases byE164 with
      | some i => exact Alters.pure rfl
      | none =>
        have hself : t.selfId? o = none := by
          rw [RecipientRows.selfId?, ← haci, ← hpni, ← he164]
          rfl
        have hvalid (h : t.Valid) : (t.claim o self .arrive).Valid := h.arrive
        rw [RecipientRows.claim, hself] at hvalid
        dsimp only
        rw [addRecipient, Query.mapError_bind]
        refine Alters.rows.bind id fun found hfound => ?_
        obtain rfl := hfound
        rw [Query.mapError_bind]
        exact (Alters.put hvalid).bind hvalid fun _ _ => Alters.pure rfl

theorem alters_updateSelf (self : Int) {f : RecipientRow → RecipientRow}
    (hvalid : t.Valid → (t.update (·.id = self) f).Valid) :
    Alters t (t.update (·.id = self) f)
      (Query.mapError failure do let _ ← updateRecipients (·.id = self) f) fun _ => True := by
  rw [Query.mapError_bind]
  exact (Alters.update _ _ hvalid).bind hvalid fun _ _ => Alters.pure trivial

theorem alters_setProfileSharing :
    Alters t (t.claim o self .share) ((setProfileSharing self true).mapError failure)
      fun _ => True :=
  alters_updateSelf self fun h => h.share (o := o)

theorem alters_setProfileKey :
    Alters t (t.claim o self .setKey) ((setProfileKey self o.profileKey).mapError failure)
      fun _ => True :=
  alters_updateSelf self fun h => h.setKey

theorem alters_markRegistered (hself : ∃ row ∈ t.rows, row.id = self) :
    Alters t (t.claim o self .register) (markRegistered self o.aci) fun _ => True := by
  refine (Alters.update _ _ fun h => h.release .aci o.aci.toString).bind
    (fun h => h.release .aci o.aci.toString) fun _ _ => ?_
  have hvalid (h : (t.release .aci (o.value .aci) self).Valid) : (t.claim o self .register).Valid :=
    h.gainAci (RecipientRows.free_release .aci _)
  refine (Alters.update _ _ hvalid).bind hvalid fun n hn => ?_
  obtain ⟨row, hrow, hid⟩ := hself
  have hpos : n ≠ 0 := by
    rw [hn, Ne, List.countP_eq_zero]
    intro hnone
    exact hnone row (RecipientRows.mem_release_of_id hrow hid) (by simpa using hid)
  simp only [hpos, if_false]
  exact Alters.pure trivial

theorem alters_linkSelf (haci : t.find .aci o.aci.toString ≠ none) :
    Alters t (t.claim o self .link) (linkSelf o.aci o.pni o.e164)
      fun id => t.find .aci o.aci.toString = some id := by
  refine (Alters.find .aci o.aci.toString).bind id fun found hfound => ?_
  rw [RecipientRows.claim, ← hfound]
  cases found with
  | none => exact absurd hfound.symm haci
  | some i =>
    dsimp only
    have hvalid (h : ((t.release .pni (o.value .pni) i).release .e164 (o.value .e164) i).Valid) :=
      h.gainOthers ((RecipientRows.free_release .pni _).release .e164 _)
        (RecipientRows.free_release .e164 _)
    refine (Alters.update _ _ fun h => h.release .pni _).bind (fun h => h.release .pni _) fun _ _ => ?_
    refine (Alters.update _ _ fun h => h.release .e164 _).bind (fun h => h.release .e164 _)
      fun _ _ => ?_
    exact (Alters.update _ _ hvalid).bind hvalid fun _ _ => Alters.pure rfl

/-! ### The claim as a whole -/

theorem after_claim (ht : db.recipients = some t) (o : OwnEntry) (self : Int) (step : ClaimStep) :
    db.after [.claim o self step] = { db with recipients := some (t.claim o self step) } := by
  simp [after, ht]

theorem Makes.of_alters {step : ClaimStep} {q : Query Failure α} {post : RecipientRows → α → Prop}
    (hnone : db.recipients = none → ∃ detail, q db = .error (.storage detail))
    (h : ∀ t, db.recipients = some t → Alters t (t.claim o self step) q (post t)) :
    Makes Failure.ofKeyError [.claim o self step] db q
      fun a => ∃ t, db.recipients = some t ∧ post t a := by
  cases ht : db.recipients with
  | none =>
    obtain ⟨detail, hq⟩ := hnone ht
    refine ⟨fun a db' h => ?_, fun e h => ?_, fun _ hallowed => ?_⟩
    · rw [hq] at h
      cases h
    · rw [hq] at h
      cases h
      exact ⟨detail, rfl⟩
    · have := List.forall_mem_singleton.1 hallowed
      simp [Change.Allowed, ht] at this
  | some t =>
    have h := h t ht
    refine ⟨fun a db' hq => ?_, fun e hq => h.error db e ht hq, fun hsound _ => ?_⟩
    · obtain ⟨rfl, ha⟩ := h.ok db a db' ht hq
      refine ⟨(after_claim ht o self step).symm, List.forall_mem_singleton.2 ?_, t, rfl, ha⟩
      simp [Change.Allowed, ht]
    · exact h.calm db ht (hsound t ht)

theorem recipientRows_eq_error (h : db.recipients = none) :
    recipientRows db = .error (.noSuchTable TableName.recipients.name) := by
  simp only [recipientRows, Query.bind_apply, Query.get_apply, Query.need_apply, h]

theorem follows_trustedRecipient (o : OwnEntry) (self : Int) (d : Device) :
    Follows Failure.ofKeyError [.claim o self .arrive] d
      (Device.consult (trustedRecipient o.aci o.pni o.e164))
      fun id => ∃ t, d.database.recipients = some t ∧ id = t.selfId o := by
  refine Follows.ask rfl rfl (Makes.of_alters (fun hnone => ?_) fun t _ => alters_trustedRecipient)
  simp only [trustedRecipient, findRecipient, Query.mapError, Query.bind_apply,
    recipientRows_eq_error hnone]
  exact ⟨_, rfl⟩

theorem follows_setProfileSharing (o : OwnEntry) (self : Int) (d : Device) :
    Follows Failure.ofKeyError [.claim o self .share] d
      (Device.consult (setProfileSharing self true)) fun _ => True := by
  refine (Follows.ask rfl rfl (Makes.of_alters (fun hnone => ?_) fun t _ =>
    alters_setProfileSharing)).mono fun _ _ => trivial
  simp only [setProfileSharing, updateRecipients, Query.mapError, Query.bind_apply,
    recipientRows_eq_error hnone]
  exact ⟨_, rfl⟩

theorem follows_markRegistered {d : Device}
    (hself : ∀ t, d.database.recipients = some t → ∃ row ∈ t.rows, row.id = self) :
    Follows Failure.ofKeyError [.claim o self .register] d (Device.ask (markRegistered self o.aci))
      fun _ => True := by
  refine (Follows.ask rfl rfl (Makes.of_alters (fun hnone => ?_) fun t ht =>
    alters_markRegistered (hself t ht))).mono fun _ _ => trivial
  simp only [markRegistered, updateRecipients, Query.mapError, Query.bind_apply,
    recipientRows_eq_error hnone]
  exact ⟨_, rfl⟩

theorem follows_linkSelf {d : Device}
    (haci : ∀ t, d.database.recipients = some t → t.find .aci o.aci.toString ≠ none) :
    Follows Failure.ofKeyError [.claim o self .link] d (Device.ask (linkSelf o.aci o.pni o.e164))
      fun _ => True := by
  refine (Follows.ask rfl rfl (Makes.of_alters (fun hnone => ?_) fun t ht =>
    alters_linkSelf (haci t ht))).mono fun _ _ => trivial
  simp only [linkSelf, findRecipient, Query.mapError, Query.bind_apply,
    recipientRows_eq_error hnone]
  exact ⟨_, rfl⟩

theorem follows_setProfileKey (o : OwnEntry) (self : Int) (d : Device) :
    Follows Failure.ofKeyError [.claim o self .setKey] d
      (Device.consult (setProfileKey self o.profileKey)) fun _ => True := by
  refine (Follows.ask rfl rfl (Makes.of_alters (fun hnone => ?_) fun t _ =>
    alters_setProfileKey)).mono fun _ _ => trivial
  simp only [setProfileKey, updateRecipients, Query.mapError, Query.bind_apply,
    recipientRows_eq_error hnone]
  exact ⟨_, rfl⟩

theorem exists_row_arrive (o : OwnEntry) (self : Int) (t : RecipientRows) :
    ∃ row ∈ (t.claim o self .arrive).rows, row.id = t.selfId o := by
  rw [RecipientRows.claim, RecipientRows.selfId]
  cases hself : t.selfId? o with
  | some i => exact RecipientRows.exists_row_of_selfId? hself
  | none => exact ⟨_, List.mem_append_right _ List.mem_cons_self, rfl⟩

theorem exists_row_share (h : ∃ row ∈ t.rows, row.id = self) :
    ∃ row ∈ (t.claim o self .share).rows, row.id = self := by
  obtain ⟨row, hrow, hid⟩ := h
  refine ⟨_, RecipientRows.mem_update.2 ⟨row, hrow, rfl⟩, ?_⟩
  split <;> exact hid

theorem find_register_ne_none (h : ∃ row ∈ t.rows, row.id = self) :
    (t.claim o self .register).find .aci o.aci.toString ≠ none := by
  obtain ⟨row, hrow, hid⟩ := h
  have hmem : { row with registered := flag true, aci := some o.aci.toString } ∈
      (t.claim o self .register).rows :=
    RecipientRows.mem_update.2 ⟨row, RecipientRows.mem_release_of_id hrow hid, by simp [hid]⟩
  intro hnone
  exact RecipientRows.find_eq_none_iff.1 hnone _ hmem rfl

/-- The id of our entry in the directory of a database. -/
def Database.selfId (o : OwnEntry) (db : Database) : Int :=
  (db.recipients.map (RecipientRows.selfId o)).getD 0

theorem Database.selfId_eq {db : Database} {t : RecipientRows} (ht : db.recipients = some t)
    (o : OwnEntry) : db.selfId o = t.selfId o := by
  rw [Database.selfId, ht]
  rfl

def claimChanges (o : OwnEntry) (self : Int) : List Change := ClaimStep.all.map (.claim o self)

theorem Reached.recipients {cs : List Change} {d d' : Device} (h : Reached cs d d')
    (hcs : cs.all Change.beyondKeys = true) :
    d'.database.recipients = d.database.recipients.map fun t => cs.foldl Change.onDirectory t := by
  have hstored : d.stored cs = cs := by
    rw [Device.stored, List.filter_eq_self]
    intro c hc
    rw [List.all_eq_true.1 hcs c hc, Bool.or_true]
  rw [h.database, hstored, after]

/-- The directory is left alone by changes that are no steps of a claim. -/
theorem Reached.recipients_eq {cs : List Change} {d d' : Device} (h : Reached cs d d')
    (hcs : cs.flatMap Change.claimSteps = []) :
    d'.database.recipients = d.database.recipients := by
  have hfold (cs : List Change) (hcs : ∀ c ∈ cs, c.claimSteps = []) (t : RecipientRows) :
      cs.foldl Change.onDirectory t = t := by
    induction cs with
    | nil => rfl
    | cons c cs ih =>
      have hc := hcs c List.mem_cons_self
      have ht : Change.onDirectory t c = t := by
        cases c with
        | claim o self step => cases hc
        | _ => rfl
      rw [List.foldl_cons, ht, ih fun c' hc' => hcs c' (List.mem_cons_of_mem c hc')]
  have hstored : ∀ c ∈ d.stored cs, c.claimSteps = [] := fun c hc =>
    List.flatMap_eq_nil_iff.1 hcs c (List.mem_of_mem_filter hc)
  rw [h.database, after]
  cases d.database.recipients with
  | none => rfl
  | some t => exact congrArg some (hfold _ hstored t)

/-- As long as the directory is as it was, our entry in it is the same row. -/
theorem selfId_eq_of_reached {cs : List Change} {d d' : Device} (h : Reached cs d d')
    (hcs : cs.flatMap Change.claimSteps = []) :
    d'.database.selfId o = d.database.selfId o := by
  rw [Database.selfId, h.recipients_eq hcs, Database.selfId]

theorem exists_row_arrive_share (o : OwnEntry) (t : RecipientRows) :
    ∃ row ∈ ((t.claim o (t.selfId o) .arrive).claim o (t.selfId o) .share).rows,
      row.id = t.selfId o :=
  exists_row_share (exists_row_arrive o _ t)

/-! ### The parts of the claim -/

/-- Our own entry is found, or made, and takes the identifier of the person. -/
def entering (aci pni : ServiceId) (e164 : String) : Act Failure Int := do
  let self ← Device.consult (trustedRecipient aci pni e164)
  Device.consult (setProfileSharing self true)
  Device.ask (markRegistered self aci)
  return self

/-- After that it takes everything else by which we can be found. -/
def linking (aci pni : ServiceId) (e164 : String) : Act Failure Int := do
  let self ← entering aci pni e164
  let _ ← Device.ask (linkSelf aci pni e164)
  return self

theorem claimSelf_eq (aci pni : ServiceId) (e164 : String) (key : ProfileKey) :
    Registration.claimSelf aci pni e164 key = linking aci pni e164 >>= fun self =>
      Device.consult (setProfileKey self key) >>= fun _ => pure self := by
  simp only [Registration.claimSelf, linking, entering, bind_assoc, pure_bind]

def enteringChanges (o : OwnEntry) (self : Int) : List Change :=
  [.claim o self .arrive] ++ ([.claim o self .share] ++ [.claim o self .register])

theorem claimChanges_eq (o : OwnEntry) (self : Int) :
    claimChanges o self =
      (enteringChanges o self ++ [.claim o self .link]) ++ [.claim o self .setKey] := rfl

theorem follows_entering (o : OwnEntry) (d : Device) :
    Follows Failure.ofKeyError (enteringChanges o (d.database.selfId o)) d
      (entering o.aci o.pni o.e164) fun self => self = d.database.selfId o := by
  refine (follows_trustedRecipient o _ d).bind fun self d₁ hself h₁ _ => ?_
  obtain ⟨t, ht, rfl⟩ := hself
  have hselfId := Database.selfId_eq ht o
  rw [hselfId] at h₁ ⊢
  refine (follows_setProfileSharing o _ d₁).bind fun _ d₂ _ h₂ _ => ?_
  have hrow : ∀ t', d₂.database.recipients = some t' → ∃ row ∈ t'.rows, row.id = t.selfId o := by
    intro t' ht'
    rw [(h₁.trans h₂).recipients rfl, ht] at ht'
    cases ht'
    exact exists_row_arrive_share o t
  exact (follows_markRegistered hrow).bind fun _ _ _ _ _ => Follows.pure rfl

/-- Once our entry has the identifier of the person, it is found by that. -/
theorem find_aci_of_entered {o : OwnEntry} {db db' : Database}
    (h : db'.recipients =
      db.recipients.map fun t => t.claimAll o (db.selfId o) [.arrive, .share, .register]) :
    ∀ t, db'.recipients = some t → t.find .aci o.aci.toString ≠ none := by
  intro t ht
  rw [h] at ht
  obtain ⟨t₀, ht₀, rfl⟩ := Option.map_eq_some_iff.1 ht
  rw [Database.selfId_eq ht₀]
  exact find_register_ne_none (exists_row_arrive_share o t₀)

theorem follows_linking (o : OwnEntry) (d : Device) :
    Follows Failure.ofKeyError
      (enteringChanges o (d.database.selfId o) ++ [.claim o (d.database.selfId o) .link]) d
      (linking o.aci o.pni o.e164) fun self => self = d.database.selfId o := by
  refine (follows_entering o d).bind fun self d₁ hself h₁ _ => ?_
  obtain rfl := hself
  exact (follows_linkSelf (find_aci_of_entered (h₁.recipients rfl))).bind fun _ _ _ _ _ =>
    Follows.pure rfl

theorem follows_claimSelf (o : OwnEntry) (d : Device) :
    Follows Failure.ofKeyError (claimChanges o (d.database.selfId o)) d
      (Registration.claimSelf o.aci o.pni o.e164 o.profileKey)
      fun self => self = d.database.selfId o := by
  rw [claimChanges_eq, claimSelf_eq]
  refine (follows_linking o d).bind fun self d₁ hself _ _ => ?_
  obtain rfl := hself
  exact (follows_setProfileKey o _ d₁).bind fun _ _ _ _ _ => Follows.pure rfl

end Registrar
