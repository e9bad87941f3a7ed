import Registrar.Proofs.Registration.History

/-!
How far an attempt gets, and what it has then done.

An attempt is made of calls, and a call that fails has no effect. So the attempt has done exactly
what the calls before that one do: the sessions of the roles whose turn had come have ended, our
entry in the directory has gone through the steps that were taken, and what was known of it is
forgotten only if it has gone through all of them.
-/

namespace Registrar

open Database Registration

/-! ### The work from its start -/

/-- What an attempt stores before it turns to the directory. -/
def keyed (aci pni : ServiceId) (e : Enrolment) : Act Failure Unit := do
  archiving aci pni Role.all
  keying e

/-- From the start until our entry has the identifier of the person. -/
def entered (aci pni : ServiceId) (e : Enrolment) : Act Failure Int := do
  keyed aci pni e
  entering aci pni e.e164

/-- From the start until our entry has the phone number as well. -/
def linked (aci pni : ServiceId) (e : Enrolment) : Act Failure Int := do
  keyed aci pni e
  linking aci pni e.e164

/-- From the start until our entry says all that it is to say. -/
def claimed (aci pni : ServiceId) (e : Enrolment) : Act Failure Int := do
  keyed aci pni e
  claimSelf aci pni e.e164 e.profileKey

/-- What is stored when our entry says all that it is to say. -/
def concluding (suite : Suite) (now : Int64) (e : Enrolment) (self : Int) : Act Failure Unit := do
  Device.clearSelf
  settling suite now e self
  Device.ask Account.commitRegistered

section

variable (suite : Suite) (now : Int64) (aci pni : ServiceId) (e : Enrolment)

theorem store_eq_archiving :
    store suite now aci pni e = archiving aci pni [.primary] >>= fun _ =>
      Device.registering (Device.keys .secondary .archiveSessions) >>= fun _ =>
        renewing suite now aci pni e >>= fun _ => Device.ask Account.commitRegistered := by
  simp [store_eq, prepare_eq, archiving, Role.all]

theorem store_eq_claimed :
    store suite now aci pni e =
      claimed aci pni e >>= fun self => concluding suite now e self := by
  simp only [store_eq, prepare_eq, claimed, keyed, renewing, concluding, bind_assoc]

theorem linked_eq :
    linked aci pni e = entered aci pni e >>= fun self =>
      Device.ask (linkSelf aci pni e.e164) >>= fun _ => pure self := by
  simp only [linked, entered, linking, bind_assoc]

theorem claimed_eq :
    claimed aci pni e = linked aci pni e >>= fun self =>
      Device.consult (setProfileKey self e.profileKey) >>= fun _ => pure self := by
  simp only [claimed, linked, claimSelf_eq, bind_assoc]

def keyedChanges : List Change := archivingChanges aci pni Role.all ++ keyingChanges e

def enteredChanges (self : Int) : List Change :=
  keyedChanges aci pni e ++ enteringChanges (e.ownEntry aci pni) self

theorem holds_keyedChanges : Holds (keyedChanges aci pni e) e := by
  have hnone : (archivingChanges aci pni Role.all).flatMap Change.ownRows = [] := rfl
  rw [Holds, keyedChanges, List.flatMap_append, hnone]
  exact holds_keyingChanges e

theorem claimSteps_keyedChanges : (keyedChanges aci pni e).flatMap Change.claimSteps = [] := by
  have hnone : (archivingChanges aci pni Role.all).flatMap Change.claimSteps = [] := rfl
  rw [keyedChanges, List.flatMap_append, hnone]
  exact claimSteps_keyingChanges e

theorem follows_keyed (d : Device) :
    Follows Failure.ofKeyError (keyedChanges aci pni e) d (keyed aci pni e) fun _ => True :=
  (follows_archiving aci pni Role.all d).bind fun _ d₁ _ _ _ => follows_keying e d₁

theorem follows_entered (d : Device) :
    Follows Failure.ofKeyError
      (enteredChanges aci pni e (d.database.selfId (e.ownEntry aci pni))) d (entered aci pni e)
      fun self => self = d.database.selfId (e.ownEntry aci pni) := by
  refine (follows_keyed aci pni e d).bind fun _ d₁ _ h₁ _ => ?_
  rw [← selfId_eq_of_reached h₁ (claimSteps_keyedChanges aci pni e)]
  exact follows_entering (e.ownEntry aci pni) d₁

end

/-- Whether an attempt comes to the end of a part of what it stores, with which it begins. -/
def Attempt.getsPast {α : Type} (a : Attempt) (d : Device) (c : Circumstances)
    (part : ServiceId → ServiceId → Enrolment → Act Failure α) : Bool :=
  match confirmed a.response.confirmation with
  | .error _ => false
  | .ok (aci, pni) => (answerOf? (part aci pni a.enrolment (d.under c))).isSome

/-- The roles whose sessions have ended once those of a role have. -/
def Role.upTo : Role → List Role
  | .primary => [.primary]
  | .secondary => [.primary, .secondary]

/-- Whether an attempt ends the sessions of a role. -/
def Attempt.archives (a : Attempt) (d : Device) (c : Circumstances) (role : Role) : Bool :=
  a.getsPast d c fun aci pni _ => archiving aci pni role.upTo

/-- Whether an attempt gives the phone number to our entry in the directory. -/
def Attempt.links (a : Attempt) (d : Device) (c : Circumstances) : Bool := a.getsPast d c linked

/-- Whether an attempt makes our entry in the directory say all that it is to say. -/
def Attempt.claims (a : Attempt) (d : Device) (c : Circumstances) : Bool := a.getsPast d c claimed

section

variable {suite : Suite} {a : Attempt} {d d' d'' : Device} {c : Circumstances} {aci pni : ServiceId}
  {e : Enrolment} {self : Int} {cs : List Change}

theorem getsPast_of_confirmed {α : Type}
    {part : ServiceId → ServiceId → Enrolment → Act Failure α}
    (hids : confirmed a.response.confirmation = .ok (aci, pni)) :
    a.getsPast d c part = (answerOf? (part aci pni a.enrolment (d.under c))).isSome := by
  rw [Attempt.getsPast, hids]

theorem getsPast_of_not_confirmed {α : Type}
    {part : ServiceId → ServiceId → Enrolment → Act Failure α} {f : Failure}
    (hids : confirmed a.response.confirmation = .error f) : a.getsPast d c part = false := by
  rw [Attempt.getsPast, hids]

/-! ### The directory -/

theorem claimSteps_stored (d : Device) (cs : List Change) :
    (d.stored cs).flatMap Change.claimSteps = cs.flatMap Change.claimSteps := by
  induction cs with
  | nil => rfl
  | cons c cs ih =>
    rw [Device.stored] at ih
    rw [Device.stored, List.filter_cons, List.flatMap_cons, ← ih]
    split
    · exact List.flatMap_cons
    · rename_i hc
      cases c with
      | claim o self step => simp [Change.beyondKeys] at hc
      | _ => rfl

theorem Reached.claimAll {o : OwnEntry} (h : Reached cs d d') (hcs : ∀ c ∈ cs, c.For o self) :
    d'.database.recipients =
      d.database.recipients.map fun t => t.claimAll o self (cs.flatMap Change.claimSteps) := by
  have hfold (t : RecipientRows) : (d.stored cs).foldl Change.onDirectory t =
      t.claimAll o self (cs.flatMap Change.claimSteps) := by
    rw [← claimSteps_stored d cs]
    exact foldl_onDirectory (fun c hc => hcs c (List.mem_of_mem_filter hc)) t
  rw [h.database, after]
  simp only [hfold]

theorem for_enteredChanges (aci pni : ServiceId) (e : Enrolment) (self : Int) :
    ∀ c ∈ enteredChanges aci pni e self, c.For (e.ownEntry aci pni) self := by
  have harchive : ∀ c ∈ archivingChanges aci pni Role.all, c.For (e.ownEntry aci pni) self := by
    simp [archivingChanges, serviceIdChange]
  have henter : ∀ c ∈ enteringChanges (e.ownEntry aci pni) self,
      c.For (e.ownEntry aci pni) self := by
    simp [enteringChanges]
  simp only [enteredChanges, keyedChanges, keyingChanges, List.forall_mem_append,
    List.forall_mem_singleton]
  exact ⟨⟨harchive, trivial, for_bundleChanges _ _ _ _, for_bundleChanges _ _ _ _⟩, henter⟩

theorem claimSteps_enteredChanges (aci pni : ServiceId) (e : Enrolment) (self : Int) :
    (enteredChanges aci pni e self).flatMap Change.claimSteps = [.arrive, .share, .register] := by
  rw [enteredChanges, List.flatMap_append, claimSteps_keyedChanges]
  rfl

theorem forgets_enteredChanges (aci pni : ServiceId) (e : Enrolment) (self : Int) :
    (enteredChanges aci pni e self).any Change.forgets = false := by
  simp [enteredChanges, keyedChanges, archivingChanges, serviceIdChange, keyingChanges,
    bundleChanges, enteringChanges, Role.all]

theorem holds_enteredChanges (aci pni : ServiceId) (e : Enrolment) (self : Int) :
    Holds (enteredChanges aci pni e self) e := by
  rw [Holds, enteredChanges, List.flatMap_append, holds_keyedChanges]
  rfl

/-- What an attempt has done, by whether it links our entry and whether it claims all of it. -/
inductive Extent (aci pni : ServiceId) (e : Enrolment) (d d' : Device) : Bool → Bool → Prop
  | before {done : List Change} :
    done <+: enteredChanges aci pni e (d.database.selfId (e.ownEntry aci pni)) →
      Reached done d d' → Extent aci pni e d d' false false
  | linked :
    Reached (enteredChanges aci pni e (d.database.selfId (e.ownEntry aci pni)) ++
      [.claim (e.ownEntry aci pni) (d.database.selfId (e.ownEntry aci pni)) .link]) d d' →
      Extent aci pni e d d' true false
  | claimed {rest : List Change} : rest.flatMap Change.claimSteps = [] →
    Reached (enteredChanges aci pni e (d.database.selfId (e.ownEntry aci pni)) ++
      ([.claim (e.ownEntry aci pni) (d.database.selfId (e.ownEntry aci pni)) .link] ++
        ([.claim (e.ownEntry aci pni) (d.database.selfId (e.ownEntry aci pni)) .setKey] ++
          ([.forgetSelf] ++ rest)))) d d' →
      Extent aci pni e d d' true true

theorem exists_rest_of_concluding (suite : Suite) (now : Int64) {self : Int} {cs' : List Change}
    (hholds : Holds cs e) (hreached : Reached cs d d') (hallows : Allows d cs)
    (hreached' : Reached cs' d' d'') (hcs' : cs'.flatMap Change.ownRows = []) :
    ∃ rest, rest.flatMap Change.claimSteps = [] ∧
      Reached ([.forgetSelf] ++ rest) d'' (endOf (concluding suite now e self d'')) := by
  have hclear : (Device.clearSelf : Act Failure Unit) d'' =
      .ok () { d'' with cachedSelf := none } := rfl
  have h := reached_clearSelf d''
  have hrows : (cs' ++ [Change.forgetSelf]).flatMap Change.ownRows = [] := by
    rw [List.flatMap_append, hcs']
    rfl
  obtain ⟨rest, hfirst, hrest⟩ :=
    ((follows_settling suite now self hholds hreached hallows (hreached'.trans h) hrows).bind
      fun _ d₁ _ _ _ => follows_commitRegistered d₁).exists_done
  refine ⟨rest, ?_, ?_⟩
  · have hnone : (settlingChanges suite now e self ++ [Change.texts commitTexts]).flatMap
        Change.claimSteps = [] := rfl
    exact List.prefix_nil.1 (hnone ▸ prefix_flatMap hfirst Change.claimSteps)
  · rw [concluding, endOf_bind_of_ok hclear]
    exact h.trans hrest

theorem extent_store (suite : Suite) (now : Int64) (aci pni : ServiceId) (e : Enrolment)
    (d : Device) :
    Extent aci pni e d (endOf (store suite now aci pni e d))
      (answerOf? (linked aci pni e d)).isSome (answerOf? (claimed aci pni e d)).isSome := by
  rw [store_eq_claimed, claimed_eq, linked_eq]
  cases hentered : entered aci pni e d with
  | error f d₁ =>
    obtain ⟨⟨done, hdone, hreached⟩, -⟩ := (follows_entered aci pni e d).error f d₁ hentered
    simp only [act_bind_eq, hentered]
    exact .before hdone hreached
  | ok self d₁ =>
    obtain ⟨h₁, hallows, rfl⟩ := (follows_entered aci pni e d).ok _ d₁ hentered
    have hdirectory := h₁.claimAll (for_enteredChanges aci pni e _)
    rw [claimSteps_enteredChanges] at hdirectory
    cases hlink : Device.ask (linkSelf aci pni e.e164) d₁ with
    | error f d₂ =>
      simp only [act_bind_eq, hentered, hlink]
      have hreached := h₁.trans (reached_of_query_error hlink)
      rw [List.append_nil] at hreached
      exact .before (List.prefix_refl _) hreached
    | ok id d₂ =>
      obtain ⟨h₂, -, -⟩ := (follows_linkSelf (find_aci_of_entered hdirectory)).ok id d₂ hlink
      cases hkey : Device.consult
          (setProfileKey (d.database.selfId (e.ownEntry aci pni)) e.profileKey) d₂ with
      | error f d₃ =>
        simp only [act_bind_eq, act_pure_eq, hentered, hlink, hkey]
        have hreached := (h₁.trans h₂).trans (reached_of_query_error hkey)
        rw [List.append_nil] at hreached
        exact .linked hreached
      | ok u d₃ =>
        obtain ⟨h₃, -, -⟩ := (follows_setProfileKey (e.ownEntry aci pni) _ d₂).ok u d₃ hkey
        simp only [act_bind_eq, act_pure_eq, hentered, hlink, hkey]
        obtain ⟨rest, hrest, h₄⟩ := exists_rest_of_concluding suite now
          (holds_enteredChanges aci pni e _) h₁ hallows (h₂.trans h₃) rfl
        exact .claimed hrest (h₁.trans (h₂.trans (h₃.trans h₄)))

theorem Extent.exists_steps {links claims : Bool} (h : Extent aci pni e d d' links claims) :
    ∃ steps, steps <+: ClaimStep.all ∧
      d'.database.recipients = d.database.recipients.map (fun t =>
        t.claimAll (e.ownEntry aci pni) (d.database.selfId (e.ownEntry aci pni)) steps) ∧
      (.link ∈ steps ↔ links = true) ∧ (.setKey ∈ steps ↔ claims = true) ∧
      d'.cachedSelf = if claims then none else d.cachedSelf := by
  have hfor := for_enteredChanges aci pni e (d.database.selfId (e.ownEntry aci pni))
  have hsteps := claimSteps_enteredChanges aci pni e (d.database.selfId (e.ownEntry aci pni))
  have hforgets := forgets_enteredChanges aci pni e (d.database.selfId (e.ownEntry aci pni))
  cases h with
  | @before done hdone hreached =>
    have hfirst := prefix_flatMap hdone Change.claimSteps
    rw [hsteps] at hfirst
    have hcached := hreached.cachedSelf
    rw [List.any_eq_false.2 fun c hc => List.any_eq_false.1 hforgets c (hdone.mem hc)] at hcached
    refine ⟨_, hfirst.trans (by decide), hreached.claimAll fun c hc => hfor c (hdone.mem hc),
      iff_of_false (fun hlink => ?_) Bool.false_ne_true,
      iff_of_false (fun hkey => ?_) Bool.false_ne_true, hcached⟩
    · exact absurd (hfirst.mem hlink) (by decide)
    · exact absurd (hfirst.mem hkey) (by decide)
  | linked hreached =>
    have hcached := hreached.cachedSelf
    have hrecipients := hreached.claimAll
      (List.forall_mem_append.2 ⟨hfor, List.forall_mem_singleton.2 ⟨rfl, rfl⟩⟩)
    rw [List.flatMap_append, hsteps] at hrecipients
    rw [List.any_append, hforgets] at hcached
    exact ⟨[.arrive, .share, .register, .link], by decide, hrecipients, by decide, by decide, hcached⟩
  | @claimed rest hrest hreached =>
    have hcached := hreached.cachedSelf
    have hfor' : ∀ c ∈ rest, c.For (e.ownEntry aci pni)
        (d.database.selfId (e.ownEntry aci pni)) := by
      intro c hc
      have hnone := List.flatMap_eq_nil_iff.1 hrest c hc
      cases c with
      | claim o self step => cases hnone
      | _ => trivial
    have hrecipients := hreached.claimAll (by
      simp only [List.forall_mem_append, List.forall_mem_singleton]
      exact ⟨hfor, ⟨rfl, rfl⟩, ⟨rfl, rfl⟩, trivial, hfor'⟩)
    simp only [List.flatMap_append, hsteps, hrest] at hrecipients
    refine ⟨ClaimStep.all, by decide, hrecipients, by decide, by decide, ?_⟩
    rw [hcached]
    simp

/--
What an attempt leaves of the directory and of what is known of our entry: it takes a first part of
the steps, which is all of them just if it claims our entry, and forgets that entry in this case
only.
-/
theorem exists_steps_of_leave (suite : Suite) (d : Device) (c : Circumstances)
    (hids : confirmed a.response.confirmation = .ok (aci, pni)) :
    ∃ steps, steps <+: ClaimStep.all ∧
      (a.leave suite d c).database.recipients = d.database.recipients.map (fun t =>
        t.claimAll (a.enrolment.ownEntry aci pni)
          (d.database.selfId (a.enrolment.ownEntry aci pni)) steps) ∧
      (.link ∈ steps ↔ a.links d c = true) ∧ (.setKey ∈ steps ↔ a.claims d c = true) ∧
      (a.leave suite d c).cachedSelf = if a.claims d c then none else d.cachedSelf := by
  obtain ⟨d₁, events, rfl, hleave⟩ := exists_store_of_leave suite d c hids
  rw [hleave, Attempt.links, Attempt.claims, getsPast_of_confirmed hids, getsPast_of_confirmed hids]
  exact (extent_store suite c.now aci pni a.enrolment (d.under c)).exists_steps

theorem claims_of_runOn_ok {response : Response} (h : a.runOn suite d c = .ok response d') :
    a.claims d c = true := by
  obtain ⟨aci, pni, d₁, events, hids, hstore, -⟩ := exists_store_of_run_ok h
  rw [store_eq_claimed, act_bind_eq] at hstore
  rw [Attempt.claims, getsPast_of_confirmed hids]
  cases hclaimed : claimed aci pni a.enrolment (d.under c) with
  | error f d₂ =>
    rw [hclaimed] at hstore
    cases hstore
  | ok self d₂ => rfl

/-! ### The sessions -/

theorem archiving_concat (aci pni : ServiceId) (roles : List Role) (role : Role) :
    archiving aci pni (roles ++ [role]) = archiving aci pni roles >>= fun _ =>
      Device.registering (Device.keys role .archiveSessions) := by
  simp [archiving]

/-- Ending the sessions of one more role fails and has no effect, or ends them. -/
theorem archive_cases (role : Role) (d : Device) :
    (∃ f d', Device.registering (Device.keys role .archiveSessions) d = .error f d' ∧
        Reached [] d d') ∨
      ∃ d', Device.registering (Device.keys role .archiveSessions) d = .ok () d' ∧
        Reached [.archive role] d d' := by
  cases h : Device.keys role .archiveSessions d with
  | error e d' => exact Or.inl ⟨_, d', Follows.registering_error h, reached_of_keys_error h⟩
  | ok u d' =>
    exact Or.inr ⟨d', Follows.registering_ok h, ((follows_archiveSessions role d).ok u d' h).1⟩

theorem Reached.sessions (h : Reached cs d d') (hmemory : d.memory = none) :
    d'.database.sessions = d.database.sessions.map (endSessions (cs.flatMap Change.archived)) := by
  rw [h.database, stored_of_memory_eq_none hmemory, after]

theorem archived_renewingChanges (suite : Suite) (now : Int64) (aci pni : ServiceId) (e : Enrolment)
    (self : Int) : (renewingChanges suite now aci pni e self).flatMap Change.archived = [] := by
  simp [renewingChanges, keyingChanges, archived_bundleChanges, claimChanges, ClaimStep.all,
    settlingChanges, accountChanges, selfChange]

theorem sessions_store (hmemory : d.memory = none) (suite : Suite) (now : Int64)
    (aci pni : ServiceId) (e : Enrolment) :
    (endOf (store suite now aci pni e d)).database.sessions =
      d.database.sessions.map (endSessions
        (Role.all.filter fun role => (answerOf? (archiving aci pni role.upTo d)).isSome)) := by
  have hprimary : archiving aci pni Role.primary.upTo = archiving aci pni [] >>= fun _ =>
      Device.registering (Device.keys .primary .archiveSessions) := archiving_concat aci pni [] .primary
  have hsecondary : archiving aci pni Role.secondary.upTo =
      archiving aci pni Role.primary.upTo >>= fun _ =>
        Device.registering (Device.keys .secondary .archiveSessions) :=
    archiving_concat aci pni [.primary] .secondary
  rw [store_eq_archiving]
  change (endOf ((archiving aci pni Role.primary.upTo >>= _) d)).database.sessions = _
  rw [Role.all, List.filter_cons, List.filter_singleton, hsecondary, hprimary]
  cases hids : archiving aci pni [] d with
  | error f d₁ =>
    obtain ⟨⟨done, hdone, hreached⟩, -⟩ := (follows_archiving aci pni [] d).error f d₁ hids
    simp only [act_bind_eq, hids]
    have hnone : done.flatMap Change.archived = [] :=
      List.prefix_nil.1 (prefix_flatMap hdone Change.archived)
    refine (hreached.sessions hmemory).trans ?_
    rw [hnone]
    rfl
  | ok u d₁ =>
    obtain ⟨h₁, -, -⟩ := (follows_archiving aci pni [] d).ok u d₁ hids
    rcases archive_cases .primary d₁ with ⟨f, d₂, hrun, h₂⟩ | ⟨d₂, hrun, h₂⟩
    · simp only [act_bind_eq, hids, hrun]
      exact (h₁.trans h₂).sessions hmemory
    · rcases archive_cases .secondary d₂ with ⟨f, d₃, hrun', h₃⟩ | ⟨d₃, hrun', h₃⟩
      · simp only [act_bind_eq, hids, hrun, hrun']
        exact ((h₁.trans h₂).trans h₃).sessions hmemory
      · obtain ⟨rest, hfirst, h₄⟩ := ((follows_renewing suite now aci pni e d₃).bind
          fun _ d₄ _ _ _ => follows_commitRegistered d₄).exists_done
        have hnone : rest.flatMap Change.archived = [] := by
          apply List.prefix_nil.1
          refine (prefix_flatMap hfirst Change.archived).trans ?_
          rw [List.flatMap_append, archived_renewingChanges]
          exact List.prefix_refl _
        have hreached := (((h₁.trans h₂).trans h₃).trans h₄).sessions hmemory
        rw [List.flatMap_append, hnone] at hreached
        rw [act_bind_eq] at hreached
        simp only [act_bind_eq, hids, hrun, hrun']
        exact hreached

/--
An attempt ends the sessions of the roles that it gets past, and does nothing else to sessions.
-/
theorem sessions_leave (suite : Suite) (hmemory : d.memory = none) (a : Attempt)
    (c : Circumstances) :
    (a.leave suite d c).database.sessions =
      d.database.sessions.map (endSessions (Role.all.filter (a.archives d c))) := by
  cases hids : confirmed a.response.confirmation with
  | error f =>
    have hnone : Role.all.filter (a.archives d c) = [] :=
      List.filter_eq_nil_iff.2 fun role _ => by
        rw [Attempt.archives, getsPast_of_not_confirmed hids]
        exact Bool.false_ne_true
    rw [leave_of_confirmed_error hids, hnone, endSessions_nil, Option.map_id]
    rfl
  | ok ids =>
    obtain ⟨aci, pni⟩ := ids
    obtain ⟨d₁, events, rfl, hleave⟩ := exists_store_of_leave suite d c hids
    have harchives : a.archives d c =
        fun role => (answerOf? (archiving aci pni role.upTo (d.under c))).isSome :=
      funext fun role => getsPast_of_confirmed hids
    have hunder : (d.under c).memory = none := hmemory
    rw [hleave, harchives]
    exact sessions_store hunder suite c.now aci pni a.enrolment

end

namespace Sample

/-- The disk is full when our entry has the phone number and is to take the profile key. -/
def unkeyed : Circumstances := ⟨accepting, 0, [], List.replicate 25 none ++ [some .diskFull]⟩

end Sample

end Registrar
