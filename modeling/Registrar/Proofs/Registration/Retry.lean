import Registrar.Proofs.Registration.Failing
import Registrar.Proofs.ServiceId

/-!
An attempt that is made again.

Whatever earlier attempts with the same inputs have done, they have gone through a first part of the
plan. So the plan of the attempt that succeeds writes all of it again, and what is stored in the end
is what one attempt alone would have stored.
-/

namespace Registrar

open Database Registration

/-! ### A plan that was begun before -/

theorem prefix_flatMap {α β : Type} {l l' : List α} (h : l <+: l') (f : α → List β) :
    l.flatMap f <+: l'.flatMap f := by
  obtain ⟨rest, rfl⟩ := h
  rw [List.flatMap_append]
  exact List.prefix_append _ _

theorem steady_of_isSome {κ ν : Type} {ws : List (κ × Option ν)} (h : ∀ w ∈ ws, w.2.isSome) :
    Table.Steady ws := by
  intro w hw w' hw' _
  rw [h w hw, h w' hw']

theorem steady_of_eq_or_isSome {κ ν : Type} {ws : List (κ × Option ν)} {k : κ} {v : Option ν}
    (h : ∀ w ∈ ws, w = (k, v) ∨ w.1 ≠ k ∧ w.2.isSome) : Table.Steady ws := by
  intro w hw w' hw' hkey
  rcases h w hw with rfl | ⟨hne, hsome⟩
  · rcases h w' hw' with rfl | ⟨hne', -⟩
    · rfl
    · exact absurd hkey.symm hne'
  · rcases h w' hw' with rfl | ⟨-, hsome'⟩
    · exact absurd hkey hne
    · rw [hsome, hsome']

section

variable (suite : Suite) (now : Int64) (aci pni : ServiceId) (e : Enrolment) (self : Int)

theorem steady_textRows_plan :
    Table.Steady ((plan suite now aci pni e self).flatMap Change.textRows) := by
  -- Only the token may be deleted, and it is written once; everything else is set to a text.
  have hrole (role : Role) : (Account.Entry.serviceId role).key ≠ Account.Entry.pushToken.key := by
    cases role <;> decide
  apply steady_of_eq_or_isSome (k := Account.Entry.pushToken.key) (v := e.pushToken)
  rw [textRows_plan]
  simp only [preparingTexts, commitTexts, List.cons_append, List.nil_append, List.forall_mem_cons]
  refine ⟨Or.inr ⟨hrole aci.role, rfl⟩, Or.inr ⟨hrole pni.role, rfl⟩, Or.inr ⟨by decide, rfl⟩,
    Or.inr ⟨by decide, rfl⟩, Or.inr ⟨by decide, rfl⟩, Or.inr ⟨by decide, rfl⟩,
    Or.inr ⟨by decide, rfl⟩, Or.inr ⟨by decide, rfl⟩, Or.inr ⟨by decide, rfl⟩, Or.inl trivial,
    Or.inr ⟨by decide, rfl⟩, Or.inr ⟨by decide, rfl⟩, Or.inr ⟨by decide, rfl⟩,
    Or.inr ⟨by decide, rfl⟩, Or.inr ⟨by decide, rfl⟩, Or.inr ⟨by decide, rfl⟩, ?_⟩
  simp

theorem steady_ownRows_plan :
    Table.Steady ((plan suite now aci pni e self).flatMap Change.ownRows) := by
  apply steady_of_isSome
  simp [ownRows_plan]

theorem steady_signedRows_plan :
    Table.Steady ((plan suite now aci pni e self).flatMap Change.signedRows) := by
  apply steady_of_isSome
  simp [signedRows_plan]

theorem steady_oneTimeRows_plan :
    Table.Steady ((plan suite now aci pni e self).flatMap Change.oneTimeRows) := by
  apply steady_of_isSome
  simp [oneTimeRows_plan, oneTimeRows_bundleChanges, or_imp, forall_and]

theorem steady_kyberRows_plan :
    Table.Steady ((plan suite now aci pni e self).flatMap Change.kyberRows) := by
  apply steady_of_isSome
  simp [kyberRows_plan, kyberRows_bundleChanges, or_imp, forall_and]

theorem steady_identityRows_plan :
    Table.Steady ((plan suite now aci pni e self).flatMap Change.identityRows) := by
  apply steady_of_isSome
  simp [identityRows_plan]

end

theorem endSessions_endSessions_both (roles : List Role) (t : Table (Role × String) SessionRow) :
    endSessions [.primary, .secondary] (endSessions roles t) =
      endSessions [.primary, .secondary] t := by
  rw [endSessions, endSessions, endSessions, Table.mapRows_mapRows]
  congr 1
  funext k row
  by_cases hk : k.1 ∈ roles
  · obtain ⟨role, address⟩ := k
    cases role <;> simp_all
  · simp [hk]

theorem writeAll_of_prefix {κ ν : Type} [DecidableEq κ] {f : Change → List (κ × Option ν)}
    {done cs cs' : List Change} (hdone : done <+: cs')
    (hshape : (cs'.flatMap f).map Table.shape = (cs.flatMap f).map Table.shape)
    (hsteady : Table.Steady (cs.flatMap f)) (t : Table κ ν) :
    (t.writeAll (done.flatMap f)).writeAll (cs.flatMap f) = t.writeAll (cs.flatMap f) := by
  apply Table.writeAll_writeAll_of_prefix _ hsteady
  rw [← hshape]
  exact (prefix_flatMap hdone f).map Table.shape

theorem claimAll_of_plan {suite : Suite} {now : Int64} {aci pni : ServiceId} {e : Enrolment}
    {self : Int} (t : RecipientRows) :
    (plan suite now aci pni e self).foldl Change.onDirectory t =
      t.claimAll (e.ownEntry aci pni) self ClaimStep.all := by
  rw [foldl_onDirectory (for_plan _ _ _ _ _ _), claimSteps_plan]

theorem claimAll_of_preparing {suite : Suite} {now : Int64} {aci pni : ServiceId} {e : Enrolment}
    {self : Int} (t : RecipientRows) :
    (preparing suite now aci pni e self).foldl Change.onDirectory t =
      t.claimAll (e.ownEntry aci pni) self ClaimStep.all := by
  have hplan : (plan suite now aci pni e self).foldl Change.onDirectory t = _ := claimAll_of_plan t
  rw [plan, List.foldl_append] at hplan
  exact hplan

theorem exists_claimAll_of_prefix {suite : Suite} {now : Int64} {aci pni : ServiceId}
    {e : Enrolment} {self : Int} {done : List Change}
    (hdone : done <+: plan suite now aci pni e self) (t : RecipientRows) :
    ∃ steps, steps <+: ClaimStep.all ∧
      done.foldl Change.onDirectory t = t.claimAll (e.ownEntry aci pni) self steps := by
  have hsteps := prefix_flatMap hdone Change.claimSteps
  rw [claimSteps_plan] at hsteps
  exact ⟨_, hsteps, foldl_onDirectory (fun c hc => for_plan _ _ _ _ _ _ c (hdone.mem hc)) t⟩

/-- A plan of which a first part was carried out before, at whatever time, comes to the same. -/
theorem after_plan_of_prefix {db : Database} (hsound : db.Sound) {suite : Suite} {now now' : Int64}
    {aci pni : ServiceId} {e : Enrolment} {self : Int} (hself : db.selfId (e.ownEntry aci pni) = self)
    {done : List Change} (hdone : done <+: plan suite now' aci pni e self) :
    (db.after done).after (plan suite now aci pni e self) =
      db.after (plan suite now aci pni e self) := by
  -- Of the tables of rows, only that of the identities holds the time, and not in its keys.
  have htexts := writeAll_of_prefix hdone (by rw [textRows_plan, textRows_plan])
    (steady_textRows_plan suite now aci pni e self)
  have hown := writeAll_of_prefix hdone (by rw [ownRows_plan, ownRows_plan])
    (steady_ownRows_plan suite now aci pni e self)
  have hsigned := writeAll_of_prefix hdone (by rw [signedRows_plan, signedRows_plan])
    (steady_signedRows_plan suite now aci pni e self)
  have honeTime := writeAll_of_prefix hdone (by rw [oneTimeRows_plan, oneTimeRows_plan])
    (steady_oneTimeRows_plan suite now aci pni e self)
  have hkyber := writeAll_of_prefix hdone (by rw [kyberRows_plan, kyberRows_plan])
    (steady_kyberRows_plan suite now aci pni e self)
  have hidentity := writeAll_of_prefix hdone (by rw [identityRows_plan, identityRows_plan]; rfl)
    (steady_identityRows_plan suite now aci pni e self)
  have hrecipients :
      (db.recipients.map fun t => (plan suite now aci pni e self).foldl Change.onDirectory
        (done.foldl Change.onDirectory t)) =
      db.recipients.map fun t => (plan suite now aci pni e self).foldl Change.onDirectory t := by
    cases ht : db.recipients with
    | none => rfl
    | some t =>
      obtain rfl := (Database.selfId_eq ht _).symm.trans hself
      obtain ⟨steps, hsteps, hdirectory⟩ := exists_claimAll_of_prefix hdone t
      rw [Option.map_some, Option.map_some, hdirectory, claimAll_of_plan, claimAll_of_plan,
        (hsound t ht).claimAll_claimAll hsteps]
  simp only [after, Option.map_map, Function.comp_def, htexts, hown, hsigned, honeTime, hkyber,
    hidentity, hrecipients, archived_plan, endSessions_endSessions_both, clears_plan, if_true]

theorem selfId_after_of_prefix {db : Database} (hsound : db.Sound) {suite : Suite} {now : Int64}
    {aci pni : ServiceId} {e : Enrolment} {self : Int} (hself : db.selfId (e.ownEntry aci pni) = self)
    {done : List Change} (hdone : done <+: plan suite now aci pni e self) :
    (db.after done).selfId (e.ownEntry aci pni) = self := by
  cases ht : db.recipients with
  | none =>
    rw [← hself, Database.selfId, Database.selfId, after, ht]
    rfl
  | some t =>
    obtain rfl := (Database.selfId_eq ht _).symm.trans hself
    obtain ⟨steps, hsteps, hdirectory⟩ := exists_claimAll_of_prefix hdone t
    have hafter : (db.after done).recipients = some (t.claimAll (e.ownEntry aci pni)
        (t.selfId (e.ownEntry aci pni)) steps) := by
      rw [after, ht, Option.map_some, hdirectory]
    rw [Database.selfId_eq hafter, (hsound t ht).selfId_claimAll hsteps]

/-! ### Attempts one after the other -/

/-- What is different from one attempt to the next although its inputs are the same. -/
structure Circumstances where
  collaborators : Collaborators
  now : Int64
  faults : List Fault
  outages : List (Option DatabaseError)

/-- Nothing is made to fail. -/
def Circumstances.undisturbed (c : Circumstances) : Circumstances :=
  { c with faults := [], outages := [] }

def Device.under (d : Device) (c : Circumstances) : Device :=
  { d with faults := c.faults, outages := c.outages }

@[simp] theorem Device.memory_under (d : Device) (c : Circumstances) :
    (d.under c).memory = d.memory := rfl

theorem Reached.of_under {cs : List Change} {d d' : Device} {c : Circumstances}
    (h : Reached cs (d.under c) d') (hmemory : d.memory = none) :
    d'.memory = none ∧ d'.database = d.database.after cs := by
  rw [← d.memory_under c] at hmemory
  have hnone := h.memory
  have hdatabase := h.database
  rw [hmemory] at hnone
  rw [stored_of_memory_eq_none hmemory] at hdatabase
  exact ⟨by simpa using hnone, hdatabase⟩

/-- Makes an attempt under some circumstances. -/
def Attempt.runOn (a : Attempt) (suite : Suite) (d : Device) (c : Circumstances) :
    EStateM.Result Stop Device Response :=
  run suite c.collaborators c.now a (d.under c)

/-- The device after an attempt, whichever way that ended. -/
def Attempt.leave (a : Attempt) (suite : Suite) (d : Device) (c : Circumstances) : Device :=
  endOf (a.runOn suite d c)

section

variable {suite : Suite} {a : Attempt} {d d' : Device} {c : Circumstances} {aci pni : ServiceId}

theorem reached_of_runOn_ok {response : Response} (h : a.runOn suite d c = .ok response d') :
    ∃ aci pni, confirmed a.response.confirmation = .ok (aci, pni) ∧ response = a.response ∧
      Hears c.collaborators a.notices ∧ ∃ d₁ events, Reached (plan suite c.now aci pni a.enrolment
          (d.database.selfId (a.enrolment.ownEntry aci pni))) (d.under c) d₁ ∧
        Allows (d.under c) (plan suite c.now aci pni a.enrolment
          (d.database.selfId (a.enrolment.ownEntry aci pni))) ∧
        d' = { d₁ with events := d₁.events ++ events } := by
  obtain ⟨aci, pni, d₁, events, hids, hstore, hresponse, hears, hd'⟩ := exists_store_of_run_ok h
  obtain ⟨hreached, hallows, -⟩ := (follows_store suite c.now aci pni a.enrolment _).ok _ _ hstore
  exact ⟨aci, pni, hids, hresponse, hears, d₁, events, hreached, hallows, hd'⟩

/-- But for what the collaborators took note of, an attempt ends where storing does. -/
theorem exists_store_of_leave (suite : Suite) (d : Device) (c : Circumstances)
    (hids : confirmed a.response.confirmation = .ok (aci, pni)) :
    ∃ d₁ events, endOf (store suite c.now aci pni a.enrolment (d.under c)) = d₁ ∧
      a.leave suite d c = { d₁ with events := d₁.events ++ events } := by
  rw [Attempt.leave, Attempt.runOn]
  rcases run_cases suite c.collaborators c.now a (d.under c) with
    ⟨f, hids', -⟩ | ⟨aci', pni', hids', hrun⟩
  · rw [hids] at hids'
    cases hids'
  · rw [hids] at hids'
    cases hids'
    rcases hrun with ⟨f, d₁, hstore, hrun⟩ | ⟨d₁, events, hstore, hrun⟩
    · refine ⟨d₁, [], by rw [hstore]; rfl, ?_⟩
      rw [hrun, List.append_nil]
      rfl
    · refine ⟨d₁, events, by rw [hstore]; rfl, ?_⟩
      rcases hrun with ⟨-, hrun⟩ | ⟨-, message, hrun⟩ <;> rw [hrun] <;> rfl

/-- Any attempt goes through a first part of the plan. -/
theorem exists_done_of_leave (suite : Suite) (d : Device) (c : Circumstances)
    (hids : confirmed a.response.confirmation = .ok (aci, pni)) :
    ∃ done, done <+: plan suite c.now aci pni a.enrolment
        (d.database.selfId (a.enrolment.ownEntry aci pni)) ∧
      ∃ d₁ events, Reached done (d.under c) d₁ ∧
        a.leave suite d c = { d₁ with events := d₁.events ++ events } := by
  obtain ⟨d₁, events, rfl, hleave⟩ := exists_store_of_leave suite d c hids
  obtain ⟨done, hdone, hreached⟩ :=
    (follows_store suite c.now aci pni a.enrolment (d.under c)).exists_done
  exact ⟨done, hdone, _, events, hreached, hleave⟩

end

/-- The device after some attempts, one after the other. -/
def Attempt.leaveAll (a : Attempt) (suite : Suite) (d : Device) (earlier : List Circumstances) :
    Device :=
  earlier.foldl (a.leave suite) d

/-- The plan of an attempt still comes to the same on a device. -/
structure Converges (suite : Suite) (aci pni : ServiceId) (e : Enrolment) (d d' : Device) : Prop where
  memory : d'.memory = none
  sound : d'.database.Sound
  selfId : d'.database.selfId (e.ownEntry aci pni) = d.database.selfId (e.ownEntry aci pni)
  comes : ∀ now, d'.database.after
      (plan suite now aci pni e (d.database.selfId (e.ownEntry aci pni))) =
    d.database.after (plan suite now aci pni e (d.database.selfId (e.ownEntry aci pni)))
  allowed : ∀ change : Change, change.Allowed d'.database ↔ change.Allowed d.database

theorem converges_leave {suite : Suite} {a : Attempt} {d d' : Device} {aci pni : ServiceId}
    (hids : confirmed a.response.confirmation = .ok (aci, pni))
    (h : Converges suite aci pni a.enrolment d d') (c : Circumstances) :
    Converges suite aci pni a.enrolment d (a.leave suite d' c) := by
  obtain ⟨done, hdone, d₁, events, hreached, hleave⟩ :=
    exists_done_of_leave suite d' c hids
  obtain ⟨hmemory, hdatabase⟩ := hreached.of_under h.memory
  rw [h.selfId] at hdone
  rw [hleave]
  constructor
  · exact hmemory
  · rw [hdatabase]
    exact h.sound.after done
  · rw [hdatabase]
    exact selfId_after_of_prefix h.sound h.selfId hdone
  · intro now
    rw [hdatabase, after_plan_of_prefix h.sound h.selfId hdone, h.comes]
  · intro change
    rw [hdatabase, allowed_after, h.allowed]

/-! ### The attempt that succeeds -/

/-- The database without the times at which the identities of an address were saved. -/
def Database.unstamped (address : String) (db : Database) : Database :=
  { db with
    identities := db.identities.map fun t => t.mapRows fun k row =>
      if k.2 = address then { row with timestamp := 0 } else row }

theorem unstamped_after_plan (db : Database) (suite : Suite) (now now' : Int64)
    (aci pni : ServiceId) (e : Enrolment) (self : Int) :
    (db.after (plan suite now aci pni e self)).unstamped (toString self) =
      (db.after (plan suite now' aci pni e self)).unstamped (toString self) := by
  simp only [Database.unstamped, after, textRows_plan, ownRows_plan, signedRows_plan,
    oneTimeRows_plan, kyberRows_plan, identityRows_plan, archived_plan, clears_plan,
    claimAll_of_plan, Option.map_map, Function.comp_def,
    Table.writeAll, List.foldl_cons, List.foldl_nil, Table.write, Table.mapRows_insert]
  rfl

theorem recipients_after_plan {db : Database} {suite : Suite} {now : Int64} {aci pni : ServiceId}
    {e : Enrolment} {self : Int} {t : RecipientRows} (ht : db.recipients = some t) :
    (db.after (plan suite now aci pni e self)).recipients =
      some (t.claimAll (e.ownEntry aci pni) self ClaimStep.all) := by
  rw [after, ht, Option.map_some, claimAll_of_plan]

theorem recipientOf_after_plan {db : Database} (hsound : db.Sound) {suite : Suite} {now : Int64}
    {aci pni : ServiceId} {e : Enrolment} {self : Int} (hself : db.selfId (e.ownEntry aci pni) = self)
    {t : RecipientRows} (ht : db.recipients = some t) (haci : aci.role = .primary) :
    recipientOf aci (db.after (plan suite now aci pni e self)) =
      .ok (some self, db.after (plan suite now aci pni e self)) := by
  obtain rfl := (Database.selfId_eq ht _).symm.trans hself
  have hvalid := hsound t ht
  have hfind := (hvalid.underway_claimAll (o := e.ownEntry aci pni)).find_of_settled
    hvalid.settle_claimAll .aci
  rw [recipientOf, haci, findRecipient_eq (recipients_after_plan ht)]
  exact congrArg (fun found => Except.ok (found, _)) hfind

section

variable {suite : Suite} {a : Attempt} {d d' d₂ : Device} {c : Circumstances} {aci pni : ServiceId}

/-- A successful attempt leaves what its plan comes to. -/
theorem Converges.of_runOn_ok (h : Converges suite aci pni a.enrolment d d')
    (hids : confirmed a.response.confirmation = .ok (aci, pni)) {response : Response}
    (hok : a.runOn suite d' c = .ok response d₂) :
    response = a.response ∧ Hears c.collaborators a.notices ∧ d₂.cachedSelf = none ∧
      d₂.database = d.database.after (plan suite c.now aci pni a.enrolment
        (d.database.selfId (a.enrolment.ownEntry aci pni))) ∧
      ∀ change ∈ plan suite c.now aci pni a.enrolment
        (d.database.selfId (a.enrolment.ownEntry aci pni)), change.Allowed d.database := by
  obtain ⟨aci', pni', hids', rfl, hears, d₁, events, hreached, hallows, rfl⟩ := reached_of_runOn_ok hok
  rw [hids] at hids'
  cases hids'
  have hdatabase := (hreached.of_under h.memory).2
  have hmemory : (d'.under c).memory = none := h.memory
  rw [Allows, stored_of_memory_eq_none hmemory] at hallows
  rw [h.selfId] at hdatabase hallows
  have hallowed := fun change hchange => (h.allowed change).1 (hallows change hchange)
  refine ⟨rfl, hears, ?_, ?_, hallowed⟩
  · have hcached := hreached.cachedSelf
    rw [forgets_plan] at hcached
    exact hcached
  · exact hdatabase.trans (h.comes c.now)

theorem converges_refl (hmemory : d.memory = none) (hsound : d.database.Sound) :
    Converges suite aci pni a.enrolment d d :=
  ⟨hmemory, hsound, rfl, fun _ => rfl, fun _ => Iff.rfl⟩

theorem Converges.leaveAll (h : Converges suite aci pni a.enrolment d d')
    (hids : confirmed a.response.confirmation = .ok (aci, pni)) (earlier : List Circumstances) :
    Converges suite aci pni a.enrolment d (a.leaveAll suite d' earlier) := by
  induction earlier generalizing d' with
  | nil => exact h
  | cons c earlier ih => exact ih (converges_leave hids h c)

/-- An attempt succeeds when nothing is made to fail and every change of its plan is possible. -/
theorem exists_runOn_undisturbed (hmemory : d.memory = none) (hsound : d.database.Sound)
    (hids : confirmed a.response.confirmation = .ok (aci, pni))
    (hears : Hears c.collaborators a.notices)
    (hallowed : ∀ change ∈ plan suite c.now aci pni a.enrolment
      (d.database.selfId (a.enrolment.ownEntry aci pni)), change.Allowed d.database) :
    ∃ d₁, a.runOn suite d c.undisturbed = .ok a.response d₁ := by
  have hcalm : Calm (d.under c.undisturbed) := ⟨hmemory, rfl, fun o ho => by cases ho⟩
  have hallows : Allows (d.under c.undisturbed) (plan suite c.now aci pni a.enrolment
      (d.database.selfId (a.enrolment.ownEntry aci pni))) := by
    rw [Allows, stored_of_memory_eq_none hcalm.memory]
    exact hallowed
  obtain ⟨u, d₁, hstore⟩ :=
    (follows_store suite c.now aci pni a.enrolment _).calm hcalm hsound hallows
  rcases run_cases suite c.collaborators c.now a (d.under c.undisturbed) with
    ⟨f, hids', -⟩ | ⟨aci', pni', hids', hrun⟩
  · rw [hids] at hids'
    cases hids'
  · rw [hids] at hids'
    cases hids'
    rcases hrun with ⟨f, d₂, hstore', -⟩ | ⟨d₂, events, -, ⟨-, hrun⟩ | ⟨hnot, -⟩⟩
    · rw [hstore] at hstore'
      cases hstore'
    · exact ⟨_, hrun⟩
    · exact absurd hears hnot

end

/--
However many attempts with the same inputs came before, and wherever each of them stopped, the one
that succeeds leaves what a single undisturbed attempt leaves, and what any single successful
attempt leaves but for the time at which our own identities were saved.
-/
theorem runOn_leaveAll_eq_single {suite : Suite} {a : Attempt} {d d₂ : Device}
    {response : Response} (hmemory : d.memory = none) (hsound : d.database.Sound)
    (earlier : List Circumstances) (c : Circumstances)
    (h : a.runOn suite (a.leaveAll suite d earlier) c = .ok response d₂) :
    d₂.cachedSelf = none ∧
    (∃ d₁, a.runOn suite d c.undisturbed = .ok response d₁ ∧ d₂.database = d₁.database) ∧
    ∃ aci pni self, confirmed a.response.confirmation = .ok (aci, pni) ∧
      recipientOf aci d₂.database = .ok (some self, d₂.database) ∧
      ∀ single response' d₁, a.runOn suite d single = .ok response' d₁ →
        d₁.cachedSelf = none ∧
        d₂.database.unstamped (toString self) = d₁.database.unstamped (toString self) ∧
        (single.now = c.now → d₂.database = d₁.database) := by
  obtain ⟨aci, pni, hids, -⟩ := reached_of_runOn_ok h
  have hrefl : Converges suite aci pni a.enrolment d d := converges_refl hmemory hsound
  obtain ⟨rfl, hears, hcached, hdatabase, hallowed⟩ := (hrefl.leaveAll hids earlier).of_runOn_ok hids h
  have haci : aci.role = .primary := (ServiceId.of_read_eq_ok (confirmed_eq_ok hids).1).1
  have hclaim := hallowed (.claim (a.enrolment.ownEntry aci pni)
      (d.database.selfId (a.enrolment.ownEntry aci pni)) .arrive)
    (by simp [plan, preparing, claimChanges, ClaimStep.all])
  obtain ⟨t, ht⟩ := Option.isSome_iff_exists.1 hclaim
  refine ⟨hcached, ?_, aci, pni, d.database.selfId (a.enrolment.ownEntry aci pni), hids, ?_,
    fun single response' d₁ hsingle => ?_⟩
  · obtain ⟨d₁, hd₁⟩ := exists_runOn_undisturbed hmemory hsound hids hears hallowed
    obtain ⟨-, -, -, hdatabase', -⟩ := hrefl.of_runOn_ok hids hd₁
    exact ⟨d₁, hd₁, hdatabase.trans hdatabase'.symm⟩
  · rw [hdatabase]
    exact recipientOf_after_plan hsound rfl ht haci
  · obtain ⟨-, -, hcached', hdatabase', -⟩ := hrefl.of_runOn_ok hids hsingle
    rw [hdatabase, hdatabase']
    exact ⟨hcached', unstamped_after_plan _ _ _ _ _ _ _ _, fun hnow => by rw [hnow]⟩

theorem sound_fresh (entropy : Entropy) : (Device.fresh entropy).database.Sound := by
  intro t ht
  cases ht
  exact ⟨List.nodup_nil, (fun row hrow => by cases hrow), fun _ => List.nodup_nil⟩

namespace Sample

/-- Nothing is made to fail. -/
def calm : Circumstances := ⟨accepting, 0, [], []⟩

/-- The disk is full when the second identifier is to be stored. -/
def full : Circumstances := ⟨accepting, 0, [], [none, some .diskFull]⟩

end Sample

theorem runOn_leaveAll_eq_single_full :
    ∃ d₁ d₂, Sample.attempt.runOn Suite.standard (Sample.attempt.leaveAll Suite.standard
        (.fresh Sample.entropy) [Sample.full]) Sample.calm = .ok Sample.attempt.response d₂ ∧
      Sample.attempt.runOn Suite.standard (.fresh Sample.entropy) Sample.calm =
        .ok Sample.attempt.response d₁ ∧
      d₂.database = d₁.database ∧ d₂.cachedSelf = none := by
  obtain ⟨d₂, hrun⟩ : ∃ d₂, Sample.attempt.runOn Suite.standard (Sample.attempt.leaveAll
      Suite.standard (.fresh Sample.entropy) [Sample.full]) Sample.calm =
        .ok Sample.attempt.response d₂ :=
    ⟨_, eq_ok_of_answerOf? (by decide +kernel)⟩
  obtain ⟨hcached, ⟨d₁, hsingle, hdatabase⟩, -⟩ :=
    runOn_leaveAll_eq_single rfl (sound_fresh Sample.entropy) [Sample.full] Sample.calm hrun
  exact ⟨d₁, d₂, hrun, hsingle, hdatabase, hcached⟩

end Registrar
