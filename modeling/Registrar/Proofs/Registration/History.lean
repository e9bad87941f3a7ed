import Registrar.Proofs.Registration.Core

/-!
Runs of a device, in which bundles are made and attempts come one after the other.

The account is marked as registered only by an attempt that comes to its end. The last one of them
supplies everything the account needs, as long as what follows on it leaves the database alone or
is the same attempt again. The core of the account is supplied by the last attempt that stored all
of it, whether or not it came to set the marks, as long as what follows leaves the core alone or
has the same. An attempt with another core that stops halfway takes some of it away.
-/

namespace Registrar

open Database Registration

/-! ### What is done with a device -/

/-- Something that is done with a device. -/
inductive Deed where
  /-- bundles are made for a registration -/
  | generate (p : Provisioner) (c : Circumstances)
  /-- an attempt is made -/
  | register (a : Attempt) (c : Circumstances)

namespace Deed

/-- The device after a deed, whichever way that ended. -/
def leave (suite : Suite) (d : Device) : Deed → Device
  | generate p c => endOf (Device.generateBoth suite p c.now (d.under c))
  | register a c => a.leave suite d c

/-- A deed is an attempt that has not failed, and so has stored everything. -/
def Commits (suite : Suite) (d : Device) : Deed → Prop
  | generate _ _ => False
  | register a c => ∀ f d', a.runOn suite d c ≠ .error (.failed f) d'

/-- A deed is an attempt that has stored everything but the marks, if not these as well. -/
def Stores (suite : Suite) (d : Device) : Deed → Prop
  | generate _ _ => False
  | register a c => ∃ aci pni, confirmed a.response.confirmation = .ok (aci, pni) ∧
      (answerOf? (prepare suite c.now aci pni a.enrolment (d.under c))).isSome

/-- A deed that changes nothing of what an attempt has stored, or stores the same. -/
def Repeats (suite : Suite) (a : Attempt) (d : Device) : Deed → Prop
  | generate _ _ => True
  | register b c => (b.leave suite d c).database = d.database ∨
    b.enrolment = a.enrolment ∧ b.response.confirmation = a.response.confirmation

/-- A deed that leaves the core of the account as it is, or brings along the core of an attempt. -/
def Spares (suite : Suite) (a : Attempt) (d : Device) : Deed → Prop
  | generate _ _ => True
  | register b c => d.database.SameCore (b.leave suite d c).database ∨ a.SameCore b

/-- An attempt brings along bundles that were made. -/
def Fair (suite : Suite) : Deed → Prop
  | generate _ _ => True
  | register a _ => ∀ role, (a.enrolment.bundles.get role).Made suite

end Deed

/-- The device after some deeds. -/
def Device.having (suite : Suite) (d : Device) (deeds : List Deed) : Device :=
  deeds.foldl (Deed.leave suite) d

theorem having_concat (suite : Suite) (d : Device) (deeds : List Deed) (deed : Deed) :
    d.having suite (deeds ++ [deed]) = deed.leave suite (d.having suite deeds) :=
  List.foldl_append

/-- Every deed of a run has a property, which may depend on the device that it finds. -/
def Throughout (suite : Suite) (P : Device → Deed → Prop) : Device → List Deed → Prop
  | _, [] => True
  | d, deed :: deeds => P d deed ∧ Throughout suite P (deed.leave suite d) deeds

section

variable {suite : Suite} {d : Device} {deed : Deed} {deeds : List Deed}

theorem Throughout.mono {P Q : Device → Deed → Prop} (h : Throughout suite P d deeds)
    (hPQ : ∀ d deed, P d deed → Q d deed) : Throughout suite Q d deeds := by
  induction deeds generalizing d with
  | nil => trivial
  | cons deed deeds ih => exact ⟨hPQ d deed h.1, ih h.2⟩

/-- Either no deed of a run is of a certain kind, or there is a last one that is. -/
theorem exists_last (suite : Suite) (P : Device → Deed → Prop) (d : Device) (deeds : List Deed) :
    Throughout suite (fun d deed => ¬P d deed) d deeds ∨
    ∃ before deed since, deeds = before ++ deed :: since ∧ P (d.having suite before) deed ∧
      Throughout suite (fun d deed => ¬P d deed) (deed.leave suite (d.having suite before))
        since := by
  induction deeds generalizing d with
  | nil => exact Or.inl trivial
  | cons deed deeds ih =>
    rcases ih (deed.leave suite d) with hnone | ⟨before, last, since, rfl, hlast, hsince⟩
    · by_cases hdeed : P d deed
      · exact Or.inr ⟨[], deed, deeds, rfl, hdeed, hnone⟩
      · exact Or.inl ⟨hdeed, hnone⟩
    · exact Or.inr ⟨deed :: before, last, since, rfl, hlast, hsince⟩

/-! ### What any deed does -/

theorem leave_of_confirmed_error {a : Attempt} {c : Circumstances} {f : Failure}
    (h : confirmed a.response.confirmation = .error f) : a.leave suite d c = d.under c := by
  rcases run_cases suite c.collaborators c.now a (d.under c) with
    ⟨f', -, hrun⟩ | ⟨aci, pni, hids, -⟩
  · rw [Attempt.leave, Attempt.runOn, hrun]
    rfl
  · rw [h] at hids
    cases hids

theorem exists_changes_of_leave (suite : Suite) (hmemory : d.memory = none) (deed : Deed) :
    (deed.leave suite d).memory = none ∧
      ∃ cs, (deed.leave suite d).database = d.database.after cs := by
  cases deed with
  | generate p c =>
    obtain ⟨cs, -, hreached⟩ := counted_generateBoth suite p c.now (d.under c)
    obtain ⟨hnone, hdatabase⟩ := hreached.of_under hmemory
    exact ⟨hnone, cs, hdatabase⟩
  | register a c =>
    cases hids : confirmed a.response.confirmation with
    | error f =>
      rw [Deed.leave, leave_of_confirmed_error hids]
      exact ⟨hmemory, [], (after_nil _).symm⟩
    | ok ids =>
      obtain ⟨done, -, d₁, events, hreached, hleave⟩ :=
        exists_done_of_leave suite d c hids
      obtain ⟨hnone, hdatabase⟩ := hreached.of_under hmemory
      rw [Deed.leave, hleave]
      exact ⟨hnone, done, hdatabase⟩

theorem sound_leave (hmemory : d.memory = none) (hsound : d.database.Sound) :
    (deed.leave suite d).database.Sound := by
  obtain ⟨-, cs, hcs⟩ := exists_changes_of_leave suite hmemory deed
  rw [hcs]
  exact hsound.after cs

theorem sound_having (suite : Suite) (hmemory : d.memory = none) (hsound : d.database.Sound)
    (deeds : List Deed) :
    (d.having suite deeds).memory = none ∧ (d.having suite deeds).database.Sound := by
  induction deeds generalizing d with
  | nil => exact ⟨hmemory, hsound⟩
  | cons deed deeds ih =>
    exact ih (exists_changes_of_leave suite hmemory deed).1 (sound_leave hmemory hsound)

/-- What every deed of a run keeps is kept by the run. -/
theorem Throughout.keeps {P : Device → Deed → Prop} {I : Database → Prop}
    (hmemory : d.memory = none) (hdeeds : Throughout suite P d deeds)
    (hstep : ∀ d, d.memory = none → ∀ deed ∈ deeds, P d deed → I d.database →
      I (deed.leave suite d).database)
    (h : I d.database) : I (d.having suite deeds).database := by
  induction deeds generalizing d with
  | nil => exact h
  | cons deed deeds ih =>
    obtain ⟨hdeed, hrest⟩ := hdeeds
    exact ih (exists_changes_of_leave suite hmemory deed).1 hrest
      (fun d hmemory deed hmem => hstep d hmemory deed (List.mem_cons_of_mem _ hmem))
      (hstep d hmemory deed List.mem_cons_self hdeed h)

/-! ### The mark of a registered account -/

theorem text_of_counts {db : Database} {cs : List Change} (hcs : ∀ c ∈ cs, c.IsCount)
    {entry : Account.Entry} (hentry : entry ∈ marks) :
    (Account.text entry (db.after cs)).map Prod.fst = (Account.text entry db).map Prod.fst := by
  apply text_after_of_not_mem
  exact key_not_mem_of_counts hcs (List.mem_append_right _ (List.mem_map_of_mem hentry))

theorem text_of_leave (hmemory : d.memory = none) (hdeed : ¬deed.Commits suite d)
    {entry : Account.Entry} (hentry : entry ∈ marks) :
    (Account.text entry (deed.leave suite d).database).map Prod.fst =
      (Account.text entry d.database).map Prod.fst := by
  cases deed with
  | generate p c =>
    obtain ⟨cs, hcs, hreached⟩ := counted_generateBoth suite p c.now (d.under c)
    rw [Deed.leave, (hreached.of_under hmemory).2]
    exact text_of_counts hcs hentry
  | register a c =>
    have hfailed : ∃ f d', a.runOn suite d c = .error (.failed f) d' := by
      simpa [Deed.Commits] using hdeed
    obtain ⟨f, d', hrun⟩ := hfailed
    rw [Deed.leave, Attempt.leave, hrun]
    exact text_of_run_failed hrun hentry

theorem text_of_throughout (hmemory : d.memory = none)
    (h : Throughout suite (fun d deed => ¬deed.Commits suite d) d deeds) {entry : Account.Entry}
    (hentry : entry ∈ marks) :
    (Account.text entry (d.having suite deeds).database).map Prod.fst =
      (Account.text entry d.database).map Prod.fst :=
  h.keeps (I := fun db => (Account.text entry db).map Prod.fst =
      (Account.text entry d.database).map Prod.fst) hmemory
    (fun _ hmemory _ _ hdeed htext => (text_of_leave hmemory hdeed hentry).trans htext) rfl

/-! ### What an attempt supplied -/

variable {a : Attempt} {aci pni : ServiceId} {id : Int}

theorem Standing.selfId_eq {e : Enrolment} {db : Database} (h : Standing suite aci pni e id db) :
    db.selfId (e.ownEntry aci pni) = id := by
  obtain ⟨t, ht, hunderway, -⟩ := h.recipients
  rw [Database.selfId_eq ht, RecipientRows.selfId, hunderway.found, Option.getD_some]

theorem Standing.leave (hmemory : d.memory = none)
    (hids : confirmed a.response.confirmation = .ok (aci, pni))
    (h : Standing suite aci pni a.enrolment id d.database) (hdeed : deed.Repeats suite a d) :
    Standing suite aci pni a.enrolment id (deed.leave suite d).database := by
  cases deed with
  | generate p c =>
    obtain ⟨cs, hcs, hreached⟩ := counted_generateBoth suite p c.now (d.under c)
    rw [Deed.leave, (hreached.of_under hmemory).2]
    exact h.after_counts hcs
  | register b c =>
    rcases hdeed with hsame | ⟨henrolment, hconfirmation⟩
    · rw [Deed.leave, hsame]
      exact h
    · rw [← hconfirmation] at hids
      obtain ⟨done, hdone, d₁, events, hreached, hleave⟩ :=
        exists_done_of_leave suite d c hids
      rw [henrolment, h.selfId_eq] at hdone
      rw [Deed.leave, hleave, (hreached.of_under hmemory).2]
      exact h.after_of_prefix hdone

theorem Standing.having (hmemory : d.memory = none)
    (hids : confirmed a.response.confirmation = .ok (aci, pni))
    (h : Standing suite aci pni a.enrolment id d.database)
    (hdeeds : Throughout suite (fun d deed => deed.Repeats suite a d) d deeds) :
    Standing suite aci pni a.enrolment id (d.having suite deeds).database :=
  hdeeds.keeps hmemory (fun _ hmemory _ _ hdeed h => h.leave hmemory hids hdeed) h

theorem Rooted.leave (hmemory : d.memory = none)
    (hids : confirmed a.response.confirmation = .ok (aci, pni))
    (h : Rooted suite aci pni a.enrolment id d.database) (hfair : deed.Fair suite)
    (hdeed : deed.Spares suite a d) :
    Rooted suite aci pni a.enrolment id (deed.leave suite d).database := by
  cases deed with
  | generate p c =>
    obtain ⟨cs, hcs, hreached⟩ := counted_generateBoth suite p c.now (d.under c)
    rw [Deed.leave, (hreached.of_under hmemory).2]
    exact h.of_sameCore (sameCore_after fun c hc => (hcs c hc).sparesCore)
  | register b c =>
    rcases hdeed with hsame | hcore
    · exact h.of_sameCore hsame
    · rw [← hcore.ids] at hids
      obtain ⟨haci, -, hpni, -⟩ := roles_of_confirmed hids
      obtain ⟨done, hdone, d₁, events, hreached, hleave⟩ := exists_done_of_leave suite d c hids
      rw [h.selfId_eq rfl rfl hcore.e164] at hdone
      rw [Deed.leave, hleave, (hreached.of_under hmemory).2]
      exact h.after_done haci hpni hcore.e164 hcore.bundle (fun role => (hfair role).laid)
        hdone

theorem Rooted.having (hmemory : d.memory = none)
    (hids : confirmed a.response.confirmation = .ok (aci, pni))
    (h : Rooted suite aci pni a.enrolment id d.database)
    (hfair : ∀ deed ∈ deeds, deed.Fair suite)
    (hdeeds : Throughout suite (fun d deed => deed.Spares suite a d) d deeds) :
    Rooted suite aci pni a.enrolment id (d.having suite deeds).database :=
  hdeeds.keeps hmemory
    (fun _ hmemory deed hmem hdeed h => h.leave hmemory hids (hfair deed hmem) hdeed) h

/-- An attempt for the same person that stops before the sessions of both roles have ended. -/
theorem sameCore_leave_of_stopped {c : Circumstances} (hmemory : d.memory = none)
    (hids : confirmed a.response.confirmation = .ok (aci, pni))
    (haci : d.database.text? (Account.Entry.serviceId aci.role).key = some aci.toString)
    (hpni : d.database.text? (Account.Entry.serviceId pni.role).key = some pni.toString)
    (hstopped : answerOf? (archiving aci pni Role.all (d.under c)) = none) :
    d.database.SameCore (a.leave suite d c).database := by
  obtain ⟨d₁, events, hstore, hleave⟩ := exists_store_of_leave suite d c hids
  rw [store_eq, prepare_eq, bind_assoc, endOf_bind_of_stopped hstopped] at hstore
  obtain ⟨done, hdone, hreached⟩ :=
    (follows_archiving aci pni Role.all (d.under c)).exists_done
  rw [hstore] at hreached
  rw [hleave, (hreached.of_under hmemory).2]
  apply sameCore_after
  intro change hchange
  have hmem := hdone.mem hchange
  simp only [archivingChanges, serviceIdChange, List.mem_append, List.mem_singleton,
    List.mem_map] at hmem
  rcases hmem with rfl | rfl | ⟨role, -, rfl⟩
  · exact List.forall_mem_singleton.2 fun _ => haci
  · exact List.forall_mem_singleton.2 fun _ => hpni
  · trivial

/-- An attempt that commits has everything of it standing. -/
theorem exists_standing_of_commits {c : Circumstances} (hmemory : d.memory = none)
    (hsound : d.database.Sound) (hlaid : ∀ role, (a.enrolment.bundles.get role).Laid)
    (h : (Deed.register a c).Commits suite d) :
    ∃ aci pni id, confirmed a.response.confirmation = .ok (aci, pni) ∧
      Standing suite aci pni a.enrolment id (a.leave suite d c).database := by
  rcases run_cases suite c.collaborators c.now a (d.under c) with
    ⟨f, -, hrun⟩ | ⟨aci, pni, hids, hrun⟩
  · exact absurd hrun (h f _)
  · rcases hrun with ⟨f, d₁, -, hrun⟩ | ⟨d₁, events, hstore, hrun⟩
    · exact absurd hrun (h f d₁)
    · have hstanding := standing_of_store_ok (d := d.under c) hmemory hsound hids hlaid hstore
      refine ⟨aci, pni, d.database.selfId (a.enrolment.ownEntry aci pni), hids, ?_⟩
      rw [Attempt.leave, Attempt.runOn]
      rcases hrun with ⟨-, hrun⟩ | ⟨-, message, hrun⟩ <;> rw [hrun] <;> exact hstanding

/-- An attempt that has stored everything but the marks has its core standing. -/
theorem exists_rooted_of_stores {c : Circumstances} (hmemory : d.memory = none)
    (hsound : d.database.Sound) (hlaid : ∀ role, (a.enrolment.bundles.get role).Laid)
    (h : (Deed.register a c).Stores suite d) :
    ∃ aci pni id, confirmed a.response.confirmation = .ok (aci, pni) ∧
      Rooted suite aci pni a.enrolment id (a.leave suite d c).database := by
  obtain ⟨aci, pni, hids, hprepared⟩ := h
  obtain ⟨u, hu⟩ := Option.isSome_iff_exists.1 hprepared
  have hprepare := eq_ok_of_answerOf? hu
  obtain ⟨haci, -, hpni, -⟩ := roles_of_confirmed hids
  obtain ⟨hreached, hallows, -⟩ :=
    (follows_prepare suite c.now aci pni a.enrolment _).ok _ _ hprepare
  obtain ⟨d₁, events, hstore, hleave⟩ := exists_store_of_leave suite d c hids
  rw [store_eq, endOf_bind_of_ok hprepare] at hstore
  obtain ⟨done, hdone, hreached'⟩ := (follows_commitRegistered _).exists_done
  rw [hstore] at hreached'
  rw [Allows, stored_of_memory_eq_none (d := d.under c) hmemory] at hallows
  have hrooted := rooted_after_preparing hsound rfl haci hpni hlaid hallows
  refine ⟨aci, pni, d.database.selfId (a.enrolment.ownEntry aci pni), hids, ?_⟩
  rw [hleave, ((hreached.trans hreached').of_under hmemory).2, after_append]
  refine hrooted.of_sameCore (sameCore_after fun change hchange => ?_)
  rw [List.mem_singleton.1 (hdone.mem hchange)]
  exact sparesCore_commitTexts

theorem stores_of_commits (h : deed.Commits suite d) : deed.Stores suite d := by
  cases deed with
  | generate p c => exact h
  | register a c =>
    rcases run_cases suite c.collaborators c.now a (d.under c) with
      ⟨f, -, hrun⟩ | ⟨aci, pni, hids, ⟨f, d₁, -, hrun⟩ | ⟨d₁, events, hstore, -⟩⟩
    · exact absurd hrun (h f _)
    · exact absurd hrun (h f d₁)
    · refine ⟨aci, pni, hids, ?_⟩
      rw [store_eq, act_bind_eq] at hstore
      cases hprepare : prepare suite c.now aci pni a.enrolment (d.under c) with
      | ok u d₂ => rfl
      | error f d₂ =>
        rw [hprepare] at hstore
        cases hstore

end

/-! ### Runs from a fresh device -/

section

variable {suite : Suite} {entropy : Entropy} {deeds : List Deed}

/-- The mark is not there at the start, and is set by nothing but an attempt that commits. -/
theorem not_registered_of_throughout
    (h : Throughout suite (fun d deed => ¬deed.Commits suite d) (Device.fresh entropy) deeds) :
    ¬((Device.fresh entropy).having suite deeds).database.Answers
      (Account.isMarked .registered) true := by
  intro hregistered
  have htext := text_of_throughout rfl h (show Account.Entry.registered ∈ marks by decide)
  have hmarked := isMarked_eq .registered ((Device.fresh entropy).having suite deeds).database
  rw [htext, hregistered] at hmarked
  cases hmarked

theorem having_append_cons (suite : Suite) (d : Device) (before since : List Deed) (deed : Deed) :
    d.having suite (before ++ deed :: since) =
      (deed.leave suite (d.having suite before)).having suite since :=
  List.foldl_append

/--
In a run from a fresh device, an account that is marked as registered was committed by an attempt,
and the last one that was supplies everything, if only the same attempt was made since.
-/
theorem last_commit_supplies (hfair : ∀ deed ∈ deeds, deed.Fair suite)
    (hregistered : ((Device.fresh entropy).having suite deeds).database.Answers
      (Account.isMarked .registered) true) :
    ∃ before a c since, deeds = before ++ .register a c :: since ∧
      (Deed.register a c).Commits suite ((Device.fresh entropy).having suite before) ∧
      ∃ aci pni id, confirmed a.response.confirmation = .ok (aci, pni) ∧
        (Throughout suite (fun d deed => deed.Repeats suite a d)
            ((Deed.register a c).leave suite ((Device.fresh entropy).having suite before)) since →
          Supplies suite aci pni a.enrolment id
            ((Device.fresh entropy).having suite deeds).database) := by
  rcases exists_last suite (fun d deed => deed.Commits suite d) (Device.fresh entropy) deeds with
    hnone | ⟨before, deed, since, rfl, hcommits, -⟩
  · exact absurd hregistered (not_registered_of_throughout hnone)
  · cases deed with
    | generate p c => exact absurd hcommits id
    | register a c =>
      have hlaid (role : Role) : (a.enrolment.bundles.get role).Laid :=
        (hfair _ (List.mem_append_right _ List.mem_cons_self) role).laid
      obtain ⟨hmemory, hsound⟩ := sound_having suite rfl (sound_fresh entropy) before
      obtain ⟨aci, pni, id, hids, hstanding⟩ :=
        exists_standing_of_commits hmemory hsound hlaid hcommits
      obtain ⟨haci, haci', hpni, hpni'⟩ := roles_of_confirmed hids
      have hleave := (exists_changes_of_leave suite hmemory (.register a c)).1
      refine ⟨before, a, c, since, rfl, hcommits, aci, pni, id, hids, fun hrepeats => ?_⟩
      rw [having_append_cons]
      exact (hstanding.having hleave hids hrepeats).supplies hlaid haci haci' hpni hpni'

/--
In a run from a fresh device, if the account is marked as registered then some attempt has stored
everything but the marks, at least. The last one that has supplies the core of the account, unless
an attempt with another core has stopped since and had changed the core before it did.
-/
theorem last_stored_supplies (hfair : ∀ deed ∈ deeds, deed.Fair suite)
    (hregistered : ((Device.fresh entropy).having suite deeds).database.Answers
      (Account.isMarked .registered) true) :
    ∃ before a c since, deeds = before ++ .register a c :: since ∧
      (Deed.register a c).Stores suite ((Device.fresh entropy).having suite before) ∧
      Throughout suite (fun d deed => ¬deed.Stores suite d)
        ((Deed.register a c).leave suite ((Device.fresh entropy).having suite before)) since ∧
      ∃ aci pni id, confirmed a.response.confirmation = .ok (aci, pni) ∧
        (Throughout suite (fun d deed => deed.Spares suite a d)
            ((Deed.register a c).leave suite ((Device.fresh entropy).having suite before)) since →
          SuppliesCore suite aci pni a.enrolment id
            ((Device.fresh entropy).having suite deeds).database) := by
  rcases exists_last suite (fun d deed => deed.Stores suite d) (Device.fresh entropy) deeds with
    hnone | ⟨before, deed, since, rfl, hstores, hsince⟩
  · have hcommits := hnone.mono fun d deed hdeed h => hdeed (stores_of_commits h)
    exact absurd hregistered (not_registered_of_throughout hcommits)
  · cases deed with
    | generate p c => exact absurd hstores id
    | register a c =>
      have hlaid (role : Role) : (a.enrolment.bundles.get role).Laid :=
        (hfair _ (List.mem_append_right _ List.mem_cons_self) role).laid
      have hfairs : ∀ deed ∈ since, deed.Fair suite := fun deed hdeed =>
        hfair deed (List.mem_append_right _ (List.mem_cons_of_mem _ hdeed))
      obtain ⟨hmemory, hsound⟩ := sound_having suite rfl (sound_fresh entropy) before
      obtain ⟨aci, pni, id, hids, hrooted⟩ :=
        exists_rooted_of_stores hmemory hsound hlaid hstores
      obtain ⟨haci, haci', hpni, hpni'⟩ := roles_of_confirmed hids
      have hleave := (exists_changes_of_leave suite hmemory (.register a c)).1
      refine ⟨before, a, c, since, rfl, hstores, hsince, aci, pni, id, hids, fun hspares => ?_⟩
      rw [having_append_cons]
      exact (hrooted.having hleave hids hfairs hspares).suppliesCore hlaid haci haci' hpni hpni'

end

namespace Sample

/-- Other keys for the same person. -/
def newer : Attempt := { attempt with enrolment := { enrolment with bundles := later } }

/-- The same keys again, with other words and another profile key. -/
def reworded : Attempt :=
  { newer with
    enrolment :=
      { newer.enrolment with
        password := "changed"
        pushToken := some "token"
        profileKey := ⟨List.replicate 32 8, rfl⟩ } }

/-- The disk is full when the marks are to be set. -/
def atLast : Circumstances := ⟨accepting, 5, [], List.replicate 34 none ++ [some .diskFull]⟩

/-- The disk is full when the keys of one role have been stored. -/
def betweenRoles : Circumstances := ⟨accepting, 7, [], List.replicate 13 none ++ [some .diskFull]⟩

/-- The sessions of one role have ended when the disk is full. -/
def halted : Circumstances := ⟨accepting, 0, [], [none, none, none, some .diskFull]⟩

/--
An account is registered. Then other keys are stored, but the marks are not set; the same keys are
stored again with other words, until the disk is full; and an attempt with the keys from before
stops among the sessions.
-/
def retried : List Deed :=
  [.generate provisioner calm, .register attempt calm, .register newer atLast,
    .register reworded betweenRoles, .register attempt halted]

theorem fair_retried : ∀ deed ∈ retried, deed.Fair Suite.standard := by
  simp only [retried, List.forall_mem_cons]
  exact ⟨trivial, made_bundles, made_of_later, made_of_later, made_bundles, fun _ h => by cases h⟩

/-- The account is registered. -/
def registered : Device :=
  (Device.fresh entropy).having Suite.standard [.generate provisioner calm, .register attempt calm]

/-- All of the newer keys have been stored. -/
def renewed : Device := (Deed.register newer atLast).leave Suite.standard registered

/-- Some of them have been stored once more. -/
def repeated : Device := (Deed.register reworded betweenRoles).leave Suite.standard renewed

/-- The identifiers that these attempts are for, and how far the attempts come. -/
theorem exists_confirmed : ∃ aci pni, confirmed attempt.response.confirmation = .ok (aci, pni) ∧
    repeated.database.text? (Account.Entry.serviceId aci.role).key = some aci.toString ∧
    repeated.database.text? (Account.Entry.serviceId pni.role).key = some pni.toString ∧
    (answerOf? (prepare Suite.standard 5 aci pni newer.enrolment
      (registered.under atLast))).isSome = true ∧
    (answerOf? (prepare Suite.standard 7 aci pni reworded.enrolment
      (renewed.under betweenRoles))).isSome = false ∧
    answerOf? (archiving aci pni Role.all (repeated.under halted)) = none :=
  ⟨_, _, rfl, by decide +kernel, by decide +kernel, by decide +kernel, by decide +kernel,
    by decide +kernel⟩

theorem stores_newer : (Deed.register newer atLast).Stores Suite.standard registered := by
  obtain ⟨aci, pni, hids, -, -, hnewer, -⟩ := exists_confirmed
  exact ⟨aci, pni, hids, hnewer⟩

theorem not_stores_reworded :
    ¬(Deed.register reworded betweenRoles).Stores Suite.standard renewed := by
  rintro ⟨aci, pni, hids, hprepared⟩
  obtain ⟨aci', pni', hids', -, -, -, hreworded, -⟩ := exists_confirmed
  cases hids.symm.trans hids'
  exact Bool.false_ne_true (hreworded.symm.trans hprepared)

theorem not_stores_halted : ¬(Deed.register attempt halted).Stores Suite.standard repeated := by
  rintro ⟨aci, pni, hids, hprepared⟩
  obtain ⟨aci', pni', hids', -, -, -, -, hstopped⟩ := exists_confirmed
  cases hids.symm.trans hids'
  have hnone : answerOf? (prepare Suite.standard halted.now aci pni attempt.enrolment
      (repeated.under halted)) = none := by
    rw [prepare_eq]
    exact answerOf?_bind_of_stopped hstopped _
  rw [hnone] at hprepared
  cases hprepared

theorem sameCore_halted :
    repeated.database.SameCore (attempt.leave Suite.standard repeated halted).database := by
  obtain ⟨aci, pni, hids, haci, hpni, -, -, hstopped⟩ := exists_confirmed
  exact sameCore_leave_of_stopped (by decide +kernel) hids haci hpni hstopped

theorem last_of_retried {before since : List Deed} {a : Attempt} {c : Circumstances}
    (hdeeds : retried = before ++ .register a c :: since)
    (hstores : (Deed.register a c).Stores Suite.standard
      ((Device.fresh entropy).having Suite.standard before))
    (hsince : Throughout Suite.standard (fun d deed => ¬deed.Stores Suite.standard d)
      ((Deed.register a c).leave Suite.standard
        ((Device.fresh entropy).having Suite.standard before)) since) :
    before = [.generate provisioner calm, .register attempt calm] ∧ a = newer ∧ c = atLast ∧
      since = [.register reworded betweenRoles, .register attempt halted] := by
  have hregistered := having_concat Suite.standard (.fresh entropy) [.generate provisioner calm]
    (.register attempt calm)
  have hrenewed := having_concat Suite.standard (.fresh entropy)
    [.generate provisioner calm, .register attempt calm] (.register newer atLast)
  have hrepeated := having_concat Suite.standard (.fresh entropy)
    [.generate provisioner calm, .register attempt calm, .register newer atLast]
    (.register reworded betweenRoles)
  simp only [List.cons_append, List.nil_append] at hregistered hrenewed hrepeated
  rcases before with _ | ⟨first, _ | ⟨second, _ | ⟨third, _ | ⟨fourth, _ | ⟨fifth, rest⟩⟩⟩⟩⟩
  all_goals
    simp only [retried, List.nil_append, List.cons_append, List.cons.injEq, reduceCtorEq,
      Deed.register.injEq, false_and, List.nil_eq, List.append_eq_nil_iff, and_false] at hdeeds
  · obtain ⟨rfl, ⟨rfl, rfl⟩, rfl⟩ := hdeeds
    rw [← hregistered] at hsince
    exact absurd stores_newer hsince.1
  · obtain ⟨rfl, rfl, ⟨rfl, rfl⟩, rfl⟩ := hdeeds
    exact ⟨rfl, rfl, rfl, rfl⟩
  · obtain ⟨rfl, rfl, rfl, ⟨rfl, rfl⟩, -⟩ := hdeeds
    rw [hrenewed] at hstores
    exact absurd hstores not_stores_reworded
  · obtain ⟨rfl, rfl, rfl, rfl, ⟨rfl, rfl⟩, -⟩ := hdeeds
    rw [hrepeated, hrenewed] at hstores
    exact absurd hstores not_stores_halted

end Sample

theorem last_stored_supplies_retried :
    ∃ aci pni id, confirmed Sample.newer.response.confirmation = .ok (aci, pni) ∧
      SuppliesCore Suite.standard aci pni Sample.newer.enrolment id
        ((Device.fresh Sample.entropy).having Suite.standard Sample.retried).database := by
  have hregistered : (Account.isMarked .registered
      ((Device.fresh Sample.entropy).having Suite.standard Sample.retried).database).map Prod.fst =
        .ok true := by
    decide +kernel
  obtain ⟨before, a, c, since, hdeeds, hstores, hsince, aci, pni, id, hids, hsupplies⟩ :=
    last_stored_supplies Sample.fair_retried (answers_isMarked_iff.2 hregistered)
  obtain ⟨rfl, rfl, rfl, rfl⟩ := Sample.last_of_retried hdeeds hstores hsince
  refine ⟨aci, pni, id, hids, hsupplies ⟨Or.inr ?_, Or.inl Sample.sameCore_halted, trivial⟩⟩
  exact ⟨rfl, rfl, fun role => ⟨rfl, rfl, rfl, rfl, rfl⟩⟩

namespace Sample

/--
An account is registered; registering it with other identifiers stops after the first of them.
-/
def torn : List Deed := [.generate provisioner calm, .register attempt calm, .register other full]

theorem fair_torn : ∀ deed ∈ torn, deed.Fair Suite.standard := by
  simp only [torn, List.forall_mem_cons]
  exact ⟨trivial, made_bundles, made_bundles, fun _ h => by cases h⟩

end Sample

/--
An attempt with other inputs that stops halfway leaves an account that is marked as registered, and
that has its identifier from one attempt and its phone number from another.
-/
theorem not_supplied_torn :
    (∀ deed ∈ Sample.torn, deed.Fair Suite.standard) ∧
    ((Device.fresh Sample.entropy).having Suite.standard Sample.torn).database.Answers
      (Account.isMarked .registered) true ∧
    ¬∃ a c aci pni, Deed.register a c ∈ Sample.torn ∧
      confirmed a.response.confirmation = .ok (aci, pni) ∧
      ((Device.fresh Sample.entropy).having Suite.standard Sample.torn).database.Answers
        (Account.serviceId .primary) (some aci) ∧
      ((Device.fresh Sample.entropy).having Suite.standard Sample.torn).database.Answers
        (Account.text .e164) (some a.enrolment.e164) := by
  have hregistered : (Account.isMarked .registered
      ((Device.fresh Sample.entropy).having Suite.standard Sample.torn).database).map Prod.fst =
        .ok true := by
    decide +kernel
  have hphone : (Account.text .e164
      ((Device.fresh Sample.entropy).having Suite.standard Sample.torn).database).map Prod.fst =
        .ok (some Sample.attempt.enrolment.e164) := by
    decide +kernel
  have hid : (Account.serviceId .primary
      ((Device.fresh Sample.entropy).having Suite.standard Sample.torn).database).map Prod.fst =
        (confirmed Sample.other.response.confirmation).map fun ids => some ids.1 := by
    decide +kernel
  refine ⟨Sample.fair_torn, answers_isMarked_iff.2 hregistered, ?_⟩
  rintro ⟨a, c, aci, pni, ha, hids, haci, he164⟩
  rw [haci] at hid
  rw [he164] at hphone
  simp only [Sample.torn, List.mem_cons, Deed.register.injEq, reduceCtorEq, false_or,
    List.not_mem_nil, or_false] at ha
  rcases ha with ⟨rfl, -⟩ | ⟨rfl, -⟩
  · have hdiffer : (confirmed Sample.attempt.response.confirmation).map (fun ids => some ids.1) ≠
        (confirmed Sample.other.response.confirmation).map fun ids => some ids.1 := by
      decide +kernel
    rw [hids] at hdiffer
    exact hdiffer hid
  · have hdiffer : Sample.other.enrolment.e164 ≠ Sample.attempt.enrolment.e164 := by
      decide
    exact hdiffer (Option.some.inj (Except.ok.inj hphone))

end Registrar
