import Registrar.Proofs.Registration.Complete
import Registrar.Registration.Desk

/-!
What the collaborators are told.

They are told once everything is stored, and whatever they do about it the stored data stays as it
is. If one of them brings the attempt down, the others after it are told nothing.
-/

namespace Registrar

open Database Registration

/-- Everything that there is to tell after an attempt, in its order. -/
theorem notices_eq (a : Attempt) :
    a.notices =
      [.cancelNotification,
        .registered a.response.recoveryCredential a.response.pin
          a.response.confirmation.storageCapable a.enableLock,
        .closeConnections, .startObserver] ++
      (match a.response.pin with
        | some pin => if pin = "" then [] else [.pinChanged pin]
        | none => []) ++
      [.enqueue .directoryRefresh, .enqueue .rotateCertificate, .schedule .directoryRefresh,
        .schedule .rotateSignedPrekey] := by
  rw [Attempt.notices, Response.pin?]
  cases a.response.pin with
  | none => rfl
  | some pin => by_cases hpin : pin = "" <;> simp [Option.filter, hpin]

theorem nodup_notices (a : Attempt) : a.notices.Nodup := by
  rw [Attempt.notices]
  cases a.response.pin? <;> simp

section

variable {suite : Suite} {now : Int64} {aci pni : ServiceId} {a : Attempt} {e : Enrolment}
  {d d' : Device}

/-- The mark that makes the account a registered one is stored last. -/
theorem registered_of_store_ok (h : store suite now aci pni e d = .ok () d') :
    d'.database.Answers (Account.isMarked .registered) true := by
  rw [store_eq] at h
  obtain ⟨u, d₁, -, hcommit⟩ := Provisioner.exists_of_bind_eq_ok h
  rcases query_cases Database.failure Account.commitRegistered d₁ with
    ⟨e', -, hask⟩ | ⟨e', -, hask⟩ | ⟨u, db', hquery, hask⟩
  · rw [Device.ask, hask] at hcommit
    cases hcommit
  · rw [Device.ask, hask] at hcommit
    cases hcommit
  · rw [Device.ask, hask] at hcommit
    cases hcommit
    obtain ⟨rfl, hallowed, -⟩ := makes_commitRegistered.ok u db' hquery
    obtain ⟨kv, hkv, -⟩ := hallowed _ (List.mem_singleton_self _)
    rw [after_texts hkv]
    apply answers_isMarked rfl
    rw [Table.find?_writeAll]
    rfl

/-- An attempt whose data is stored goes on with what there is to tell. -/
theorem run_of_store_ok (hids : confirmed a.response.confirmation = .ok (aci, pni))
    (hstore : store suite now aci pni a.enrolment d = .ok () d') (collaborators : Collaborators) :
    run suite collaborators now a d =
      (a.notices.forM (tell collaborators) >>= fun _ => pure a.response) d' := by
  rw [run, hids]
  dsimp only
  rw [act_bind_eq, EStateM.adaptExcept, hstore]

/-- What is still to be told is told while the stored data is as it was. -/
theorem forM_tell_append {collaborators : Collaborators} {before : List Notice}
    (hbefore : Hears collaborators before) (after : List Notice) (d : Device) :
    (before ++ after).forM (tell collaborators) d =
      after.forM (tell collaborators) (d.noted before) := by
  have htold : before.forM (tell collaborators) d = .ok () (d.noted before) := by
    rcases forM_tell_cases collaborators before d with
      ⟨-, htell⟩ | ⟨before', bad, after', message, rfl, -, hbad, -⟩
    · exact htell
    · exact absurd hbefore (not_hears hbad)
  rw [List.forM_eq_forM, List.forM_append, act_bind_eq, ← List.forM_eq_forM, htold]

theorem finish_submit (suite : Suite) (collaborators : Collaborators) (now : Int64) (a : Attempt)
    (d : Device) :
    Desk.finish suite collaborators now 0 (Desk.submit a { device := d }).2 =
      (some (Desk.perform suite collaborators now a d).1,
        { device := (Desk.perform suite collaborators now a d).2 }) := rfl

/--
Once everything is stored the account is a registered one and nobody has been told. Then the
collaborators are told one thing after the other, each while that data is stored. A failure that
one of them reports is passed over; one that panics ends the attempt, and nothing more is told. The
stored data is the same in every case, and the handle gives the server's answer unless somebody
panicked.
-/
theorem told_in_order (hids : confirmed a.response.confirmation = .ok (aci, pni))
    (hstore : store suite now aci pni a.enrolment d = .ok () d') :
    a.notices =
        [.cancelNotification,
          .registered a.response.recoveryCredential a.response.pin
            a.response.confirmation.storageCapable a.enableLock,
          .closeConnections, .startObserver] ++
        (match a.response.pin with
          | some pin => if pin = "" then [] else [.pinChanged pin]
          | none => []) ++
        [.enqueue .directoryRefresh, .enqueue .rotateCertificate, .schedule .directoryRefresh,
          .schedule .rotateSignedPrekey] ∧
    -- So what a collaborator does in one attempt depends on the notice alone.
    a.notices.Nodup ∧
    d'.events = d.events ∧
    d'.database.Answers (Account.isMarked .registered) true ∧
    ∀ collaborators : Collaborators,
      let submitted := Desk.submit a { device := d }
      let ended := Desk.finish suite collaborators now 0 submitted.2
      (∀ before notice after, a.notices = before ++ notice :: after →
        Hears collaborators before → run suite collaborators now a d =
          (tell collaborators notice >>= fun _ => after.forM (tell collaborators) >>= fun _ =>
            pure a.response) (d'.noted before)) ∧
      ((Hears collaborators a.notices ∧
          ended.2.device = d'.noted a.notices ∧
          (submitted.1.poll ended.1).1 = some (.ok a.response)) ∨
        ∃ before notice after message, a.notices = before ++ notice :: after ∧
          Hears collaborators before ∧ collaborators notice = .panics message ∧
          ended.2.device = d'.noted before ∧
          (submitted.1.poll ended.1).1 = some (.error (.unexpected
            ("registration worker failed: task N panicked with message " ++ Text.quote message)))) := by
  have hreached := ((follows_store suite now aci pni a.enrolment d).ok () d' hstore).1
  have hrun := run_of_store_ok hids hstore
  refine ⟨notices_eq a, nodup_notices a, hreached.events, registered_of_store_ok hstore,
    fun collaborators => ⟨fun before notice after hnotices hbefore => ?_, ?_⟩⟩
  · rw [hrun, act_bind_eq, hnotices, forM_tell_append hbefore, ← act_bind_eq]
    exact congrFun (bind_assoc _ _ _) _
  · rw [finish_submit, Desk.perform, hrun, act_bind_eq]
    rcases forM_tell_cases collaborators a.notices d' with
      ⟨hears, htell⟩ | ⟨before, notice, after, message, hnotices, hbefore, hpanics, htell⟩
    · rw [htell]
      exact Or.inl ⟨hears, rfl, rfl⟩
    · rw [htell]
      exact Or.inr ⟨before, notice, after, message, hnotices, hbefore, hpanics, rfl, rfl⟩

end

namespace Sample

/-- An attempt with a PIN. -/
def pinned : Attempt :=
  { attempt with response := { attempt.response with pin := some "1234" } }

/-- The PIN cannot be set up, and what comes every day cannot be scheduled. -/
def failing : Collaborators
  | .pinChanged _ => .fails
  | .schedule .directoryRefresh => .panics "no scheduler"
  | _ => .accepts

end Sample

theorem told_in_order_failing :
    let submitted := Desk.submit Sample.pinned { device := .fresh Sample.entropy }
    let ended := Desk.finish Suite.standard Sample.failing 0 0 submitted.2
    ∃ aci pni d', confirmed Sample.pinned.response.confirmation = .ok (aci, pni) ∧
      store Suite.standard 0 aci pni Sample.pinned.enrolment (.fresh Sample.entropy) = .ok () d' ∧
      d'.database.Answers (Account.isMarked .registered) true ∧
      ∃ before after, Sample.pinned.notices = before ++ .schedule .directoryRefresh :: after ∧
        ended.2.device = d'.noted before ∧
        (submitted.1.poll ended.1).1 = some (.error (.unexpected
          ("registration worker failed: task N panicked with message " ++
            Text.quote "no scheduler"))) := by
  obtain ⟨d₁, hrun⟩ : ∃ d₁, run Suite.standard Sample.accepting 0 Sample.pinned
      (.fresh Sample.entropy) = .ok Sample.pinned.response d₁ :=
    ⟨_, eq_ok_of_answerOf? (by decide +kernel)⟩
  obtain ⟨aci, pni, d', -, hids, hstore, -, -, -⟩ := exists_store_of_run_ok hrun
  obtain ⟨-, -, -, hregistered, htold⟩ := told_in_order hids hstore
  refine ⟨aci, pni, d', hids, hstore, hregistered, ?_⟩
  rcases (htold Sample.failing).2 with
    ⟨hears, -⟩ | ⟨before, notice, after, message, hnotices, -, hpanics, hdevice, houtcome⟩
  · have hmem : Notice.schedule .directoryRefresh ∈ Sample.pinned.notices := by decide
    exact absurd rfl (hears _ hmem "no scheduler")
  · obtain ⟨rfl, rfl⟩ : notice = .schedule .directoryRefresh ∧ message = "no scheduler" := by
      unfold Sample.failing at hpanics
      split at hpanics <;> cases hpanics
      exact ⟨rfl, rfl⟩
    exact ⟨before, after, hnotices, hdevice, houtcome⟩

end Registrar
