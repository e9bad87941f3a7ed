import Registrar.Proofs.Database.Query
import Registrar.Proofs.Registration.Follows

/-!
The calls of a registration, each with the changes that it makes.
-/

namespace Registrar

open Database

/-- A query that makes some changes, or fails because the storage does. -/
structure Makes {ε α : Type} (lift : KeyError → ε) (cs : List Change) (db : Database)
    (q : Query ε α) (post : α → Prop) : Prop where
  ok : ∀ a db', q db = .ok (a, db') → db' = db.after cs ∧ (∀ c ∈ cs, c.Allowed db) ∧ post a
  error : ∀ e, q db = .error e → ∃ detail, e = lift (.storage detail)
  calm : db.Sound → (∀ c ∈ cs, c.Allowed db) → ∃ a db', q db = .ok (a, db')

variable {ε α : Type} {lift : KeyError → ε} {cs : List Change} {d : Device} {db : Database}
  {post : α → Prop}

/-! ### Calls of the database -/

theorem Reached.of_query (hstored : d.stored cs = cs) (hforgets : cs.any Change.forgets = false)
    {rest : List (Option DatabaseError)} (hrest : rest <:+ d.outages) :
    Reached cs d { d with outages := rest, database := d.database.after cs } where
  memory := rfl
  database := by rw [hstored]
  cachedSelf := by simp [hforgets]
  events := rfl
  outages := hrest
  faults f hf := ⟨f, hf, rfl⟩

theorem Reached.of_outages (d : Device) {rest : List (Option DatabaseError)}
    (hrest : rest <:+ d.outages) : Reached [] d { d with outages := rest } := by
  have h : Reached [] d { d with outages := rest, database := d.database.after [] } :=
    Reached.of_query rfl rfl hrest
  rwa [after_nil] at h

theorem query_cases (report : DatabaseError → ε) (q : Query ε α) (d : Device) :
    (∃ e, some e ∈ d.outages ∧
        Device.query report q d = .error (report e) { d with outages := d.outages.tail }) ∨
      (∃ e, q d.database = .error e ∧
        Device.query report q d = .error e { d with outages := d.outages.tail }) ∨
      ∃ a database, q d.database = .ok (a, database) ∧
        Device.query report q d =
          .ok a { d with outages := d.outages.tail, database := database } := by
  unfold Device.query
  split
  · rename_i e rest houtages
    refine Or.inl ⟨e, ?_, ?_⟩
    · rw [houtages]
      exact List.mem_cons_self
    · rw [houtages]
      rfl
  · cases hq : q d.database with
    | error e => exact Or.inr (Or.inl ⟨e, rfl, by simp only [hq]⟩)
    | ok result => exact Or.inr (Or.inr ⟨result.1, result.2, rfl, by simp only [hq]⟩)

/-- The next call of the database is not made to fail. -/
def Device.Answers (d : Device) : Prop := ∀ e, d.outages.head? ≠ some (some e)

theorem answers_of_outages (h : ∀ o ∈ d.outages, o = none) : d.Answers := by
  intro e he
  cases h _ (List.mem_of_mem_head? he)

theorem Device.Answers.query_eq (h : d.Answers) (report : DatabaseError → ε) (q : Query ε α) :
    Device.query report q d = match q d.database with
      | .ok (a, database) => .ok a { d with outages := d.outages.tail, database := database }
      | .error e => .error e { d with outages := d.outages.tail } := by
  unfold Device.query
  split
  · rename_i e rest houtages
    exact absurd (congrArg List.head? houtages) (h e)
  · cases hq : q d.database with
    | error e => simp only [hq]
    | ok result => simp only [hq]

theorem ask_eq_ok {q : Query Failure α} {a : α} {db' : Database} (houtages : d.outages = [])
    (h : q d.database = .ok (a, db')) : Device.ask q d = .ok a { d with database := db' } := by
  cases d
  cases houtages
  rw [Device.ask, Device.query]
  dsimp only at h ⊢
  rw [h]
  rfl

theorem ask_eq_error {q : Query Failure α} {e : Failure} (houtages : d.outages = [])
    (h : q d.database = .error e) : Device.ask q d = .error e d := by
  cases d
  cases houtages
  rw [Device.ask, Device.query]
  dsimp only at h ⊢
  rw [h]
  rfl

theorem answer_of_ask {q : Query Failure α} {a : α} {d' : Device} (h : Device.ask q d = .ok a d') :
    q d.database = .ok (a, d'.database) := by
  rcases query_cases failure q d with ⟨e, -, hask⟩ | ⟨e, -, hask⟩ | ⟨a', db', hanswer, hask⟩
  · cases hask.symm.trans h
  · cases hask.symm.trans h
  · cases hask.symm.trans h
    exact hanswer

/-- A question that fails changes nothing, whether or not it was the storage that failed. -/
theorem eq_of_ask_eq_error {q : Query Failure α} {e : Failure} {d' : Device}
    (h : Device.ask q d = .error e d') :
    d'.database = d.database ∧ ((∃ cause, e = failure cause) ∨ q d.database = .error e) := by
  rcases query_cases failure q d with ⟨cause, -, hask⟩ | ⟨e', hanswer, hask⟩ | ⟨a, db', -, hask⟩
  · cases hask.symm.trans h
    exact ⟨rfl, Or.inl ⟨cause, rfl⟩⟩
  · cases hask.symm.trans h
    exact ⟨rfl, Or.inr hanswer⟩
  · cases hask.symm.trans h

theorem Follows.query {report : DatabaseError → ε} {q : Query ε α} (hstored : d.stored cs = cs)
    (hforgets : cs.any Change.forgets = false)
    (hreport : ∀ e, report e = lift (.storage e.message)) (h : Makes lift cs d.database q post) :
    Follows lift cs d (Device.query report q) post where
  ok a d' hx := by
    rcases query_cases report q d with ⟨e, -, heq⟩ | ⟨e, -, heq⟩ | ⟨a', database, hq, heq⟩
    · rw [heq] at hx
      cases hx
    · rw [heq] at hx
      cases hx
    · rw [heq] at hx
      cases hx
      obtain ⟨rfl, hallowed, ha⟩ := h.ok a database hq
      exact ⟨Reached.of_query hstored hforgets (List.tail_suffix _), by rwa [Allows, hstored], ha⟩
  error e d' hx := by
    have hdone : ∃ done, done <+: cs ∧ Reached done d { d with outages := d.outages.tail } :=
      ⟨[], List.nil_prefix, Reached.of_outages d (List.tail_suffix _)⟩
    rcases query_cases report q d with ⟨e', -, heq⟩ | ⟨e', hq, heq⟩ | ⟨a, database, -, heq⟩
    · rw [heq] at hx
      cases hx
      exact ⟨hdone, _, hreport e', Or.inl ⟨_, rfl⟩⟩
    · rw [heq] at hx
      cases hx
      obtain ⟨detail, rfl⟩ := h.error _ hq
      exact ⟨hdone, _, rfl, Or.inl ⟨detail, rfl⟩⟩
    · rw [heq] at hx
      cases hx
  calm hcalm hsound hallows := by
    rw [Allows, hstored] at hallows
    obtain ⟨a, db', hq⟩ := h.calm hsound hallows
    rcases query_cases report q d with ⟨e, he, -⟩ | ⟨e, herror, -⟩ | ⟨a', database, -, heq⟩
    · cases hcalm.outages _ he
    · rw [herror] at hq
      cases hq
    · rw [heq]
      exact ⟨a', _, rfl⟩

theorem reached_of_query_error {report : DatabaseError → ε} {q : Query ε α} {e : ε} {d' : Device}
    (h : Device.query report q d = .error e d') : Reached [] d d' := by
  rcases query_cases report q d with ⟨e', -, heq⟩ | ⟨e', -, heq⟩ | ⟨a, database, -, heq⟩
  · rw [heq] at h
    cases h
    exact Reached.of_outages d (List.tail_suffix _)
  · rw [heq] at h
    cases h
    exact Reached.of_outages d (List.tail_suffix _)
  · rw [heq] at h
    cases h

/-! ### Queries are put together -/

namespace Makes

theorem mapError {q : Query DatabaseError α} {report : DatabaseError → ε}
    (hreport : ∀ e, ∃ detail, report e = lift (.storage detail))
    (hok : ∀ a db', q db = .ok (a, db') → db' = db.after cs ∧ (∀ c ∈ cs, c.Allowed db) ∧ post a)
    (hcalm : db.Sound → (∀ c ∈ cs, c.Allowed db) → ∃ a db', q db = .ok (a, db')) :
    Makes lift cs db (q.mapError report) post where
  ok a db' h := hok a db' (Query.mapError_eq_ok.1 h)
  error e h := by
    obtain ⟨e', -, rfl⟩ := Query.mapError_eq_error.1 h
    exact hreport e'
  calm hsound hallowed := by
    obtain ⟨a, db', h⟩ := hcalm hsound hallowed
    exact ⟨a, db', Query.mapError_eq_ok.2 h⟩

theorem bind {β : Type} {q : Query ε α} {f : α → Query ε β} {cs' : List Change} {post' : β → Prop}
    (hq : Makes lift cs db q post)
    (hf : ∀ a, post a → Makes lift cs' (db.after cs) (f a) post') :
    Makes lift (cs ++ cs') db (q >>= f) post' := by
  refine ⟨fun b db'' h => ?_, fun e h => ?_, fun hsound hallowed => ?_⟩
  · rw [Query.bind_apply] at h
    cases hqdb : q db with
    | error e =>
      rw [hqdb] at h
      cases h
    | ok result =>
      obtain ⟨a, db'⟩ := result
      rw [hqdb] at h
      obtain ⟨rfl, hallowed, ha⟩ := hq.ok a db' hqdb
      obtain ⟨rfl, hallowed', hb⟩ := (hf a ha).ok b db'' h
      refine ⟨(after_append db cs cs').symm, List.forall_mem_append.2 ⟨hallowed, ?_⟩, hb⟩
      exact fun c hc => allowed_after.1 (hallowed' c hc)
  · rw [Query.bind_apply] at h
    cases hqdb : q db with
    | error e' =>
      rw [hqdb] at h
      cases h
      exact hq.error _ hqdb
    | ok result =>
      obtain ⟨a, db'⟩ := result
      rw [hqdb] at h
      obtain ⟨rfl, -, ha⟩ := hq.ok a db' hqdb
      exact (hf a ha).error e h
  · obtain ⟨hallowed, hallowed'⟩ := List.forall_mem_append.1 hallowed
    obtain ⟨a, db', hqdb⟩ := hq.calm hsound hallowed
    obtain ⟨rfl, -, ha⟩ := hq.ok a db' hqdb
    rw [Query.bind_apply, hqdb]
    exact (hf a ha).calm (hsound.after cs) fun c hc => allowed_after.2 (hallowed' c hc)

end Makes

/-! ### Texts -/

theorem after_texts {db : Database} {kv : KeyValues} (hkv : db.keyValues = some kv)
    (ws : List (String × Option String)) :
    db.after [.texts ws] =
      { db with keyValues := some { kv with values := kv.values.writeAll ws } } := by
  simp [after, hkv]

theorem writeText_eq (key : String) (value : Option String) (db : Database) :
    writeText key value db = match db.keyValues with
      | none => .error (.noSuchTable TableName.keyValues.name)
      | some kv =>
        if value.isSome ∧ key ∈ kv.refused then .error .diskFull
        else .ok ((), db.after [.texts [(key, value)]]) := by
  cases hkv : db.keyValues with
  | none => simp [writeText, hkv]
  | some kv =>
    cases value with
    | none => simp [writeText, hkv, after_texts, Table.writeAll, Table.write]
    | some text =>
      by_cases hkey : key ∈ kv.refused
      · simp [writeText, hkv, hkey]
      · simp [writeText, hkv, hkey, after_texts, Table.writeAll, Table.write]

theorem eq_of_writeText {db' : Database} {key : String} {value : Option String} {u : Unit}
    (h : writeText key value db = .ok (u, db')) : db' = db.after [.texts [(key, value)]] := by
  rw [writeText_eq] at h
  split at h
  · cases h
  · split at h
    · cases h
    · cases h
      rfl

theorem makes_writeText (key : String) (value : Option String) {report : DatabaseError → ε}
    (hreport : ∀ e, ∃ detail, report e = lift (.storage detail)) :
    Makes lift [.texts [(key, value)]] db ((writeText key value).mapError report) fun _ => True := by
  apply Makes.mapError hreport
  · intro a db' h
    rw [writeText_eq] at h
    cases hkv : db.keyValues with
    | none => simp [hkv] at h
    | some kv =>
      simp only [hkv] at h
      split at h
      · cases h
      · rename_i hfree
        cases h
        refine ⟨rfl, List.forall_mem_singleton.2 ⟨kv, hkv, ?_⟩, trivial⟩
        exact List.forall_mem_singleton.2 fun hsome hkey => hfree ⟨hsome, hkey⟩
  · intro _ hallowed
    obtain ⟨kv, hkv, hfree⟩ := List.forall_mem_singleton.1 hallowed
    have hfree := List.forall_mem_singleton.1 hfree
    refine ⟨(), db.after [.texts [(key, value)]], ?_⟩
    rw [writeText_eq, hkv]
    exact if_neg fun h => hfree h.1 h.2

theorem after_texts_append (db : Database) (ws ws' : List (String × Option String)) :
    db.after ([.texts ws] ++ [.texts ws']) = db.after [.texts (ws ++ ws')] := by
  simp [after]

theorem takes_append {ws ws' : List (String × Option String)} :
    db.Takes (ws ++ ws') ↔ db.Takes ws ∧ db.Takes ws' := by
  cases hkv : db.keyValues with
  | none => simp [Takes, hkv]
  | some kv => simp [Takes, hkv, or_imp, forall_and]

/-- Texts that are written by one query after another are written together. -/
theorem Makes.bindTexts {β : Type} {q : Query ε α} {f : α → Query ε β} {post' : β → Prop}
    {ws ws' : List (String × Option String)} (hq : Makes lift [.texts ws] db q post)
    (hf : ∀ a, post a → Makes lift [.texts ws'] (db.after [.texts ws]) (f a) post') :
    Makes lift [.texts (ws ++ ws')] db (q >>= f) post' := by
  have hboth := hq.bind hf
  have hallowed : (∀ c ∈ [Change.texts ws] ++ [.texts ws'], c.Allowed db) ↔
      ∀ c ∈ [Change.texts (ws ++ ws')], c.Allowed db := by
    simp [Change.Allowed, takes_append]
  refine ⟨fun b db' h => ?_, hboth.error, fun hsound h => hboth.calm hsound (hallowed.2 h)⟩
  obtain ⟨rfl, h, hb⟩ := hboth.ok b db' h
  exact ⟨after_texts_append db ws ws', hallowed.1 h, hb⟩

theorem ofDatabase_eq (e : DatabaseError) :
    ∃ detail, KeyError.ofDatabase e = id (KeyError.storage detail) :=
  ⟨_, rfl⟩

theorem failure_eq (e : DatabaseError) :
    ∃ detail, Database.failure e = Failure.ofKeyError (.storage detail) :=
  ⟨_, rfl⟩

theorem Follows.ask {q : Query Failure α} (hstored : cs.all Change.beyondKeys = true)
    (hforgets : cs.any Change.forgets = false)
    (h : Makes Failure.ofKeyError cs d.database q post) :
    Follows Failure.ofKeyError cs d (Device.ask q) post := by
  refine Follows.query ?_ hforgets (fun _ => rfl) h
  rw [Device.stored, List.filter_eq_self]
  intro c hc
  rw [List.all_eq_true.1 hstored c hc, Bool.or_true]

theorem follows_setText (entry : Account.Entry) (value : Option String) (d : Device) :
    Follows Failure.ofKeyError [.texts [(entry.key, value)]] d
      (Device.ask (Account.setText entry value)) fun _ => True :=
  Follows.ask rfl rfl (makes_writeText _ _ failure_eq)

theorem follows_setMarked (entry : Account.Entry) (value : Bool) (d : Device) :
    Follows Failure.ofKeyError [.texts [(entry.key, some (boolText value))]] d
      (Device.ask (Account.setMarked entry value)) fun _ => True :=
  Follows.ask rfl rfl (makes_writeText _ _ failure_eq)

theorem follows_setServiceId (id : ServiceId) (d : Device) :
    Follows Failure.ofKeyError [.texts [((Account.Entry.serviceId id.role).key, some id.toString)]] d
      (Device.ask (Account.setServiceId id)) fun _ => True :=
  Follows.ask rfl rfl (makes_writeText _ _ failure_eq)

/-- The marks of an account that has been registered. -/
def commitTexts : List (String × Option String) :=
  [(Account.Entry.promptedPush.key, some (boolText true)),
    (Account.Entry.unauthorized.key, some (boolText false)),
    (Account.Entry.needsReregistration.key, some (boolText false)),
    (Account.Entry.registered.key, some (boolText true))]

theorem makes_commitRegistered :
    Makes Failure.ofKeyError [.texts commitTexts] db Account.commitRegistered fun _ => True :=
  (makes_writeText _ _ failure_eq).bindTexts fun _ _ =>
    (makes_writeText _ _ failure_eq).bindTexts fun _ _ =>
      (makes_writeText _ _ failure_eq).bindTexts fun _ _ => makes_writeText _ _ failure_eq

theorem follows_commitRegistered (d : Device) :
    Follows Failure.ofKeyError [.texts commitTexts] d (Device.ask Account.commitRegistered)
      fun _ => True :=
  Follows.ask rfl rfl makes_commitRegistered

end Registrar
