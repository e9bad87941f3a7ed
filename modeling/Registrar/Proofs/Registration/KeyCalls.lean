import Registrar.Proofs.Registration.Calls

/-!
The calls of the stores of keys, which are in the database or in memory.

In memory nothing fails, but for a fault or a key that is not there, and the database is left alone.
-/

namespace Registrar

open Database

variable {α σ : Type} {cs : List Change} {d d' : Device} {db : Database} {post : α → Prop}

/-! ### Faults -/

theorem mem_of_meet {call : Call} {faults rest : List Fault} {outcome : Option KeyError}
    (h : Fault.meet call faults = (outcome, rest)) :
    (∀ e, outcome = some e → ∃ f ∈ faults, e = f.error) ∧
      ∀ f ∈ rest, ∃ f' ∈ faults, f.error = f'.error := by
  induction faults generalizing outcome rest with
  | nil =>
    cases h
    exact ⟨(fun e he => by cases he), (fun f hf => by cases hf)⟩
  | cons f fs ih =>
    rcases hmeet : Fault.meet call fs with ⟨outcome', rest'⟩
    obtain ⟨hsome, hrest⟩ := ih hmeet
    have hsome' (e : KeyError) (he : outcome' = some e) : ∃ f' ∈ f :: fs, e = f'.error := by
      obtain ⟨f', hf', rfl⟩ := hsome e he
      exact ⟨f', List.mem_cons_of_mem f hf', rfl⟩
    have hrest' (f' : Fault) (hf' : f' ∈ rest') : ∃ f'' ∈ f :: fs, f'.error = f''.error := by
      obtain ⟨f'', hf'', herror⟩ := hrest f' hf'
      exact ⟨f'', List.mem_cons_of_mem f hf'', herror⟩
    simp only [Fault.meet, hmeet] at h
    split at h
    · split at h
      · cases h
        exact ⟨fun e he => ⟨f, List.mem_cons_self, (Option.some.inj he).symm⟩,
          fun f' hf' => ⟨f', hf', rfl⟩⟩
      · cases h
        refine ⟨hsome', fun f' hf' => ?_⟩
        rcases List.mem_cons.1 hf' with rfl | hf'
        · exact ⟨f, List.mem_cons_self, rfl⟩
        · exact hrest' f' hf'
    · cases h
      refine ⟨hsome', fun f' hf' => ?_⟩
      rcases List.mem_cons.1 hf' with rfl | hf'
      · exact ⟨f', List.mem_cons_self, rfl⟩
      · exact hrest' f' hf'

theorem Reached.of_faults (d : Device) {faults : List Fault}
    (h : ∀ f ∈ faults, ∃ f' ∈ d.faults, f.error = f'.error) :
    Reached [] d { d with faults := faults } where
  memory := rfl
  database := by simp [Device.stored]
  cachedSelf := rfl
  events := rfl
  outages := List.suffix_refl _
  faults := h

theorem allow_bind_of_faults_eq_nil (hfaults : d.faults = []) (call : Call)
    (f : Unit → Act KeyError α) : (Device.allow call >>= f) d = f () d := by
  obtain ⟨database, memory, cachedSelf, faults, outages, entropy, events⟩ := d
  obtain rfl : faults = [] := hfaults
  rfl

namespace Follows

theorem allow (call : Call) (d : Device) : Follows id [] d (Device.allow call) fun _ => True := by
  rcases hmeet : Fault.meet call d.faults with ⟨outcome, rest⟩
  obtain ⟨hsome, hrest⟩ := mem_of_meet hmeet
  cases outcome with
  | some e =>
    have hallow : Device.allow call d = .error e { d with faults := rest } := by
      rw [Device.allow, hmeet]
    refine ⟨fun a d' h => ?_, fun e' d' h => ?_, fun hcalm _ _ => ?_⟩
    · rw [hallow] at h
      cases h
    · rw [hallow] at h
      cases h
      exact ⟨⟨[], List.nil_prefix, Reached.of_faults d hrest⟩, _, rfl, Or.inr (hsome _ rfl)⟩
    · rw [hcalm.faults] at hmeet
      cases hmeet
  | none =>
    have hallow : Device.allow call d = .ok () { d with faults := rest } := by
      rw [Device.allow, hmeet]
    refine ⟨fun a d' h => ?_, fun e' d' h => ?_, fun _ _ _ => ⟨(), _, hallow⟩⟩
    · rw [hallow] at h
      cases h
      exact ⟨Reached.of_faults d hrest, (fun c hc => by simp [Device.stored] at hc), trivial⟩
    · rw [hallow] at h
      cases h

theorem onMemory {m : MemoryStores} {part : σ} {put : σ → MemoryStores → MemoryStores}
    {x : StateT σ (Except KeyError) α} (hm : d.memory = some m)
    (hkeys : cs.any Change.beyondKeys = false)
    (herror : ∀ e, x part = .error e → ∃ detail, e = .storage detail) (hpost : ∀ a, post a) :
    Follows id cs d (Device.onMemory m part put x) post := by
  have hnone : ∀ c ∈ cs, c.beyondKeys = false := by simpa using hkeys
  have hstored : d.stored cs = [] := by
    rw [Device.stored, hm, List.filter_eq_nil_iff]
    intro c hc
    simp [hnone c hc]
  have hforgets : cs.any Change.forgets = false := by
    rw [List.any_eq_false]
    intro c hc hforget
    have hbeyond := hnone c hc
    cases c <;> simp_all [Change.beyondKeys]
  refine ⟨fun a d' h => ?_, fun e d' h => ?_, fun hcalm _ _ => ?_⟩
  · rw [Device.onMemory] at h
    cases hx : x part with
    | error e =>
      rw [hx] at h
      cases h
    | ok result =>
      rw [hx] at h
      cases h
      refine ⟨⟨by simp [hm], by simp [hstored], by simp [hforgets], rfl, List.suffix_refl _,
        fun f hf => ⟨f, hf, rfl⟩⟩, ?_, hpost _⟩
      intro c hc
      rw [hstored] at hc
      cases hc
  · rw [Device.onMemory] at h
    cases hx : x part with
    | error e' =>
      rw [hx] at h
      cases h
      exact ⟨⟨[], List.nil_prefix, Reached.refl _⟩, e, rfl, Or.inl (herror e hx)⟩
    | ok result =>
      rw [hx] at h
      cases h
  · rw [hcalm.memory] at hm
    cases hm

/-- A call that goes to the database or to the memory. -/
theorem call {call : Call} {q : Query KeyError α} {onMemory : MemoryStores → Act KeyError α}
    (hdatabase : d.memory = none → Makes id cs d.database q post)
    (hforgets : cs.any Change.forgets = false)
    (hmemory : ∀ d' m, d.memory ≠ none → d'.memory = some m → Follows id cs d' (onMemory m) post) :
    Follows id cs d
      (do
        Device.allow call
        match (← get).memory with
        | none => Device.query KeyError.ofDatabase q
        | some m => onMemory m) post := by
  refine (allow call d).bind fun _ d' _ hreached _ => ?_
  have hdb : d'.database = d.database := by simpa [Device.stored] using hreached.database
  have hget : (do
      match (← get).memory with
      | none => Device.query KeyError.ofDatabase q
      | some m => onMemory m : Act KeyError α) d' = (match d'.memory with
        | none => Device.query KeyError.ofDatabase q
        | some m => onMemory m) d' := rfl
  have hfollows : Follows id cs d' (match d'.memory with
      | none => Device.query KeyError.ofDatabase q
      | some m => onMemory m) post := by
    cases hm : d'.memory with
    | none =>
      have hm' : d.memory = none := by simpa [hm] using hreached.memory.symm
      exact query (stored_of_memory_eq_none hm cs) hforgets (fun _ => rfl) (hdb ▸ hdatabase hm')
    | some m =>
      have hm' : d.memory ≠ none := by
        intro hnone
        have := hreached.memory
        simp [hm, hnone] at this
      exact hmemory d' m hm' hm
  exact ⟨fun a d'' h => hfollows.ok a d'' (hget ▸ h), fun e d'' h => hfollows.error e d'' (hget ▸ h),
    fun hcalm hsound hallows => hget ▸ hfollows.calm hcalm hsound hallows⟩

end Follows

theorem exists_storage_of_answer {r : KeyStore.Request} {m : MemoryKeys} {e : KeyError}
    (h : MemoryKeys.answer r m = .error e) : ∃ detail, e = .storage detail := by
  cases r with
  | ownIdentity =>
    simp only [MemoryKeys.answer] at h
    split at h
    · cases h
    · cases h
      exact ⟨_, rfl⟩
  | _ => cases h

namespace Follows

theorem keys {role : Role} {r : KeyStore.Request} {post : r.Reply → Prop}
    (hkeys : cs.any Change.beyondKeys = false) (hforgets : cs.any Change.forgets = false)
    (hdatabase : d.memory = none → Makes id cs d.database (answerKeys role r) post)
    (hmemory : d.memory ≠ none → ∀ a, post a) : Follows id cs d (Device.keys role r) post :=
  call hdatabase hforgets fun _ _ hm hm' =>
    onMemory hm' hkeys (fun _ => exists_storage_of_answer) (hmemory hm)

end Follows

theorem reached_of_allow (call : Call) (d : Device) : Reached [] d (endOf (Device.allow call d)) := by
  obtain ⟨done, hdone, hreached⟩ := (Follows.allow call d).exists_done
  rwa [List.prefix_nil.1 hdone] at hreached

/-- A call that fails has no effect. -/
theorem reached_of_keys_error {role : Role} {r : KeyStore.Request} {e : KeyError}
    (h : Device.keys role r d = .error e d') : Reached [] d d' := by
  have hallow := reached_of_allow (.keys role r) d
  rw [Device.keys, act_bind_eq] at h
  cases hd : Device.allow (.keys role r) d with
  | error e' d₁ =>
    rw [hd] at h hallow
    cases h
    exact hallow
  | ok u d₁ =>
    rw [hd] at h hallow
    dsimp only at h
    rw [act_get_bind_eq] at h
    cases hm : d₁.memory with
    | none =>
      rw [hm] at h
      exact hallow.trans (reached_of_query_error h)
    | some m =>
      rw [hm] at h
      dsimp only [Device.onMemory] at h
      split at h
      · cases h
      · cases h
        exact hallow

/-- A call of a store in the database fails and has no effect, or the database answers it. -/
theorem keys_cases (hmemory : d.memory = none) (role : Role) (r : KeyStore.Request) :
    (∃ e d', Device.keys role r d = .error e d' ∧ Reached [] d d') ∨
      ∃ a d', Device.keys role r d = .ok a d' ∧ d'.memory = none ∧
        answerKeys role r d.database = .ok (a, d'.database) := by
  cases h : Device.keys role r d with
  | error e d' => exact Or.inl ⟨e, d', rfl, reached_of_keys_error h⟩
  | ok a d' =>
    have hallow := reached_of_allow (.keys role r) d
    rw [Device.keys, act_bind_eq] at h
    cases hd : Device.allow (.keys role r) d with
    | error e d₁ =>
      rw [hd] at h
      cases h
    | ok u d₁ =>
      rw [hd] at h hallow
      change Reached [] d d₁ at hallow
      have hmemory₁ : d₁.memory = none := by simpa [hmemory] using hallow.memory
      have hdatabase : d₁.database = d.database := by simpa [Device.stored] using hallow.database
      dsimp only at h
      rw [act_get_bind_eq, hmemory₁] at h
      dsimp only at h
      rcases query_cases KeyError.ofDatabase (answerKeys role r) d₁ with
        ⟨e, -, heq⟩ | ⟨e, -, heq⟩ | ⟨a', db', hanswer, heq⟩
      · cases heq.symm.trans h
      · cases heq.symm.trans h
      · cases heq.symm.trans h
        exact Or.inr ⟨_, _, rfl, hmemory₁, hdatabase ▸ hanswer⟩

/-! ### Stores of keys in the database -/

theorem makes_modify {τ : Type} {c : Change} (name : TableName) (table : Database → Option τ)
    (put : τ → Database → Database) (hallowed : c.Allowed db ↔ (table db).isSome)
    (hput : ∀ t, table db = some t → put t db = db.after [c]) :
    Makes id [c] db
      (do
        let t ← needKeys name (table (← get))
        modify fun db => put t db) fun _ => True := by
  let q : Query KeyError PUnit := do
    let t ← needKeys name (table (← get))
    modify fun db => put t db
  have hnone (ht : table db = none) :
      q db = .error (KeyError.ofDatabase (.noSuchTable name.name)) := by
    simp only [q, Query.bind_apply, Query.get_apply, needKeys, Query.mapError, Query.need_apply, ht]
    rfl
  have hsome (t : τ) (ht : table db = some t) : q db = .ok ((), put t db) := by
    simp only [q, Query.bind_apply, Query.get_apply, needKeys, Query.mapError, Query.need_apply, ht]
    rfl
  refine ⟨fun a db' h => ?_, fun e h => ?_, fun _ h => ?_⟩
  · cases ht : table db with
    | none => cases (hnone ht).symm.trans h
    | some t =>
      cases (hsome t ht).symm.trans h
      exact ⟨hput t ht, List.forall_mem_singleton.2 (hallowed.2 (by simp [ht])), trivial⟩
  · cases ht : table db with
    | none =>
      cases (hnone ht).symm.trans h
      exact ⟨_, rfl⟩
    | some t => cases (hsome t ht).symm.trans h
  · obtain ⟨t, ht⟩ := Option.isSome_iff_exists.1 (hallowed.1 (List.forall_mem_singleton.1 h))
    exact ⟨(), put t db, hsome t ht⟩

theorem follows_setOwnIdentity (role : Role) (key : IdentityKey) (d : Device) :
    Follows id [.ownIdentity role key] d (Device.keys role (.setOwnIdentity key)) fun _ => True := by
  refine Follows.keys rfl rfl (fun _ => ?_) fun _ _ => trivial
  exact makes_modify .ownIdentities Database.ownIdentities
    (fun t db => { db with ownIdentities := some (t.insert role key.secret) }) Iff.rfl
    fun t ht => by simp [after, ht, Table.writeAll, Table.write]

theorem follows_storeSigned (role : Role) (key : SignedPrekey) (d : Device) :
    Follows id [.signed role key] d (Device.keys role (.storeSigned key)) fun _ => True := by
  refine Follows.keys rfl rfl (fun _ => ?_) fun _ _ => trivial
  exact makes_modify .signed Database.signed
    (fun t db => { db with signed := some (t.insert (role, key.id) (Json.encode key)) }) Iff.rfl
    fun t ht => by simp [after, ht, Table.writeAll, Table.write]

theorem follows_storeOneTime (role : Role) (key : OneTimePrekey) (d : Device) :
    Follows id [.oneTime role key] d (Device.keys role (.storeOneTime key)) fun _ => True := by
  refine Follows.keys rfl rfl (fun _ => ?_) fun _ _ => trivial
  exact makes_modify .oneTime Database.oneTime
    (fun t db => { db with oneTime := some (t.insert (role, key.id) (Json.encode key)) }) Iff.rfl
    fun t ht => by simp [after, ht, Table.writeAll, Table.write]

theorem follows_storeKyber (role : Role) (key : KyberPrekey) (lastResort : Bool) (d : Device) :
    Follows id [.kyber role key lastResort] d (Device.keys role (.storeKyber key lastResort))
      fun _ => True := by
  refine Follows.keys rfl rfl (fun _ => ?_) fun _ _ => trivial
  exact makes_modify .kyber Database.kyber
    (fun t db =>
      { db with kyber := some (t.insert (role, key.id) ⟨Json.encode key, flag lastResort⟩) })
    Iff.rfl fun t ht => by simp [after, ht, Table.writeAll, Table.write]

theorem follows_archiveSessions (role : Role) (d : Device) :
    Follows id [.archive role] d (Device.keys role .archiveSessions) fun _ => True := by
  refine Follows.keys rfl rfl (fun _ => ?_) fun _ _ => trivial
  exact makes_modify .sessions Database.sessions
    (fun t db =>
      { db with
        sessions := some (t.mapRows fun k row =>
          if k.1 = role then row.ended else row) })
    Iff.rfl fun t ht => by simp [after, ht, endSessions]

/-- The identity of a role is saved. In memory it may be any, since the database does not tell. -/
theorem follows_saveIdentity (role : Role) (address : String) {record record' : IdentityRecord}
    (hrecord : d.memory = none → record' = record) :
    Follows id [.identity role address record] d (Device.keys role (.saveIdentity address record'))
      fun _ => True := by
  refine Follows.keys rfl rfl (fun hm => ?_) fun _ _ => trivial
  obtain rfl := hrecord hm
  exact makes_modify .identities Database.identities
    (fun t db =>
      { db with identities := some (t.insert (role, address) (IdentityRow.ofRecord record')) })
    Iff.rfl fun t ht => by simp [after, ht, Table.writeAll, Table.write]

/-- Our own identity is read as it was stored. -/
theorem follows_ownIdentity (role : Role) (key : IdentityKey)
    (hown : d.memory = none →
      ∃ t, d.database.ownIdentities = some t ∧ t.find? role = some key.secret) :
    Follows id [] d (Device.keys role .ownIdentity) fun own => d.memory = none → own = key := by
  refine Follows.keys rfl rfl (fun hm => ?_) fun hm _ hm' => absurd hm' hm
  obtain ⟨t, ht, hkey⟩ := hown hm
  have hrun : answerKeys role .ownIdentity d.database = .ok (key, d.database) := by
    have hneed : needKeys .ownIdentities (some t) d.database = .ok (t, d.database) := rfl
    simp [answerKeys, ht, hneed, hkey, IdentityKey.ofSecret, key.length_secret, Except.map]
  refine ⟨fun a db' h => ?_, fun e h => ?_, fun _ _ => ⟨key, _, hrun⟩⟩
  · rw [hrun] at h
    cases h
    exact ⟨(after_nil _).symm, (fun c hc => by cases hc), fun _ => rfl⟩
  · rw [hrun] at h
    cases h

theorem follows_clearSenderKeys (d : Device) :
    Follows id [.clearSenderKeys] d (Device.senderKeys .clear) fun _ => True := by
  refine Follows.call (fun _ => ?_) rfl fun _ _ _ hm =>
    Follows.onMemory hm rfl (fun e h => by cases h) fun _ => trivial
  exact makes_modify .senderKeys Database.senderKeys
    (fun _ db => { db with senderKeys := some ∅ }) Iff.rfl fun t ht => by simp [after, ht]

/-! ### The ledgers -/

theorem makes_ledger (role : Role) (name value : String) :
    Makes id [.ledger role name value] db
      ((writeText (ledgerKey role name) (some value)).mapError KeyError.ofDatabase)
      fun _ => True := by
  have h : Makes id [.texts [(ledgerKey role name, some value)]] db
      ((writeText (ledgerKey role name) (some value)).mapError KeyError.ofDatabase)
      fun _ => True :=
    makes_writeText _ _ ofDatabase_eq
  have hallowed : (∀ c ∈ [Change.ledger role name value], c.Allowed db) ↔
      ∀ c ∈ [Change.texts [(ledgerKey role name, some value)]], c.Allowed db := by
    simp [Change.Allowed]
  refine ⟨fun a db' hq => ?_, h.error, fun hsound hc => h.calm hsound (hallowed.1 hc)⟩
  obtain ⟨hafter, hc, -⟩ := h.ok a db' hq
  exact ⟨hafter, hallowed.2 hc, trivial⟩

theorem follows_setPointer (role : Role) (p : Ledger.Pointer) (n : UInt32) (d : Device) :
    Follows id [.ledger role (pointerName p) (Text.numeral n)] d
      (Device.ledger role (.setPointer p n)) fun _ => True :=
  Follows.call (fun _ => makes_ledger role (pointerName p) (Text.numeral n)) rfl fun _ _ _ hm =>
    Follows.onMemory hm rfl (fun e h => by cases h) fun _ => trivial

theorem follows_setRegistered (role : Role) (value : Bool) (d : Device) :
    Follows id [.ledger role "signed_registered" (boolText value)] d
      (Device.ledger role (.setRegistered value)) fun _ => True :=
  Follows.call (fun _ => makes_ledger role "signed_registered" (boolText value)) rfl
    fun _ _ _ hm => Follows.onMemory hm rfl (fun e h => by cases h) fun _ => trivial

end Registrar
