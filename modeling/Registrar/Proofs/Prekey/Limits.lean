import Registrar.Proofs.Prekey.Drawing
import Registrar.Proofs.Prekey.Refinement

/-!
Making bundles until the ids run out.

Where the counters can be read and written and no call is made to fail, ids that run out are all
that can end the work. The counters have then moved on by the batches that were made before, and
nothing else of the ledgers has changed.
-/

namespace Registrar

open Database

/-! ### How many ids are taken -/

namespace Batch

/-- How many ids of a space some batches take for a role. -/
def taken (sizes : BatchSizes) (role : Role) (space : Ledger.Space)
    (batches : List (Role × Batch)) : Nat :=
  (batches.map fun b =>
    if b.1 = role ∧ b.2.space = space then (b.2.count sizes).toNat else 0).sum

variable {sizes : BatchSizes} {role other : Role} {space : Ledger.Space}

theorem taken_singleton (role : Role) (batch : Batch) (other : Role) (space : Ledger.Space) :
    taken sizes other space [(role, batch)] =
      if role = other ∧ batch.space = space then (batch.count sizes).toNat else 0 := by
  simp [taken]

theorem taken_append (batches batches' : List (Role × Batch)) :
    taken sizes role space (batches ++ batches') =
      taken sizes role space batches + taken sizes role space batches' := by
  simp [taken]

/-- How many ids of a space one bundle needs. -/
def needed (sizes : BatchSizes) : Ledger.Space → Nat
  | .signed => 1
  | .oneTime => sizes.oneTime.toNat
  | .kyber => 1 + sizes.kyber.toNat

theorem taken_requests (sizes : BatchSizes) (role : Role) (space : Ledger.Space) :
    taken sizes role space (requests [role]) = needed sizes space := by
  cases space <;> simp [taken, requests, all, Batch.space, count, needed]

theorem eq_of_mem_requests {r : Role × Batch} (h : r ∈ requests [role]) : r.1 = role := by
  obtain ⟨batch, -, rfl⟩ : ∃ batch ∈ all, (role, batch) = r := by
    simpa [requests] using h
  rfl

theorem taken_requests_of_ne (h : other ≠ role) : taken sizes role space (requests [other]) = 0 := by
  simp [taken, requests, all, h]

theorem taken_requests_all (sizes : BatchSizes) (role : Role) (space : Ledger.Space) :
    taken sizes role space (requests Role.all) = needed sizes space := by
  rw [requests_all, taken_append]
  cases role with
  | primary => rw [taken_requests, taken_requests_of_ne (by decide), Nat.add_zero]
  | secondary => rw [taken_requests, taken_requests_of_ne (by decide), Nat.zero_add]

end Batch

/-! ### The ledgers of a device -/

namespace Device

/-- What the ledger of a role answers when no call is made to fail. -/
def ledgerReply (d : Device) (role : Role) (r : Ledger.Request) : Except KeyError r.Reply :=
  match d.memory with
  | none => replyOf (Database.answerLedger role r) d.database
  | some m => replyOf (Ledger.Memory.answer r) (m.roles.get role).ledger

/-- The counters of a role can be read and written, and no call is made to fail. -/
structure Ready (d : Device) (role : Role) : Prop where
  faults : d.faults = []
  outages : ∀ o ∈ d.outages, o = none
  reads : d.memory = none → ∀ space, ∃ n,
    readNumber (slotKey role (.counter space)) d.database = .ok (n, d.database)
  writes : d.memory = none → ∀ space value,
    d.database.Takes [(slotKey role (.counter space), some value)]

/-- One counter has a value, and otherwise the ledgers stand as they did. -/
structure Moved (role : Role) (space : Ledger.Space) (value : UInt32) (d d' : Device) : Prop where
  ready : ∀ role, d.Ready role → d'.Ready role
  self : d'.counter role space = value
  others : ∀ role' space', (role', space') ≠ (role, space) →
    d'.counter role' space' = d.counter role' space'
  pointer : ∀ role p, d'.ledgerReply role (.pointer p) = d.ledgerReply role (.pointer p)
  registered : ∀ role, d'.ledgerReply role .isRegistered = d.ledgerReply role .isRegistered

end Device

variable {d d' : Device} {role : Role} {space : Ledger.Space}

theorem counter_of_readNumber {n : Option UInt32} (hmemory : d.memory = none)
    (h : readNumber (slotKey role (.counter space)) d.database = .ok (n, d.database)) :
    d.counter role space = n.getD 0 := by
  have h : readNumber (ledgerKey role (counterName space)) d.database = .ok (n, d.database) := h
  rw [Device.counter, hmemory]
  dsimp only
  rw [h]

theorem counter_eq_of_readNumber (hmemory : d.memory = none) (hmemory' : d'.memory = none)
    (h : readNumber (slotKey role (.counter space)) d'.database =
      (readNumber (slotKey role (.counter space)) d.database).map fun r => (r.1, d'.database)) :
    d'.counter role space = d.counter role space := by
  have h : readNumber (ledgerKey role (counterName space)) d'.database =
      (readNumber (ledgerKey role (counterName space)) d.database).map fun r =>
        (r.1, d'.database) := h
  rw [Device.counter, Device.counter, hmemory, hmemory']
  dsimp only
  rw [h]
  cases readNumber (ledgerKey role (counterName space)) d.database <;> rfl

namespace Device.Ready

theorem after_outage (h : d.Ready role) :
    Device.Ready { d with outages := d.outages.tail } role where
  faults := h.faults
  outages o ho := h.outages o (List.mem_of_mem_tail ho)
  reads := h.reads
  writes := h.writes

theorem query_eq {α : Type} (h : d.Ready role) (q : Query KeyError α) :
    Device.query KeyError.ofDatabase q d = match q d.database with
      | .ok (a, database) => .ok a { d with outages := d.outages.tail, database := database }
      | .error e => .error e { d with outages := d.outages.tail } := by
  rw [(answers_of_outages h.outages).query_eq]
  cases q d.database <;> rfl

end Device.Ready

theorem moved_self (d : Device) (role : Role) (space : Ledger.Space) :
    d.Moved role space (d.counter role space) d :=
  ⟨fun _ h => h, rfl, fun _ _ _ => rfl, fun _ _ => rfl, fun _ => rfl⟩

theorem moved_outage (d : Device) (role : Role) (space : Ledger.Space) :
    d.Moved role space (d.counter role space) { d with outages := d.outages.tail } :=
  ⟨fun _ h => h.after_outage, rfl, fun _ _ _ => rfl, fun _ _ => rfl, fun _ => rfl⟩

/-! ### One request -/

section

variable (m : Ledger.Memory) (value : UInt32) (space : Ledger.Space)

theorem counter_setCounter_of_ne {other : Ledger.Space} (h : other ≠ space) :
    (m.setCounter value space).counter other = m.counter other := by
  cases space <;> cases other <;> first | rfl | exact absurd rfl h

theorem answer_pointer_setCounter (p : Ledger.Pointer) :
    replyOf (Ledger.Memory.answer (.pointer p)) (m.setCounter value space) =
      replyOf (Ledger.Memory.answer (.pointer p)) m := by
  cases space <;> rfl

theorem answer_isRegistered_setCounter :
    replyOf (Ledger.Memory.answer .isRegistered) (m.setCounter value space) =
      replyOf (Ledger.Memory.answer .isRegistered) m := by
  cases space <;> rfl

end

/-- In memory, a new value of one counter leaves the rest of both ledgers alone. -/
theorem moved_memory {m : MemoryStores} (hm : d.memory = some m) (role : Role)
    (space : Ledger.Space) (value : UInt32) :
    let own := { m.roles.get role with ledger := (m.roles.get role).ledger.setCounter value space }
    d.Moved role space value { d with memory := some { m with roles := m.roles.set own role } } := by
  intro own
  -- Whatever the change keeps of this role's ledger, it keeps of both.
  have hkept {α : Type} (part : Ledger.Memory → α) (role' : Role)
      (hpart : part ((m.roles.get role).ledger.setCounter value space) =
        part (m.roles.get role).ledger) :
      part ((m.roles.set own role).get role').ledger = part (m.roles.get role').ledger := by
    by_cases hrole : role' = role
    · subst hrole
      rw [PerRole.get_set]
      exact hpart
    · rw [PerRole.get_set_of_ne _ _ hrole]
  refine ⟨fun role' h => ⟨h.faults, h.outages, fun hnone => (by cases hnone),
    fun hnone => (by cases hnone)⟩, ?_, fun role' space' hne => ?_, fun role' p => ?_,
    fun role' => ?_⟩
  · simp only [Device.counter, PerRole.get_set]
    exact counter_setCounter _ space value
  · simp only [Device.counter, hm]
    by_cases hrole : role' = role
    · subst hrole
      rw [PerRole.get_set]
      exact counter_setCounter_of_ne _ value space fun hspace => hne (by rw [hspace])
    · rw [PerRole.get_set_of_ne _ _ hrole]
  · simp only [Device.ledgerReply, hm]
    exact hkept _ role' (answer_pointer_setCounter _ value space p)
  · simp only [Device.ledgerReply, hm]
    exact hkept _ role' (answer_isRegistered_setCounter _ value space)

theorem replyOf_eq_of_map {σ ε α : Type} {x : StateT σ (Except ε) α} {s s' : σ}
    (h : x s' = (x s).map fun r => (r.1, s')) : replyOf x s' = replyOf x s := by
  rw [replyOf, replyOf, h]
  cases x s <;> rfl

theorem replyOf_mapError {ε ε' α : Type} (f : ε → ε') (q : Query ε α) (db : Database) :
    replyOf (q.mapError f) db = (replyOf q db).mapError f := by
  rw [replyOf, replyOf, Query.mapError]
  cases q db <;> rfl

/-- In the database, a new text of one counter leaves the rest of both ledgers alone. -/
theorem moved_database {kv : KeyValues} (hkv : d.database.keyValues = some kv)
    (hmemory : d.memory = none) (role : Role) (space : Ledger.Space) (value : UInt32)
    (hmemory' : d'.memory = none) (hfaults : d'.faults = d.faults)
    (houtages : d'.outages = d.outages.tail)
    (hdatabase : d'.database = d.database.after
      [.ledger role (Ledger.Slot.counter space).name (Text.numeral value)]) :
    d.Moved role space value d' := by
  have hself := readNumber_after_ledger hkv role (.counter space) value
  rw [← hdatabase] at hself
  have hother (role' : Role) {slot : Ledger.Slot}
      (hne : (role', slot) ≠ (role, Ledger.Slot.counter space)) :=
    ne_slotKey_of_ledger (Text.numeral value) hne
  have hread {role' : Role} {space' : Ledger.Space} (hne : (role', space') ≠ (role, space)) :
      readNumber (slotKey role' (.counter space')) d'.database =
        (readNumber (slotKey role' (.counter space')) d.database).map fun r => (r.1, d'.database) := by
    rw [hdatabase, readNumber_after (hother role' fun heq => hne (by cases heq; rfl))]
  refine ⟨fun role' h => ⟨?_, ?_, fun _ space' => ?_,
    fun _ space' value' => ?_⟩,
    counter_of_readNumber hmemory' hself,
    fun role' space' hne => counter_eq_of_readNumber hmemory hmemory' (hread hne),
    fun role' p => ?_, fun role' => ?_⟩
  · rw [hfaults, h.faults]
  · rw [houtages]
    exact h.after_outage.outages
  · by_cases heq : (role', space') = (role, space)
    · cases heq
      exact ⟨some value, hself⟩
    · obtain ⟨n, hn⟩ := h.reads hmemory space'
      exact ⟨n, by rw [hread heq, hn]; rfl⟩
  · rw [hdatabase, takes_after]
    exact h.writes hmemory space' value'
  · have hne : (role', Ledger.Slot.pointer p) ≠ (role, .counter space) := fun heq => by cases heq
    have hkept := replyOf_eq_of_map (s := d.database) (readNumber_after (hother role' hne))
    simp only [Device.ledgerReply, hmemory, hmemory', hdatabase, Database.answerLedger,
      replyOf_mapError]
    exact congrArg _ hkept
  · have hne : (role', Ledger.Slot.registered) ≠ (role, .counter space) := fun heq => by cases heq
    have hkept := replyOf_eq_of_map (s := d.database) (readBool_after (hother role' hne))
    simp only [Device.ledgerReply, hmemory, hmemory', hdatabase, Database.answerLedger,
      replyOf_mapError]
    exact congrArg _ hkept

/-- The counter settles what comes of a request for ids. -/
theorem Device.Ready.ledger_reserve (h : d.Ready role) (space : Ledger.Space)
    (count : UInt32) :
    match Ledger.reserve (d.counter role space) count space.kind with
    | .ok (first, last) => ∃ d', Device.ledger role (.reserve space count) d = .ok first d' ∧
      d.Moved role space last d'
    | .error e => ∃ d', Device.ledger role (.reserve space count) d = .error e d' ∧
      d.Moved role space (d.counter role space) d' := by
  rw [Device.ledger, allow_bind_of_faults_eq_nil h.faults, act_get_bind_eq]
  cases hmemory : d.memory with
  | none =>
    obtain ⟨kv, hkv, hfree⟩ := h.writes hmemory space ""
    obtain ⟨n, hn⟩ := h.reads hmemory space
    have hreserve :=
      reserve_eq_of_readNumber hkv (hfree _ (List.mem_singleton_self _) rfl) hn count
    simp only [h.query_eq, Database.answerLedger, hreserve, counter_of_readNumber hmemory hn]
    cases Ledger.reserve (n.getD 0) count space.kind with
    | error e =>
      refine ⟨_, rfl, ?_⟩
      rw [← counter_of_readNumber hmemory hn]
      exact moved_outage d role space
    | ok ids => exact ⟨_, rfl, moved_database hkv hmemory role space ids.2 hmemory rfl rfl rfl⟩
  | some m =>
    have hcounter : d.counter role space = (m.roles.get role).ledger.counter space := by
      rw [Device.counter, hmemory]
    simp only [Device.onMemory, Ledger.Memory.answer, ← hcounter]
    cases Ledger.reserve (d.counter role space) count space.kind with
    | error e => exact ⟨d, rfl, moved_self d role space⟩
    | ok ids => exact ⟨_, rfl, moved_memory hmemory role space ids.2⟩

theorem reserve_cases (counter : UInt32) {count : UInt32} (kind : String) (hcount : count ≠ 0) :
    (∃ first last, Ledger.reserve counter count kind = .ok (first, last) ∧
        first.toNat = counter.toNat + 1 ∧ last.toNat = counter.toNat + count.toNat) ∨
      Ledger.reserve counter count kind = .error (.prekey (kind ++ " id space exhausted")) ∧
        UInt32.size ≤ counter.toNat + count.toNat := by
  by_cases hroom : counter.toNat + count.toNat < UInt32.size
  · have hreserve : Ledger.reserve counter count kind = .ok (counter + 1, counter + count) := by
      rw [Ledger.reserve, if_neg hcount, if_pos hroom]
    exact Or.inl ⟨_, _, hreserve, Provisioner.toNat_of_reserve hreserve⟩
  · refine Or.inr ⟨?_, Nat.not_lt.1 hroom⟩
    rw [Ledger.reserve, if_neg hcount, if_neg hroom]

/-! ### Several requests -/

/-- Some batches have taken their ids, and otherwise the ledgers stand as they did. -/
structure Device.Advanced (sizes : BatchSizes) (done : List (Role × Batch)) (d d' : Device) :
    Prop where
  ready : ∀ role, d.Ready role → d'.Ready role
  counter : ∀ role space, (d'.counter role space).toNat =
    (d.counter role space).toNat + Batch.taken sizes role space done
  pointer : ∀ role p, d'.ledgerReply role (.pointer p) = d.ledgerReply role (.pointer p)
  registered : ∀ role, d'.ledgerReply role .isRegistered = d.ledgerReply role .isRegistered

/-- Of some requests, the ids run out at one, after the ones before it were granted. -/
def Device.RunsOut (sizes : BatchSizes) (requests : List (Role × Batch)) (d : Device) (e : KeyError)
    (d' : Device) : Prop :=
  ∃ done role batch rest, requests = done ++ (role, batch) :: rest ∧
    e = .prekey (batch.space.kind ++ " id space exhausted") ∧ d.Advanced sizes done d' ∧
    UInt32.size ≤ (d'.counter role batch.space).toNat + (batch.count sizes).toNat

section

variable {sizes : BatchSizes} {requests done done' : List (Role × Batch)} {batch : Batch}
  {d'' : Device}

theorem Device.Moved.unchanged (h : d.Moved role space (d.counter role space) d') :
    d.Advanced sizes [] d' := by
  refine ⟨h.ready, fun role' space' => ?_, h.pointer, h.registered⟩
  by_cases heq : (role', space') = (role, space)
  · cases heq
    rw [h.self]
    rfl
  · rw [h.others role' space' heq]
    rfl

theorem Device.Moved.advanced {last : UInt32} (h : d.Moved role batch.space last d')
    (hlast : last.toNat = (d.counter role batch.space).toNat + (batch.count sizes).toNat) :
    d.Advanced sizes [(role, batch)] d' := by
  refine ⟨h.ready, fun role' space' => ?_, h.pointer, h.registered⟩
  rw [Batch.taken_singleton]
  by_cases heq : (role', space') = (role, batch.space)
  · cases heq
    rw [h.self, hlast, if_pos ⟨rfl, rfl⟩]
  · rw [h.others role' space' heq, if_neg]
    · rfl
    · rintro ⟨rfl, rfl⟩
      exact heq rfl

namespace Device.Advanced

theorem refl (d : Device) : d.Advanced sizes [] d :=
  ⟨fun _ h => h, fun _ _ => rfl, fun _ _ => rfl, fun _ => rfl⟩

theorem trans (h : d.Advanced sizes done d') (h' : d'.Advanced sizes done' d'') :
    d.Advanced sizes (done ++ done') d'' where
  ready role hready := h'.ready role (h.ready role hready)
  counter role space := by
    rw [h'.counter, h.counter, Batch.taken_append, Nat.add_assoc]
  pointer role p := (h'.pointer role p).trans (h.pointer role p)
  registered role := (h'.registered role).trans (h.registered role)

end Device.Advanced

/-- One batch takes its ids, or there are too few left. -/
theorem Device.Ready.batch_cases (h : d.Ready role) (hcount : batch.count sizes ≠ 0) :
    (∃ first d', Device.ledger role (.reserve batch.space (batch.count sizes)) d = .ok first d' ∧
        first.toNat = (d.counter role batch.space).toNat + 1 ∧
        d.Advanced sizes [(role, batch)] d') ∨
      ∃ d', Device.ledger role (.reserve batch.space (batch.count sizes)) d =
          .error (.prekey (batch.space.kind ++ " id space exhausted")) d' ∧
        d.Advanced sizes [] d' ∧
        UInt32.size ≤ (d'.counter role batch.space).toNat + (batch.count sizes).toNat := by
  have hreserve := h.ledger_reserve batch.space (batch.count sizes)
  rcases reserve_cases (d.counter role batch.space) batch.space.kind hcount with
    ⟨first, last, hok, hfirst, hlast⟩ | ⟨herror, hsize⟩
  · rw [hok] at hreserve
    obtain ⟨d', hledger, hmoved⟩ := hreserve
    exact Or.inl ⟨first, d', hledger, hfirst, hmoved.advanced hlast⟩
  · rw [herror] at hreserve
    obtain ⟨d', hledger, hmoved⟩ := hreserve
    exact Or.inr ⟨d', hledger, hmoved.unchanged, by rwa [hmoved.self]⟩

theorem Device.Ready.of_batch_ok {first : UInt32} (h : d.Ready role) (batch : Batch)
    (hcount : batch.count sizes ≠ 0)
    (hledger : Device.ledger role (.reserve batch.space (batch.count sizes)) d = .ok first d') :
    first.toNat = (d.counter role batch.space).toNat + 1 ∧ d.Advanced sizes [(role, batch)] d' := by
  rcases h.batch_cases hcount with ⟨first', d'', hok, hresult⟩ | ⟨d'', herror, -⟩
  · rw [hledger] at hok
    cases hok
    exact hresult
  · rw [hledger] at herror
    cases herror

variable {firsts : List UInt32} {e : KeyError}

theorem advanced_of_granted (h : ∀ r ∈ requests, d.Ready r.1)
    (hcount : ∀ batch, Batch.count sizes batch ≠ 0)
    (hgranted : Granted Device.ledger sizes requests d firsts d') :
    d.Advanced sizes requests d' := by
  induction hgranted with
  | nil d => exact .refl d
  | cons hledger _ ih =>
    obtain ⟨hready, hrest⟩ := List.forall_mem_cons.1 h
    obtain ⟨-, hadvanced⟩ := hready.of_batch_ok _ (hcount _) hledger
    exact hadvanced.trans (ih fun r hr => hadvanced.ready r.1 (hrest r hr))

theorem runsOut_of_refused (h : ∀ r ∈ requests, d.Ready r.1)
    (hcount : ∀ batch, Batch.count sizes batch ≠ 0)
    (hrefused : Refused Device.ledger sizes requests d done e d') :
    d.RunsOut sizes requests e d' := by
  induction hrefused with
  | @here role batch rest d d' e hledger =>
    obtain ⟨hready, -⟩ := List.forall_mem_cons.1 h
    rcases hready.batch_cases (hcount batch) with ⟨first, d'', hok, -⟩ | ⟨d'', herror, hresult⟩
    · rw [hledger] at hok
      cases hok
    · rw [hledger] at herror
      cases herror
      exact ⟨[], role, batch, rest, rfl, rfl, hresult⟩
  | later hledger _ ih =>
    obtain ⟨hready, hrest⟩ := List.forall_mem_cons.1 h
    obtain ⟨-, hadvanced⟩ := hready.of_batch_ok _ (hcount _) hledger
    obtain ⟨done, role, batch, rest, rfl, he, hdone, hsize⟩ :=
      ih fun r hr => hadvanced.ready r.1 (hrest r hr)
    exact ⟨_ :: done, role, batch, rest, rfl, he, hadvanced.trans hdone, hsize⟩

end

theorem Provisioner.count_ne_zero (p : Provisioner) (batch : Batch) : batch.count p.sizes ≠ 0 := by
  have hone : (1 : UInt32) ≠ 0 := by decide
  cases batch with
  | signed => exact hone
  | oneTime => exact p.oneTime_ne_zero
  | lastResort => exact hone
  | kyber => exact p.kyber_ne_zero

/-! ### Bundles -/

/-- The space of each kind of id has as many left as a bundle of the role needs. -/
def Device.HasRoom (d : Device) (role : Role) (sizes : BatchSizes) : Prop :=
  ∀ space, (d.counter role space).toNat + Batch.needed sizes space < UInt32.size

/-- The ids of a bundle are the next ones after some counters, and none of them goes too far. -/
structure Bundle.Spans (b : Bundle) (sizes : BatchSizes) (counter : Ledger.Space → UInt32) :
    Prop where
  signedId : b.signedId.toNat = (counter .signed).toNat + 1
  oneTimeStart : b.oneTimeStart.toNat = (counter .oneTime).toNat + 1
  lastResortId : b.lastResortId.toNat = (counter .kyber).toNat + 1
  kyberStart : b.kyberStart.toNat = (counter .kyber).toNat + 2
  signed : b.signed.id = b.signedId
  oneTime : b.oneTime.map (fun k => k.id.toNat) =
    List.range' b.oneTimeStart.toNat sizes.oneTime.toNat
  lastResort : b.lastResort.id = b.lastResortId
  kyber : b.kyber.map (fun k => k.id.toNat) = List.range' b.kyberStart.toNat sizes.kyber.toNat
  oneTime_lt : ∀ i < sizes.oneTime.toNat, b.oneTimeStart.toNat + i < UInt32.size
  kyber_lt : ∀ i < sizes.kyber.toNat, b.kyberStart.toNat + i < UInt32.size

section

variable {sizes : BatchSizes} {e : KeyError}

theorem Device.Advanced.hasRoom (h : d.Advanced sizes (Batch.requests [role]) d') :
    d.HasRoom role sizes := by
  intro space
  rw [← Batch.taken_requests sizes role space, ← h.counter]
  exact UInt32.toNat_lt_size _

theorem Device.Advanced.hasRoom_of_all (h : d.Advanced sizes (Batch.requests Role.all) d')
    (role : Role) : d.HasRoom role sizes := by
  intro space
  rw [← Batch.taken_requests_all sizes role space, ← h.counter]
  exact UInt32.toNat_lt_size _

/-- What one role takes leaves the counters of the other alone. -/
theorem Device.Advanced.counter_of_ne {other : Role}
    (h : d.Advanced sizes (Batch.requests [role]) d') (hne : role ≠ other) :
    d'.counter other = d.counter other := by
  funext space
  rw [← UInt32.toNat_inj, h.counter, Batch.taken_requests_of_ne hne, Nat.add_zero]

theorem Device.RunsOut.not_hasRoom (h : d.RunsOut sizes (Batch.requests [role]) e d') :
    ¬ d.HasRoom role sizes := by
  obtain ⟨done, role', batch, rest, hrequests, -, hdone, hsize⟩ := h
  intro hroom
  obtain rfl : role = role' := by
    have hmem : (role', batch) ∈ Batch.requests [role] := by
      rw [hrequests]
      exact List.mem_append_right _ List.mem_cons_self
    simp [Batch.requests] at hmem
    exact hmem.2
  have htaken := Batch.taken_requests sizes role batch.space
  rw [hrequests, ← List.singleton_append, Batch.taken_append, Batch.taken_append,
    Batch.taken_singleton, if_pos ⟨rfl, rfl⟩] at htaken
  have hlt := hroom batch.space
  rw [hdone.counter] at hsize
  omega

end

variable {suite : Suite} {p : Provisioner} {now : Int64}

/-- The bundle that is made has the ids after the counters, which move on by as many. -/
theorem Device.Ready.of_generate_eq_ok (h : d.Ready role) {identity : IdentityKey} {e : Entropy}
    {s' : Device × Entropy} {b : Bundle}
    (hb : p.generate suite (Device.ledger role) role identity now (d, e) = .ok b s') :
    b.Spans p.sizes (d.counter role) ∧ d.Advanced p.sizes (Batch.requests [role]) s'.1 := by
  obtain ⟨⟨hsigned, hlastResort⟩, d₁, d₂, d₃, hledger₁, hledger₂, honeTime, hledger₃, hledger₄,
    hkyber⟩ := Provisioner.exists_ids_of_generate hb
  obtain ⟨hsignedId, h₁⟩ := h.of_batch_ok .signed (p.count_ne_zero _) hledger₁
  obtain ⟨honeTimeStart, h₂⟩ :=
    (h₁.ready role h).of_batch_ok .oneTime (p.count_ne_zero _) hledger₂
  obtain ⟨hlastResortId, h₃⟩ :=
    ((h₁.trans h₂).ready role h).of_batch_ok .lastResort (p.count_ne_zero _) hledger₃
  obtain ⟨hkyberStart, h₄⟩ := (((h₁.trans h₂).trans h₃).ready role h).of_batch_ok .kyber
    (p.count_ne_zero _) hledger₄
  have hadvanced : d.Advanced p.sizes (Batch.requests [role]) s'.1 :=
    ((h₁.trans h₂).trans h₃).trans h₄
  have hroom := hadvanced.hasRoom
  -- A batch finds the counters as the ones before it have left them.
  have honeTimeStart : b.oneTimeStart.toNat = (d.counter role .oneTime).toNat + 1 := by
    simpa [h₁.counter, Batch.taken_singleton, Batch.space] using honeTimeStart
  have hlastResortId : b.lastResortId.toNat = (d.counter role .kyber).toNat + 1 := by
    simpa [h₂.counter, h₁.counter, Batch.taken_singleton, Batch.space] using hlastResortId
  have hkyberStart : b.kyberStart.toNat = (d.counter role .kyber).toNat + 2 := by
    simpa [h₃.counter, h₂.counter, h₁.counter, Batch.taken_singleton, Batch.space, Batch.count]
      using hkyberStart
  have honeTimeRoom : (d.counter role .oneTime).toNat + p.sizes.oneTime.toNat < UInt32.size :=
    hroom .oneTime
  have hkyberRoom : (d.counter role .kyber).toNat + (1 + p.sizes.kyber.toNat) < UInt32.size :=
    hroom .kyber
  refine ⟨⟨hsignedId, honeTimeStart, hlastResortId, hkyberStart, hsigned, ?_, hlastResort, ?_,
    fun i hi => ?_, fun i hi => ?_⟩, hadvanced⟩
  · rw [← Provisioner.map_toNat_ids (by omega), ← honeTime, List.map_map]
    rfl
  · rw [← Provisioner.map_toNat_ids (by omega), ← hkyber, List.map_map]
    rfl
  · omega
  · omega

section

variable {sizes : BatchSizes}

theorem Device.Advanced.withEntropy {done : List (Role × Batch)} (h : d.Advanced sizes done d')
    (e : Entropy) : d.Advanced sizes done { d' with entropy := e } :=
  have hready {d : Device} {role : Role} (h : d.Ready role) :
      Device.Ready { d with entropy := e } role := ⟨h.faults, h.outages, h.reads, h.writes⟩
  ⟨fun role hrole => hready (h.ready role hrole), h.counter, h.pointer, h.registered⟩

theorem Device.RunsOut.withEntropy {requests : List (Role × Batch)} {err : KeyError}
    (h : d.RunsOut sizes requests err d') (e : Entropy) :
    d.RunsOut sizes requests err { d' with entropy := e } := by
  obtain ⟨done, role, batch, rest, hrequests, herr, hdone, hsize⟩ := h
  exact ⟨done, role, batch, rest, hrequests, herr, hdone.withEntropy e, hsize⟩

end

/-- A bundle is made, or ids run out. -/
theorem Device.Ready.generate_cases (h : d.Ready role) (suite : Suite) (p : Provisioner)
    (identity : IdentityKey) (now : Int64) :
    (∃ b d', Device.generate suite p role identity now d = .ok b d' ∧
        b.role = role ∧ b.identity = identity ∧ b.Spans p.sizes (d.counter role) ∧
        d.Advanced p.sizes (Batch.requests [role]) d') ∨
      ∃ err d', Device.generate suite p role identity now d = .error err d' ∧
        d.RunsOut p.sizes (Batch.requests [role]) err d' := by
  have hready : ∀ r ∈ Batch.requests [role], d.Ready r.1 := fun r hr =>
    Batch.eq_of_mem_requests hr ▸ h
  rcases granted_or_refused Device.ledger p.sizes (Batch.requests [role]) d with
    ⟨firsts, d', hgranted⟩ | ⟨granted, err, d', hrefused⟩
  · obtain ⟨b, hb, hrole, hidentity, -⟩ :=
      Provisioner.generate_of_granted hgranted suite identity now d.entropy
    obtain ⟨hspans, hadvanced⟩ := h.of_generate_eq_ok hb
    exact Or.inl ⟨b, _, drawing_ok hb, hrole, hidentity, hspans, hadvanced.withEntropy _⟩
  · have herr := Provisioner.generate_of_refused hrefused suite identity now d.entropy
    have hrunsOut := runsOut_of_refused hready p.count_ne_zero hrefused
    exact Or.inr ⟨err, _, drawing_error herr, hrunsOut.withEntropy _⟩

/-- Both bundles are made, or ids run out for one of them. -/
theorem generateBoth_cases (h : ∀ role, d.Ready role) (suite : Suite) (p : Provisioner)
    (now : Int64) :
    (∃ bundles d', Device.generateBoth suite p now d = .ok bundles d' ∧
        (∀ role, (bundles.get role).role = role ∧
          (bundles.get role).Spans p.sizes (d.counter role)) ∧
        d.Advanced p.sizes (Batch.requests Role.all) d') ∨
      ∃ err d', Device.generateBoth suite p now d = .error (Failure.ofKeyError err) d' ∧
        (d.RunsOut p.sizes (Batch.requests [.primary]) err d' ∨
          ∃ d₁, d.Advanced p.sizes (Batch.requests [.primary]) d₁ ∧
            d₁.RunsOut p.sizes (Batch.requests [.secondary]) err d') := by
  rcases granted_or_refused Device.ledger p.sizes (Batch.requests Role.all) d with
    ⟨firsts, d', hgranted⟩ | ⟨granted, err, d', hrefused⟩
  · obtain ⟨bundles, hboth, -, -, -, hbundles⟩ :=
      Provisioner.generateBoth_of_granted hgranted suite now d.entropy
    obtain ⟨primary, secondary, e, ⟨d₁, e₁⟩, hprimary, hsecondary⟩ :=
      exists_generate_of_generateBoth hboth
    obtain ⟨hspans, hadvanced⟩ := (h .primary).of_generate_eq_ok hprimary
    obtain ⟨hspans', hadvanced'⟩ :=
      (hadvanced.ready .secondary (h .secondary)).of_generate_eq_ok hsecondary
    refine Or.inl ⟨bundles, _, Follows.registering_ok (drawing_ok hboth), fun role =>
      ⟨(hbundles role).1, ?_⟩, (hadvanced.trans hadvanced').withEntropy _⟩
    cases role with
    | primary => exact hspans
    | secondary =>
      rw [hadvanced.counter_of_ne (by decide)] at hspans'
      exact hspans'
  · have herr := Provisioner.generateBoth_of_refused hrefused suite now d.entropy
    refine Or.inr ⟨err, _, Follows.registering_error (drawing_error herr), ?_⟩
    rw [Batch.requests_all] at hrefused
    rcases hrefused.cases_of_append with hprimary | ⟨firsts, d₁, granted', -, hprimary, hsecondary⟩
    · exact Or.inl ((runsOut_of_refused (fun r _ => h r.1) p.count_ne_zero hprimary).withEntropy _)
    · have hadvanced := advanced_of_granted (fun r _ => h r.1) p.count_ne_zero hprimary
      have hrunsOut := runsOut_of_refused (fun r _ => hadvanced.ready r.1 (h r.1)) p.count_ne_zero
        hsecondary
      exact Or.inr ⟨d₁, hadvanced, hrunsOut.withEntropy _⟩

/-- How the bundle of one role is made on a device, and where its ids run out. -/
structure Device.Provisions (suite : Suite) (p : Provisioner) (now : Int64) (role : Role)
    (d : Device) : Prop where
  ok_iff : ∀ identity, (∃ b d', Device.generate suite p role identity now d = .ok b d') ↔
    d.HasRoom role p.sizes
  of_ok : ∀ identity b d', Device.generate suite p role identity now d = .ok b d' →
    b.role = role ∧ b.identity = identity ∧ b.Spans p.sizes (d.counter role) ∧
      d.Advanced p.sizes (Batch.requests [role]) d' ∧
      ∀ space, (d'.counter role space).toNat =
        (d.counter role space).toNat + Batch.needed p.sizes space
  of_error : ∀ identity err d', Device.generate suite p role identity now d = .error err d' →
    d.RunsOut p.sizes (Batch.requests [role]) err d'

/-- How the bundles of both roles are made. -/
structure Device.ProvisionsBoth (suite : Suite) (p : Provisioner) (now : Int64) (d : Device) :
    Prop where
  ok_iff : (∃ bundles d', Device.generateBoth suite p now d = .ok bundles d') ↔
    ∀ role, d.HasRoom role p.sizes
  of_ok : ∀ bundles d', Device.generateBoth suite p now d = .ok bundles d' →
    d.Advanced p.sizes (Batch.requests Role.all) d' ∧
      ∀ role, (bundles.get role).role = role ∧ (bundles.get role).Spans p.sizes (d.counter role)
  /-- The second role fails only after the first one has kept its ids. -/
  of_error : ∀ failure d', Device.generateBoth suite p now d = .error failure d' →
    ∃ err, failure = Failure.ofKeyError err ∧
      (d.RunsOut p.sizes (Batch.requests [.primary]) err d' ∨
        ∃ d₁, d.Advanced p.sizes (Batch.requests [.primary]) d₁ ∧
          d₁.RunsOut p.sizes (Batch.requests [.secondary]) err d')

theorem Device.Ready.provisions_role (h : d.Ready role) (suite : Suite) (p : Provisioner)
    (now : Int64) : d.Provisions suite p now role := by
  refine ⟨fun identity => ?_, fun identity b d' hb => ?_, fun identity err d' herr => ?_⟩
  · rcases h.generate_cases suite p identity now with
      ⟨b, d', hb, -, -, -, hadvanced⟩ | ⟨err, d', herr, hrunsOut⟩
    · exact ⟨fun _ => hadvanced.hasRoom, fun _ => ⟨b, d', hb⟩⟩
    · refine ⟨fun ⟨b, d'', hb⟩ => ?_, fun hroom => absurd hroom hrunsOut.not_hasRoom⟩
      rw [herr] at hb
      cases hb
  · rcases h.generate_cases suite p identity now with
      ⟨b', d'', hb', hrole, hidentity, hspans, hadvanced⟩ | ⟨err, d'', herr, -⟩
    · rw [hb] at hb'
      cases hb'
      refine ⟨hrole, hidentity, hspans, hadvanced, fun space => ?_⟩
      rw [hadvanced.counter, Batch.taken_requests]
    · rw [hb] at herr
      cases herr
  · rcases h.generate_cases suite p identity now with
      ⟨b, d'', hb, -⟩ | ⟨err', d'', herr', hrunsOut⟩
    · rw [herr] at hb
      cases hb
    · rw [herr] at herr'
      cases herr'
      exact hrunsOut

theorem provisionsBoth (h : ∀ role, d.Ready role) (suite : Suite) (p : Provisioner)
    (now : Int64) : d.ProvisionsBoth suite p now := by
  refine ⟨?_, fun bundles d' hboth => ?_, fun failure d' herr => ?_⟩
  · rcases generateBoth_cases h suite p now with
      ⟨bundles, d', hboth, -, hadvanced⟩ | ⟨err, d', herr, hrunsOut⟩
    · exact ⟨fun _ => hadvanced.hasRoom_of_all, fun _ => ⟨bundles, d', hboth⟩⟩
    · refine ⟨fun ⟨bundles, d'', hboth⟩ => ?_, fun hroom => ?_⟩
      · rw [herr] at hboth
        cases hboth
      · rcases hrunsOut with hrunsOut | ⟨d₁, hadvanced, hrunsOut⟩
        · exact absurd (hroom .primary) hrunsOut.not_hasRoom
        · refine absurd (fun space => ?_) hrunsOut.not_hasRoom
          rw [hadvanced.counter_of_ne (by decide)]
          exact hroom .secondary space
  · rcases generateBoth_cases h suite p now with
      ⟨bundles', d'', hboth', hspans, hadvanced⟩ | ⟨err, d'', herr, -⟩
    · rw [hboth] at hboth'
      cases hboth'
      exact ⟨hadvanced, hspans⟩
    · rw [hboth] at herr
      cases herr
  · rcases generateBoth_cases h suite p now with
      ⟨bundles, d'', hboth, -⟩ | ⟨err, d'', herr', hrunsOut⟩
    · rw [herr] at hboth
      cases hboth
    · rw [herr] at herr'
      cases herr'
      exact ⟨err, rfl, hrunsOut⟩

/-- Bundles are made from the ids that come next, and fail to be made only where the ids run out. -/
theorem Device.Ready.provisions (h : d.Ready role) (suite : Suite) (p : Provisioner) (now : Int64) :
    d.Provisions suite p now role ∧
      ((∀ other, d.Ready other) → d.ProvisionsBoth suite p now) :=
  ⟨h.provisions_role suite p now, fun hall => provisionsBoth hall suite p now⟩

namespace Sample

/-- The primary role has one id left for encapsulation keys. -/
def spent : Device :=
  let texts : Table String String := (∅ : Table String String).insert
    "prekeys.aci.last_kyber_id" "4294967294"
  { database := { keyValues := some { values := texts } }, entropy := entropy }

theorem ready_spent (role : Role) : spent.Ready role := by
  refine ⟨rfl, fun o ho => (by cases ho), fun _ space => ?_, fun _ space value => ⟨_, rfl, ?_⟩⟩
  · cases role <;> cases space <;> exact ⟨_, rfl⟩
  · exact fun _ _ _ => List.not_mem_nil

theorem not_hasRoom_spent : ¬ spent.HasRoom .primary provisioner.sizes := by
  intro h
  have hkyber : ¬ (spent.counter .primary .kyber).toNat + 2 < UInt32.size := by decide
  exact hkyber (h .kyber)

theorem provisions_spent : ((∀ role, spent.Ready role) ∧
      ¬ spent.HasRoom .primary provisioner.sizes) ∧
    spent.Provisions Suite.standard provisioner 0 .primary ∧
    spent.ProvisionsBoth Suite.standard provisioner 0 :=
  have hone := Device.Ready.provisions (ready_spent .primary) Suite.standard provisioner 0
  ⟨⟨ready_spent, not_hasRoom_spent⟩, hone.1, hone.2 ready_spent⟩

end Sample

end Registrar
