import Registrar.Proofs.Prekey.Drawing
import Registrar.Proofs.Prekey.Reservations

/-!
What randomness has no part in.

The ledgers answer without a look at the stream. So two courses of making bundles that differ in the
stream alone get the same ids or end at the same request, and they leave the same behind: counters
that have gone up, and nothing that was made from the stream.
-/

namespace Registrar

open Database

/-! ### Another stream -/

variable {d d' : Device}

/-- The same result, where the device has another stream of random bytes. -/
def withEntropy {ε α : Type} (e : Entropy) : EStateM.Result ε Device α → EStateM.Result ε Device α
  | .ok a d => .ok a { d with entropy := e }
  | .error err d => .error err { d with entropy := e }

/-- Work on a device that does not see its stream. -/
def Blind {ε α : Type} (x : Act ε α) : Prop :=
  ∀ d e, x { d with entropy := e } = withEntropy e (x d)

section

variable {ε α β : Type}

theorem Blind.bind {x : Act ε α} {f : α → Act ε β} (hx : Blind x) (hf : ∀ a, Blind (f a)) :
    Blind (x >>= f) := by
  intro d e
  rw [act_bind_eq, act_bind_eq, hx d e]
  cases x d with
  | ok a d' => exact hf a d' e
  | error err d' => rfl

theorem blind_allow (call : Call) : Blind (Device.allow call) := by
  intro d e
  rw [Device.allow, Device.allow]
  rcases Fault.meet call d.faults with ⟨_ | err, rest⟩ <;> rfl

theorem blind_query (report : DatabaseError → ε) (q : Query ε α) : Blind (Device.query report q) := by
  intro d e
  rw [Device.query, Device.query]
  dsimp only
  split
  · rfl
  · cases q d.database <;> rfl

theorem blind_onMemory {σ : Type} (m : MemoryStores) (part : σ)
    (put : σ → MemoryStores → MemoryStores) (x : StateT σ (Except KeyError) α) :
    Blind (Device.onMemory m part put x) := by
  intro d e
  rw [Device.onMemory, Device.onMemory]
  cases x part <;> rfl

end

theorem blind_ledger (role : Role) (r : Ledger.Request) : Blind (Device.ledger role r) := by
  refine (blind_allow _).bind fun _ d e => ?_
  obtain ⟨database, memory, cachedSelf, faults, outages, entropy, events⟩ := d
  rw [act_get_bind_eq, act_get_bind_eq]
  cases memory with
  | none => exact blind_query _ _ ⟨database, none, cachedSelf, faults, outages, entropy, events⟩ e
  | some m =>
    exact blind_onMemory m _ _ _ ⟨database, some m, cachedSelf, faults, outages, entropy, events⟩ e

section

variable {sizes : BatchSizes} {requests granted : List (Role × Batch)} {firsts : List UInt32}
  {err : KeyError}

theorem Granted.withEntropy (h : Granted Device.ledger sizes requests d firsts d') (e : Entropy) :
    Granted Device.ledger sizes requests { d with entropy := e } firsts { d' with entropy := e } := by
  induction h with
  | nil d => exact .nil _
  | @cons role batch _ d d₁ _ first _ hledger _ ih =>
    have hledger' := blind_ledger role (.reserve batch.space (batch.count sizes)) d e
    rw [hledger] at hledger'
    exact .cons hledger' ih

theorem Refused.withEntropy (h : Refused Device.ledger sizes requests d granted err d')
    (e : Entropy) :
    Refused Device.ledger sizes requests { d with entropy := e } granted err
      { d' with entropy := e } := by
  induction h with
  | @here role batch _ d _ err hledger =>
    have hledger' := blind_ledger role (.reserve batch.space (batch.count sizes)) d e
    rw [hledger] at hledger'
    exact .here hledger'
  | @later role batch _ _ d d₁ _ first err hledger _ ih =>
    have hledger' := blind_ledger role (.reserve batch.space (batch.count sizes)) d e
    rw [hledger] at hledger'
    exact .later hledger' ih

end

/-! ### The same ids -/

theorem Batch.eq_of_map_all {α : Type} {f g : Batch → α} (h : all.map f = all.map g) : f = g := by
  simp only [all, List.map_cons, List.map_nil, List.cons.injEq] at h
  obtain ⟨hsigned, honeTime, hlastResort, hkyber, -⟩ := h
  funext batch
  cases batch <;> assumption

/-- Two bundles of one role have the same ids, the ones at which their batches start included. -/
structure Bundle.SameIds (b b' : Bundle) : Prop where
  role : b.role = b'.role
  start : b.start = b'.start
  ids : b.ids = b'.ids

section

variable {suite : Suite} {p : Provisioner} {now : Int64} {b b' : Bundle}

/-- The ids of the keys are settled by the ones at which the batches start. -/
theorem ids_eq_of_generate {σ : Type} {ledger ledger' : Provisioner.LedgerOn σ} {role role' : Role}
    {identity identity' : IdentityKey} {s s' t t' : σ × Entropy}
    (h : p.generate suite ledger role identity now s = .ok b t)
    (h' : p.generate suite ledger' role' identity' now s' = .ok b' t') (hstart : b.start = b'.start) :
    b.ids = b'.ids := by
  obtain ⟨⟨hsigned, hlastResort⟩, _, _, _, -, -, honeTime, -, -, hkyber⟩ :=
    Provisioner.exists_ids_of_generate h
  obtain ⟨⟨hsigned', hlastResort'⟩, _, _, _, -, -, honeTime', -, -, hkyber'⟩ :=
    Provisioner.exists_ids_of_generate h'
  have hsignedId : b.signedId = b'.signedId := congrFun hstart .signed
  have honeTimeStart : b.oneTimeStart = b'.oneTimeStart := congrFun hstart .oneTime
  have hlastResortId : b.lastResortId = b'.lastResortId := congrFun hstart .lastResort
  have hkyberStart : b.kyberStart = b'.kyberStart := congrFun hstart .kyber
  funext space
  cases space with
  | signed => rw [Bundle.ids, Bundle.ids, hsigned, hsigned', hsignedId]
  | oneTime => rw [Bundle.ids, Bundle.ids, honeTime, honeTime', honeTimeStart]
  | kyber =>
    rw [Bundle.ids, Bundle.ids, hlastResort, hlastResort', hkyber, hkyber', hlastResortId,
      hkyberStart]

/-- Bundles whose requests were given the same ids have the same ids. -/
theorem sameIds_of_granted {σ : Type} {ledger : Role → Provisioner.LedgerOn σ} {s s' t t' : σ}
    {firsts : List UInt32} (h : Granted ledger p.sizes (Batch.requests Role.all) s firsts t)
    (h' : Granted ledger p.sizes (Batch.requests Role.all) s' firsts t') (suite : Suite)
    (now : Int64) (e e' : Entropy) :
    ∃ bundles bundles' u u', p.generateBoth suite ledger now (s, e) = .ok bundles (t, u) ∧
      p.generateBoth suite ledger now (s', e') = .ok bundles' (t', u') ∧
      ∀ role, (bundles.get role).SameIds (bundles'.get role) := by
  obtain ⟨bundles, hboth, -, -, rfl, hbundles⟩ := Provisioner.generateBoth_of_granted h suite now e
  obtain ⟨bundles', hboth', -, -, hfirsts, hbundles'⟩ :=
    Provisioner.generateBoth_of_granted h' suite now e'
  obtain ⟨_, _, _, _, hprimary, hsecondary⟩ := exists_generate_of_generateBoth hboth
  obtain ⟨_, _, _, _, hprimary', hsecondary'⟩ := exists_generate_of_generateBoth hboth'
  obtain ⟨hstart, hstart'⟩ := List.append_inj hfirsts rfl
  have hstart := Batch.eq_of_map_all hstart
  have hstart' := Batch.eq_of_map_all hstart'
  refine ⟨bundles, bundles', _, _, hboth, hboth', fun role => ?_⟩
  have hrole := (hbundles role).1.trans (hbundles' role).1.symm
  cases role with
  | primary => exact ⟨hrole, hstart, ids_eq_of_generate hprimary hprimary' hstart⟩
  | secondary => exact ⟨hrole, hstart', ids_eq_of_generate hsecondary hsecondary' hstart'⟩

end

/-! ### What is left behind -/

/-- A text is read as a number; when there is none, the number is zero. -/
def Reads (raw : Option String) (n : UInt32) : Prop :=
  match raw with
  | none => n = 0
  | some text => Text.readNumeral text.toList = .ok n

/-- A counter is as it was, or it has gone up. -/
def CountsOn (raw raw' : Option String) : Prop :=
  raw' = raw ∨ ∃ n n', Reads raw n ∧ raw' = some (Text.numeral n') ∧ n < n'

/-- Two databases differ at most in the counters of the ledgers, none of which has gone down. -/
structure Database.CountsUp (db db' : Database) : Prop where
  tables : { db' with keyValues := db.keyValues } = db
  refused : db'.keyValues.map KeyValues.refused = db.keyValues.map KeyValues.refused
  texts : ∀ key, (∀ role space, key ≠ slotKey role (.counter space)) →
    db'.text? key = db.text? key
  counters : ∀ role space,
    CountsOn (db.slot? role (.counter space)) (db'.slot? role (.counter space))

section

variable {raw raw' raw'' : Option String} {db db' db'' : Database}

theorem CountsOn.trans (h : CountsOn raw raw') (h' : CountsOn raw' raw'') : CountsOn raw raw'' := by
  rcases h with rfl | ⟨n, m, hn, rfl, hlt⟩
  · exact h'
  · rcases h' with rfl | ⟨m', n', hm', rfl, hlt'⟩
    · exact Or.inr ⟨n, m, hn, rfl, hlt⟩
    · -- The number that is found is the one that was written.
      rw [Reads, Text.readNumeral_toList_numeral] at hm'
      cases hm'
      exact Or.inr ⟨n, n', hn, rfl, UInt32.lt_trans hlt hlt'⟩

namespace Database.CountsUp

theorem refl (db : Database) : db.CountsUp db :=
  ⟨rfl, rfl, fun _ _ => rfl, fun _ _ => Or.inl rfl⟩

theorem trans (h : db.CountsUp db') (h' : db'.CountsUp db'') : db.CountsUp db'' where
  tables := by
    rw [← h'.tables] at h
    exact h.tables
  refused := h'.refused.trans h.refused
  texts key hkey := (h'.texts key hkey).trans (h.texts key hkey)
  counters role space := (h.counters role space).trans (h'.counters role space)

end Database.CountsUp

theorem reads_of_readNumber {role : Role} {slot : Ledger.Slot} {n : Option UInt32}
    (h : readNumber (slotKey role slot) db = .ok (n, db')) :
    Reads (db.slot? role slot) (n.getD 0) := by
  rw [readNumber_eq] at h
  rw [slot?]
  cases hkv : db.keyValues with
  | none =>
    rw [hkv] at h
    cases h
  | some kv =>
    simp only [hkv] at h
    rw [Option.bind_some]
    cases hraw : kv.values.find? (slotKey role slot) with
    | none =>
      simp only [hraw] at h
      cases h
      rfl
    | some text =>
      simp only [hraw] at h
      rw [Reads]
      cases hn : Text.readNumeral text.toList with
      | error cause =>
        rw [hn] at h
        cases h
      | ok n' =>
        rw [hn] at h
        cases h
        rfl

theorem lt_of_reserve {counter count first last : UInt32} {kind : String}
    (h : Ledger.reserve counter count kind = .ok (first, last)) : counter < last := by
  have hpos := Provisioner.pos_of_reserve h
  obtain ⟨-, hlast⟩ := Provisioner.toNat_of_reserve h
  rw [UInt32.lt_iff_toNat_lt]
  omega

/-- Ids that are handed out leave one counter higher than it was. -/
theorem countsUp_reserve {role : Role} {space : Ledger.Space} {count first : UInt32}
    (h : Database.reserve role space count db = .ok (first, db')) : db.CountsUp db' := by
  obtain ⟨counter, last, hcounter, hids, rfl, -⟩ := exists_last_of_reserve h
  have hkv : ∃ kv, db.keyValues = some kv := by
    rw [readNumber_eq] at hcounter
    cases hkv : db.keyValues with
    | some kv => exact ⟨kv, rfl⟩
    | none =>
      rw [hkv] at hcounter
      cases hcounter
  obtain ⟨kv, hkv⟩ := hkv
  refine ⟨?_, ?_, fun key hkey => ?_, fun role' space' => ?_⟩
  · simp [Database.after]
  · rw [Database.after, hkv]
    rfl
  · refine text?_after fun c hc w hw heq => hkey role space ?_
    rw [List.mem_singleton.1 hc] at hw
    rw [← heq, List.mem_singleton.1 hw]
    rfl
  · by_cases heq : (role', Ledger.Slot.counter space') = (role, .counter space)
    · cases heq
      exact Or.inr ⟨counter.getD 0, last, reads_of_readNumber hcounter,
        slot?_after_self hkv role (.counter space) _, lt_of_reserve hids⟩
    · have hne := ne_slotKey_of_ledger (Text.numeral last) heq
      exact Or.inl (slot?_after hne)

end

theorem Counted.database_eq (h : Counted d d') {m : MemoryStores} (hm : d.memory = some m) :
    d'.database = d.database := by
  obtain ⟨cs, hcs, hreached⟩ := h
  have hstored : d.stored cs = [] := by
    refine List.filter_eq_nil_iff.2 fun c hc => ?_
    obtain ⟨role, space, value, rfl⟩ := hcs c hc
    simp [hm, Change.beyondKeys]
  rw [hreached.database, hstored, after_nil]

theorem countsUp_ledger (role : Role) (space : Ledger.Space) (count : UInt32) (d : Device) :
    d.database.CountsUp (endOf (Device.ledger role (.reserve space count) d)).database := by
  cases hmemory : d.memory with
  | some m =>
    rw [(counted_ledger role space count d).database_eq hmemory]
    exact .refl _
  | none =>
    rcases ledger_cases hmemory (.reserve space count) with
      ⟨err, d', hledger, hdatabase, -⟩ | ⟨first, d', hledger, hanswer, -⟩
    · rw [hledger, endOf, hdatabase]
      exact .refl _
    · rw [hledger, endOf]
      exact countsUp_reserve hanswer

theorem countsUp_generateBoth (suite : Suite) (p : Provisioner) (now : Int64) (d : Device) :
    d.database.CountsUp (endOf (Device.generateBoth suite p now d)).database := by
  rw [endOf_generateBoth]
  exact Provisioner.keeps_generateBoth (R := fun d d' => d.database.CountsUp d'.database)
    (fun d => .refl d.database) (fun _ _ _ h h' => h.trans h') countsUp_ledger suite p now
    (d, d.entropy)

/-! ### Two courses -/

/--
Both courses of making bundles make some with the same ids, or both fail and say the same. The
devices differ at most in what is left of the stream.
-/
inductive SameButSecrets : EStateM.Result Failure Device (PerRole Bundle) →
    EStateM.Result Failure Device (PerRole Bundle) → Prop
  | ok {bundles bundles' : PerRole Bundle} {d d' : Device} :
    (∀ role, (bundles.get role).SameIds (bundles'.get role)) → { d with entropy := d'.entropy } = d' →
      SameButSecrets (.ok bundles d) (.ok bundles' d')
  | error {failure : Failure} {d d' : Device} : { d with entropy := d'.entropy } = d' →
      SameButSecrets (.error failure d) (.error failure d')

/--
Nothing that is drawn when bundles are made has a part in how the work ends or in what is stored.
And the stored data differs from what there was before in nothing but counters that have gone up.
-/
theorem generateBoth_keeps_secrets (suite : Suite) (p : Provisioner) (now : Int64) (d : Device)
    (e : Entropy) :
    SameButSecrets (Device.generateBoth suite p now d)
        (Device.generateBoth suite p now { d with entropy := e }) ∧
      (endOf (Device.generateBoth suite p now { d with entropy := e })).database =
        (endOf (Device.generateBoth suite p now d)).database ∧
      d.database.CountsUp (endOf (Device.generateBoth suite p now d)).database := by
  rw [← and_assoc]
  refine ⟨?_, countsUp_generateBoth suite p now d⟩
  rcases granted_or_refused Device.ledger p.sizes (Batch.requests Role.all) d with
    ⟨firsts, d', hgranted⟩ | ⟨granted, err, d', hrefused⟩
  · obtain ⟨bundles, bundles', u, u', hboth, hboth', hids⟩ :=
      sameIds_of_granted hgranted (hgranted.withEntropy e) suite now d.entropy e
    rw [Device.generateBoth, Follows.registering_ok (drawing_ok hboth),
      Follows.registering_ok (drawing_ok hboth')]
    exact ⟨.ok hids rfl, rfl⟩
  · have herr := Provisioner.generateBoth_of_refused hrefused suite now d.entropy
    have herr' := Provisioner.generateBoth_of_refused (hrefused.withEntropy e) suite now e
    rw [Device.generateBoth, Follows.registering_error (drawing_error herr),
      Follows.registering_error (drawing_error herr')]
    exact ⟨.error rfl, rfl⟩

end Registrar
