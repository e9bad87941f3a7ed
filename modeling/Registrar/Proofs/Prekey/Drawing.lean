import Registrar.Proofs.Prekey.Batches
import Registrar.Proofs.Registration.Follows

/-!
The randomness that bundles are made from.

Each key is made from bytes of its own, which come from the stream in the order in which the keys
are made. The ledgers see nothing of these bytes; but where one of them refuses its ids the work
ends, and the rest of the stream stays unused.
-/

namespace Registrar

/-! ### Blocks of random bytes -/

namespace Entropy

/-- The next blocks of the stream, all of one length. -/
def blocks (e : Entropy) (length : Nat) : Nat → List Bytes
  | 0 => []
  | count + 1 => e.next length :: (e.skip length).blocks length count

@[simp]
theorem skip_skip (e : Entropy) (m n : Nat) : (e.skip m).skip n = e.skip (m + n) := by
  simp [skip, Nat.add_assoc]

@[simp]
theorem length_next (e : Entropy) (length : Nat) : (e.next length).length = length :=
  length_block _ _ _

/-- What comes next goes on where what came before it ends. -/
theorem next_add (e : Entropy) (m n : Nat) : e.next (m + n) = e.next m ++ (e.skip m).next n := by
  simp [next, skip, block, ← List.map_append, List.range'_append_1]

@[simp]
theorem length_blocks (e : Entropy) (length count : Nat) :
    (e.blocks length count).length = count := by
  induction count generalizing e with
  | zero => rfl
  | succ count ih => rw [blocks, List.length_cons, ih]

theorem length_of_mem_blocks {e : Entropy} {length count : Nat} {block : Bytes}
    (h : block ∈ e.blocks length count) : block.length = length := by
  induction count generalizing e with
  | zero => cases h
  | succ count ih =>
    rcases List.mem_cons.1 h with rfl | h
    · exact length_next e length
    · exact ih h

/-- One block after the other, without a gap. -/
theorem flatten_blocks (e : Entropy) (length count : Nat) :
    (e.blocks length count).flatten = e.next (length * count) := by
  induction count generalizing e with
  | zero => rfl
  | succ count ih =>
    rw [blocks, List.flatten_cons, ih, ← next_add, Nat.mul_succ, Nat.add_comm]

end Entropy

/-! ### Keys from blocks -/

/-- A prekey for one use whose secret is a certain block. -/
structure OneTimePrekey.MadeFrom (suite : Suite) (number : UInt32) (block : Bytes)
    (k : OneTimePrekey) : Prop where
  id : k.id = number
  privateKey : k.privateKey = block
  publicKey : k.publicKey = suite.agreementPublic block

/-- A signed prekey whose secret is a certain block, with the signature under an identity secret. -/
structure SignedPrekey.MadeFrom (suite : Suite) (secret : Bytes) (now : Int64) (number : UInt32)
    (block : Bytes) (k : SignedPrekey) : Prop where
  id : k.id = number
  privateKey : k.privateKey = block
  publicKey : k.publicKey = suite.agreementPublic block
  signature : k.signature = suite.sign secret k.publicKey
  timestamp : k.timestamp = now

/-- An encapsulation key pair whose seeds are the halves of a certain block. -/
structure KyberPrekey.MadeFrom (suite : Suite) (secret : Bytes) (now : Int64) (number : UInt32)
    (block : Bytes) (k : KyberPrekey) : Prop where
  id : k.id = number
  publicKey : k.publicKey = (suite.encapsulation (block.take 32) (block.drop 32)).encapsulationKey
  secretKey : k.secretKey = (suite.encapsulation (block.take 32) (block.drop 32)).decapsulationKey
  signature : k.signature = suite.sign secret k.publicKey
  timestamp : k.timestamp = now

/-- There is one key for each block, and their numbers follow on one another. -/
structure MadeInTurn {α : Type} (made : UInt32 → Bytes → α → Prop) (start : UInt32)
    (blocks : List Bytes) (keys : List α) : Prop where
  length : keys.length = blocks.length
  made : ∀ i block k, blocks[i]? = some block → keys[i]? = some k →
    made (start + UInt32.ofNat i) block k

namespace MadeInTurn

variable {α : Type} {made : UInt32 → Bytes → α → Prop} {start : UInt32} {blocks : List Bytes}
  {keys : List α}

theorem zipWith {make : UInt32 → Bytes → α} (hmake : ∀ id block, made id block (make id block))
    {count : UInt32} (hcount : blocks.length = count.toNat) :
    MadeInTurn made start blocks (List.zipWith make (Provisioner.ids start count) blocks) where
  length := by simp [Provisioner.ids, hcount]
  made i block k hblock hk := by
    obtain ⟨id, block', hid, hblock', rfl⟩ := List.getElem?_zipWith_eq_some.1 hk
    cases hblock.symm.trans hblock'
    have hlt : i < count.toNat := hcount ▸ (List.getElem?_eq_some_iff.1 hblock).1
    rw [Provisioner.ids, List.getElem?_map, List.getElem?_range hlt] at hid
    cases hid
    exact hmake _ _

/-- The case of a single key. -/
theorem singleton {block : Bytes} {k : α} (hk : made start block k) :
    MadeInTurn made start [block] [k] where
  length := rfl
  made i block' k' hblock hk' := by
    cases i with
    | zero =>
      cases hblock
      cases hk'
      have hstart : start + UInt32.ofNat 0 = start := UInt32.add_zero start
      rwa [hstart]
    | succ i => cases hblock

/-- Every key is made from one of the blocks. -/
theorem exists_of_mem (h : MadeInTurn made start blocks keys) {k : α} (hk : k ∈ keys) :
    ∃ id block, block ∈ blocks ∧ made id block k := by
  obtain ⟨i, hi, hkey⟩ := List.mem_iff_getElem.1 hk
  have hlt : i < blocks.length := h.length ▸ hi
  refine ⟨_, blocks[i], List.getElem_mem hlt, h.made i _ k (List.getElem?_eq_getElem hlt) ?_⟩
  rw [List.getElem?_eq_getElem hi, hkey]

end MadeInTurn

namespace Bundle

/-- The id that a batch of a bundle starts with. -/
def start (b : Bundle) : Batch → UInt32
  | .signed => b.signedId
  | .oneTime => b.oneTimeStart
  | .lastResort => b.lastResortId
  | .kyber => b.kyberStart

/--
Each key of a bundle is made from its own block, the ones of a batch in the order of their ids.
-/
structure MadeFrom (suite : Suite) (now : Int64) (blocks : Batch → List Bytes) (b : Bundle) :
    Prop where
  signed : MadeInTurn (SignedPrekey.MadeFrom suite b.identity.secret now) (b.start .signed)
    (blocks .signed) [b.signed]
  oneTime : MadeInTurn (OneTimePrekey.MadeFrom suite) (b.start .oneTime) (blocks .oneTime) b.oneTime
  lastResort : MadeInTurn (KyberPrekey.MadeFrom suite b.identity.secret now) (b.start .lastResort)
    (blocks .lastResort) [b.lastResort]
  kyber : MadeInTurn (KyberPrekey.MadeFrom suite b.identity.secret now) (b.start .kyber)
    (blocks .kyber) b.kyber

end Bundle

/-- The blocks of one role's keys, if these are the next that are made. -/
def Entropy.keyBlocks (e : Entropy) (sizes : BatchSizes) : Batch → List Bytes
  | .signed => e.blocks 32 1
  | .oneTime => (e.skip 32).blocks 32 sizes.oneTime.toNat
  | .lastResort => (e.skip (32 + 32 * sizes.oneTime.toNat)).blocks 64 1
  | .kyber => (e.skip (32 + 32 * sizes.oneTime.toNat + 64)).blocks 64 sizes.kyber.toNat

namespace Entropy

variable (e : Entropy) (sizes : BatchSizes)

/-- The stream where the keys of a role begin, after both identities. -/
def ofRole : Role → Entropy
  | .primary => e.skip 64
  | .secondary => e.skip (64 + Batch.bytes sizes (Batch.requests [.primary]))

/-- The keys of the second role follow on those of the first. -/
theorem skip_ofRole_primary :
    (e.ofRole sizes .primary).skip (Batch.bytes sizes (Batch.requests [.primary])) =
      e.ofRole sizes .secondary :=
  skip_skip e 64 _

theorem length_keyBlocks (batch : Batch) :
    (e.keyBlocks sizes batch).length = (batch.count sizes).toNat := by
  cases batch <;> exact length_blocks _ _ _

variable {e sizes} in
theorem length_of_mem_keyBlocks {batch : Batch} {block : Bytes}
    (h : block ∈ e.keyBlocks sizes batch) : block.length = batch.width := by
  cases batch <;> exact length_of_mem_blocks h

/-- The keys of one role take what comes next, without a gap. -/
theorem flatten_keyBlocks (role : Role) :
    (Batch.all.flatMap fun batch => (e.keyBlocks sizes batch).flatten) =
      e.next (Batch.bytes sizes (Batch.requests [role])) := by
  have hbytes : Batch.bytes sizes (Batch.requests [role]) =
      32 + 32 * sizes.oneTime.toNat + 64 + 64 * sizes.kyber.toNat := by
    rw [Batch.bytes_requests]
    omega
  rw [hbytes, next_add, next_add, next_add]
  simp [Batch.all, keyBlocks, flatten_blocks]

/-- Nor is there a gap between the roles. -/
theorem flatten_blocks_ofRole :
    (Batch.requests Role.all).flatMap (fun r => ((e.ofRole sizes r.1).keyBlocks sizes r.2).flatten) =
      (e.skip 64).next (Batch.bytes sizes (Batch.requests Role.all)) := by
  have hrole (role : Role) : (Batch.requests [role]).flatMap
      (fun r => ((e.ofRole sizes r.1).keyBlocks sizes r.2).flatten) =
        (e.ofRole sizes role).next (Batch.bytes sizes (Batch.requests [role])) := by
    rw [← flatten_keyBlocks]
    simp [Batch.requests, List.flatMap_map]
  rw [Batch.requests_all, List.flatMap_append, hrole, hrole, ← skip_ofRole_primary, ← next_add,
    ← Batch.bytes_append, ofRole]

end Entropy

namespace Provisioner

section

variable {σ α β : Type} {s s' : σ} {x : EStateM KeyError σ α} {a : α} {err : KeyError}

theorem onState_bind_of_ok (h : x s = .ok a s') (f : α → Work σ β) (e : Entropy) :
    (onState x >>= f) (s, e) = f a (s', e) := by
  rw [act_bind_eq, onState, h]

theorem onState_bind_of_error (h : x s = .error err s') (f : α → Work σ β) (e : Entropy) :
    (onState x >>= f) (s, e) = .error err (s', e) := by
  rw [act_bind_eq, onState, h]

theorem draw_bind (length : Nat) (f : Bytes → Work σ β) (s : σ) (e : Entropy) :
    (draw length >>= f) (s, e) = f (e.next length) (s, e.skip length) := rfl

theorem drawIdentity_bind (f : IdentityKey → Work σ β) (s : σ) (e : Entropy) :
    (drawIdentity >>= f) (s, e) = f (IdentityKey.draw e).1 (s, e.skip 32) := rfl

/-- Keys that are drawn one after the other are made from the next blocks. -/
theorem mapM_draw_eq (make : UInt32 → Bytes → α) (length : Nat) (wanted : List UInt32) (s : σ)
    (e : Entropy) :
    (wanted.mapM fun id => do return make id (← draw length) : Work σ (List α)) (s, e) =
      .ok (List.zipWith make wanted (e.blocks length wanted.length))
        (s, e.skip (length * wanted.length)) := by
  induction wanted generalizing e with
  | nil => rfl
  | cons id wanted ih =>
    rw [List.mapM_cons, bind_assoc, draw_bind, pure_bind, act_bind_eq, ih, Entropy.skip_skip,
      List.length_cons, Nat.mul_succ, Nat.add_comm length]
    rfl

theorem mapM_draw_bind (make : UInt32 → Bytes → α) (length : Nat) (wanted : List UInt32)
    (f : List α → Work σ β) (s : σ) (e : Entropy) :
    ((wanted.mapM fun id => do return make id (← draw length)) >>= f) (s, e) =
      f (List.zipWith make wanted (e.blocks length wanted.length))
        (s, e.skip (length * wanted.length)) := by
  rw [act_bind_eq, mapM_draw_eq]

end

section

variable {σ : Type} {ledger : Role → LedgerOn σ} {s s' : σ} {firsts : List UInt32}
  {granted : List (Role × Batch)} {err : KeyError}

theorem length_ids (start count : UInt32) : (ids start count).length = count.toNat := by
  simp [ids]

/-- A bundle is made when all its ids are granted, from the next random bytes. -/
theorem generate_of_granted {role : Role} {p : Provisioner}
    (h : Granted ledger p.sizes (Batch.requests [role]) s firsts s') (suite : Suite)
    (identity : IdentityKey) (now : Int64) (e : Entropy) :
    ∃ b : Bundle, p.generate suite (ledger role) role identity now (s, e) =
        .ok b (s', e.skip (Batch.bytes p.sizes (Batch.requests [role]))) ∧
      b.role = role ∧ b.identity = identity ∧ firsts = Batch.all.map b.start ∧
      b.MadeFrom suite now (e.keyBlocks p.sizes) := by
  obtain ⟨first, s₁, s₂, s₃, rfl, hsigned, honeTime, hlastResort, hkyber⟩ := h.exists_first
  have hbytes : 32 + 32 * p.sizes.oneTime.toNat + 64 + 64 * p.sizes.kyber.toNat =
      Batch.bytes p.sizes (Batch.requests [role]) := by
    rw [Batch.bytes_requests]
    omega
  rw [generate, onState_bind_of_ok hsigned, draw_bind, onState_bind_of_ok honeTime, mapM_draw_bind,
    onState_bind_of_ok hlastResort, draw_bind, onState_bind_of_ok hkyber, mapM_draw_bind,
    act_pure_eq]
  simp only [length_ids, Entropy.skip_skip, hbytes]
  refine ⟨_, rfl, rfl, rfl, rfl, ?_⟩
  exact
    { signed := .singleton ⟨rfl, rfl, rfl, rfl, rfl⟩
      oneTime := .zipWith (fun _ _ => ⟨rfl, rfl, rfl⟩) (Entropy.length_blocks _ _ _)
      lastResort := .singleton ⟨rfl, rfl, rfl, rfl, rfl⟩
      kyber := .zipWith (fun _ _ => ⟨rfl, rfl, rfl, rfl, rfl⟩) (Entropy.length_blocks _ _ _) }

/-- The first request that is refused ends the work, after the batches before it were made. -/
theorem generate_of_refused {role : Role} {p : Provisioner}
    (h : Refused ledger p.sizes (Batch.requests [role]) s granted err s') (suite : Suite)
    (identity : IdentityKey) (now : Int64) (e : Entropy) :
    p.generate suite (ledger role) role identity now (s, e) =
      .error err (s', e.skip (Batch.bytes p.sizes granted)) := by
  rw [generate]
  obtain hsigned | ⟨hsigned, h⟩ := h
  · exact onState_bind_of_error hsigned _ e
  refine (onState_bind_of_ok hsigned _ e).trans ?_
  rw [draw_bind]
  obtain honeTime | ⟨honeTime, h⟩ := h
  · exact onState_bind_of_error honeTime _ _
  refine (onState_bind_of_ok honeTime _ _).trans ?_
  rw [mapM_draw_bind, length_ids, Entropy.skip_skip]
  obtain hlastResort | ⟨hlastResort, h⟩ := h
  · exact onState_bind_of_error hlastResort _ _
  refine (onState_bind_of_ok hlastResort _ _).trans ?_
  rw [draw_bind, Entropy.skip_skip]
  obtain hkyber | ⟨-, h⟩ := h
  · refine (onState_bind_of_error hkyber _ _).trans ?_
    simp [Batch.bytes, Batch.width, Batch.count, Nat.add_assoc]
  · cases h

/-- The identities are drawn before anything is asked of a ledger. -/
theorem generateBoth_eq (suite : Suite) (p : Provisioner) (ledger : Role → LedgerOn σ) (now : Int64)
    (s : σ) (e : Entropy) :
    p.generateBoth suite ledger now (s, e) =
      match p.generate suite (ledger .primary) .primary (IdentityKey.draw e).1 now
        (s, e.ofRole p.sizes .primary) with
      | .error err t => .error err t
      | .ok b t =>
        match p.generate suite (ledger .secondary) .secondary (IdentityKey.draw (e.skip 32)).1 now t with
        | .error err t' => .error err t'
        | .ok b' t' => .ok ⟨b, b'⟩ t' := by
  have hstream : e.ofRole p.sizes .primary = e.skip (32 + 32) := rfl
  rw [generateBoth, drawIdentity_bind, drawIdentity_bind, Entropy.skip_skip, hstream, act_bind_eq]
  cases p.generate suite (ledger .primary) .primary (IdentityKey.draw e).1 now
    (s, e.skip (32 + 32)) with
  | error err t => rfl
  | ok b t =>
    dsimp only
    rw [act_bind_eq]
    cases p.generate suite (ledger .secondary) .secondary (IdentityKey.draw (e.skip 32)).1 now t <;>
      rfl

/-- Both bundles are made when all their ids are granted. -/
theorem generateBoth_of_granted {p : Provisioner}
    (h : Granted ledger p.sizes (Batch.requests Role.all) s firsts s') (suite : Suite) (now : Int64)
    (e : Entropy) :
    ∃ bundles : PerRole Bundle, p.generateBoth suite ledger now (s, e) =
        .ok bundles (s', e.skip (64 + Batch.bytes p.sizes (Batch.requests Role.all))) ∧
      bundles.primary.identity.secret = e.next 32 ∧
      bundles.secondary.identity.secret = (e.skip 32).next 32 ∧
      firsts = Batch.all.map bundles.primary.start ++ Batch.all.map bundles.secondary.start ∧
      ∀ role, (bundles.get role).role = role ∧
        (bundles.get role).MadeFrom suite now ((e.ofRole p.sizes role).keyBlocks p.sizes) := by
  rw [Batch.requests_all] at h ⊢
  obtain ⟨firsts₁, firsts₂, s₁, rfl, hprimary, hsecondary⟩ := h.exists_of_append
  obtain ⟨b, hb, hrole, hidentity, rfl, hmade⟩ := generate_of_granted hprimary suite
    (IdentityKey.draw e).1 now (e.ofRole p.sizes .primary)
  obtain ⟨b', hb', hrole', hidentity', rfl, hmade'⟩ := generate_of_granted hsecondary suite
    (IdentityKey.draw (e.skip 32)).1 now (e.ofRole p.sizes .secondary)
  refine ⟨⟨b, b'⟩, ?_, congrArg IdentityKey.secret hidentity, congrArg IdentityKey.secret hidentity',
    rfl, fun role => ?_⟩
  · rw [generateBoth_eq, hb, e.skip_ofRole_primary]
    dsimp only
    rw [hb', Batch.bytes_append, Entropy.ofRole, Entropy.skip_skip, Nat.add_assoc]
  · cases role with
    | primary => exact ⟨hrole, hmade⟩
    | secondary => exact ⟨hrole', hmade'⟩

/-- The first request that is refused ends the work on both bundles. -/
theorem generateBoth_of_refused {p : Provisioner}
    (h : Refused ledger p.sizes (Batch.requests Role.all) s granted err s') (suite : Suite)
    (now : Int64) (e : Entropy) :
    p.generateBoth suite ledger now (s, e) =
      .error err (s', e.skip (64 + Batch.bytes p.sizes granted)) := by
  rw [Batch.requests_all] at h
  rcases h.cases_of_append with hprimary | ⟨firsts, s₁, granted', rfl, hprimary, hsecondary⟩
  · rw [generateBoth_eq, generate_of_refused hprimary, Entropy.ofRole, Entropy.skip_skip]
  · obtain ⟨b, hb, -⟩ := generate_of_granted hprimary suite (IdentityKey.draw e).1 now
      (e.ofRole p.sizes .primary)
    rw [generateBoth_eq, hb, e.skip_ofRole_primary]
    dsimp only
    rw [generate_of_refused hsecondary, Batch.bytes_append, Entropy.ofRole, Entropy.skip_skip,
      Nat.add_assoc]

end

/-- How many random bytes both bundles take, the identities among them. -/
def bytes (p : Provisioner) : Nat :=
  64 + 2 * (96 + 32 * p.sizes.oneTime.toNat + 64 * p.sizes.kyber.toNat)

theorem bytes_eq (p : Provisioner) :
    p.bytes = 64 + Batch.bytes p.sizes (Batch.requests Role.all) := by
  rw [bytes, Batch.requests_all, Batch.bytes_append, Batch.bytes_requests, Batch.bytes_requests]
  omega

/--
However the ledgers answer, the keys are made from the stream as it comes, each from bytes of its
own: first both identities, and then batch by batch the keys of the one role and of the other. A
request that is refused leaves everything after the batches before it unused.
-/
theorem generateBoth_draws_in_order {σ : Type} (suite : Suite) (p : Provisioner)
    (ledger : Role → LedgerOn σ) (now : Int64) (s : σ) (e : Entropy) :
    (∃ (firsts : List UInt32) (s' : σ) (bundles : PerRole Bundle) (blocks : Role → Batch → List Bytes),
      Granted ledger p.sizes (Batch.requests Role.all) s firsts s' ∧
      p.generateBoth suite ledger now (s, e) = .ok bundles (s', e.skip p.bytes) ∧
      firsts = Batch.all.map bundles.primary.start ++ Batch.all.map bundles.secondary.start ∧
      e.next p.bytes = bundles.primary.identity.secret ++ bundles.secondary.identity.secret ++
        (Batch.requests Role.all).flatMap (fun r => (blocks r.1 r.2).flatten) ∧
      ∀ role, (bundles.get role).MadeFrom suite now (blocks role) ∧
        ∀ batch, (blocks role batch).length = (batch.count p.sizes).toNat ∧
          ∀ block ∈ blocks role batch, block.length = batch.width) ∨
    ∃ (granted : List (Role × Batch)) (err : KeyError) (s' : σ),
      Refused ledger p.sizes (Batch.requests Role.all) s granted err s' ∧
      p.generateBoth suite ledger now (s, e) =
        .error err (s', e.skip (64 + Batch.bytes p.sizes granted)) := by
  rcases granted_or_refused ledger p.sizes (Batch.requests Role.all) s with
    ⟨firsts, s', hgranted⟩ | ⟨granted, err, s', hrefused⟩
  · obtain ⟨bundles, hboth, hprimary, hsecondary, hfirsts, hbundles⟩ :=
      generateBoth_of_granted hgranted suite now e
    rw [← bytes_eq] at hboth
    refine Or.inl ⟨firsts, s', bundles, fun role => (e.ofRole p.sizes role).keyBlocks p.sizes,
      hgranted, hboth, hfirsts, ?_, fun role => ⟨(hbundles role).2, fun batch =>
        ⟨Entropy.length_keyBlocks _ _ batch, fun block => Entropy.length_of_mem_keyBlocks⟩⟩⟩
    rw [hprimary, hsecondary, e.flatten_blocks_ofRole, ← e.next_add 32 32, bytes_eq]
    exact e.next_add 64 _
  · exact Or.inr ⟨granted, err, s', hrefused, generateBoth_of_refused hrefused suite now e⟩

end Provisioner

/-! ### Drawing on a device -/

section

variable {d d' : Device} {e : Entropy}

theorem drawing_ok {α : Type} {x : Provisioner.Work Device α} {a : α} {e : Entropy}
    (h : x (d, d.entropy) = .ok a (d', e)) :
    Device.drawing x d = .ok a { d' with entropy := e } := by
  rw [Device.drawing, h]

theorem drawing_error {α : Type} {x : Provisioner.Work Device α} {err : KeyError} {e : Entropy}
    (h : x (d, d.entropy) = .error err (d', e)) :
    Device.drawing x d = .error err { d' with entropy := e } := by
  rw [Device.drawing, h]

end

end Registrar
