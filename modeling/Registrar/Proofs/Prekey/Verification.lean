import Registrar.Proofs.Prekey.Counting
import Registrar.Proofs.Prekey.Drawing

/-!
Checking the signatures of a bundle.

The checks look at public keys and signatures alone, so whoever gets the public half of a bundle can
make them as well as its owner. They end at the first signature that is not accepted.
-/

namespace Registrar

/-! ### One signature -/

def Suite.Accepts (suite : Suite) (key message signature : Bytes) : Prop :=
  suite.verify key message signature = .ok ()

/-- The signature that an identity secret makes of a message is accepted under its public key. -/
def Suite.AcceptsOwn (suite : Suite) (secret message : Bytes) : Prop :=
  suite.verify (suite.identityPublic secret) message (suite.sign secret message) = .ok ()

/-- What is reported of a signature that fails for a certain cause, and the words for it. -/
inductive Told : Ed25519.Failure → KeyError → String → Prop
  | keyLength : Told .keyLength (.invalidKey "identity public key wrong length")
      "invalid key material: identity public key wrong length"
  | keyPoint : Told .keyPoint
      (.invalidKey
        "invalid identity public key: signature error: Cannot decompress Edwards point")
      ("invalid key material: invalid identity public key: " ++
        "signature error: Cannot decompress Edwards point")
  | signatureLength : Told .signatureLength
      (.verification "malformed signature: signature error")
      "verification failed: malformed signature: signature error"
  | scalarRange : Told .scalarRange
      (.verification "signature error: Cannot use scalar with high-bit set")
      "verification failed: signature error: Cannot use scalar with high-bit set"
  | equation : Told .equation
      (.verification "signature error: Verification equation was not satisfied")
      "verification failed: signature error: Verification equation was not satisfied"

theorem told_iff {cause : Ed25519.Failure} {e : KeyError} {words : String} :
    Told cause e words ↔ e = .ofSignature cause ∧ words = (KeyError.ofSignature cause).message := by
  constructor
  · intro h
    cases h <;> exact ⟨rfl, rfl⟩
  · rintro ⟨rfl, rfl⟩
    cases cause with
    | keyLength => exact .keyLength
    | keyPoint => exact .keyPoint
    | signatureLength => exact .signatureLength
    | scalarRange => exact .scalarRange
    | equation => exact .equation

theorem exists_told_iff {cause : Ed25519.Failure} {e : KeyError} :
    (∃ words, Told cause e words) ↔ e = .ofSignature cause := by
  simp only [told_iff, exists_and_left, exists_eq, and_true]

section

variable {suite : Suite} {key message signature : Bytes}

theorem check_eq_ok_iff :
    suite.check key message signature = .ok () ↔ suite.Accepts key message signature := by
  rw [Suite.check, Suite.Accepts]
  cases suite.verify key message signature <;> simp [Except.mapError]

theorem check_eq_error_iff {e : KeyError} : suite.check key message signature = .error e ↔
    ∃ cause, suite.verify key message signature = .error cause ∧ e = .ofSignature cause := by
  rw [Suite.check]
  cases suite.verify key message signature <;> simp [Except.mapError, eq_comm]

theorem not_accepts_of_verify_eq_error {cause : Ed25519.Failure}
    (h : suite.verify key message signature = .error cause) :
    ¬suite.Accepts key message signature := by
  rw [Suite.Accepts, h]
  simp

end

/-! ### The encapsulation keys -/

/-- What is reported of an encapsulation key whose signature fails. -/
def KeyError.ofKyber (id : UInt32) (cause : Ed25519.Failure) : KeyError :=
  .verification ("kyber prekey " ++ toString id ++ ": " ++ (KeyError.ofSignature cause).message)

theorem exists_told_of_kyber_iff {id : UInt32} {cause : Ed25519.Failure} {e : KeyError} :
    (∃ report words, Told cause report words ∧
        e = .verification ("kyber prekey " ++ toString id ++ ": " ++ words)) ↔
      e = .ofKyber id cause := by
  simp only [told_iff, KeyError.ofKyber]
  constructor
  · rintro ⟨report, words, ⟨-, rfl⟩, rfl⟩
    rfl
  · rintro rfl
    exact ⟨_, _, ⟨rfl, rfl⟩, rfl⟩

namespace KyberPrekey

/-- The signature of a key is accepted under an identity's public key. -/
def Accepted (suite : Suite) (identity : Bytes) (k : KyberPrekey) : Prop :=
  suite.Accepts identity k.publicKey k.signature

/-- A key is the first of some whose signature is not accepted. -/
def FirstRefused (suite : Suite) (identity : Bytes) (keys : List KyberPrekey) (k : KyberPrekey)
    (cause : Ed25519.Failure) : Prop :=
  ∃ before after, keys = before ++ k :: after ∧ (∀ j ∈ before, j.Accepted suite identity) ∧
    suite.verify identity k.publicKey k.signature = .error cause

section

variable {suite : Suite} {identity : Bytes} {keys : List KyberPrekey} {j k : KyberPrekey}
  {cause cause' : Ed25519.Failure}

theorem firstRefused_cons_of_error
    (hj : suite.verify identity j.publicKey j.signature = .error cause') :
    FirstRefused suite identity (j :: keys) k cause ↔ k = j ∧ cause = cause' := by
  constructor
  · rintro ⟨before, after, hkeys, hbefore, hk⟩
    cases before with
    | nil =>
      obtain ⟨rfl, -⟩ := List.cons.inj hkeys
      exact ⟨rfl, Except.error.inj (hk.symm.trans hj)⟩
    | cons i before =>
      obtain ⟨rfl, -⟩ := List.cons.inj hkeys
      exact absurd (hbefore j List.mem_cons_self) (not_accepts_of_verify_eq_error hj)
  · rintro ⟨rfl, rfl⟩
    exact ⟨[], keys, rfl, by simp, hj⟩

theorem firstRefused_cons_of_accepted (hj : j.Accepted suite identity) :
    FirstRefused suite identity (j :: keys) k cause ↔
      FirstRefused suite identity keys k cause := by
  constructor
  · rintro ⟨before, after, hkeys, hbefore, hk⟩
    cases before with
    | nil =>
      obtain ⟨rfl, -⟩ := List.cons.inj hkeys
      exact absurd hj (not_accepts_of_verify_eq_error hk)
    | cons i before =>
      obtain ⟨-, rfl⟩ := List.cons.inj hkeys
      exact ⟨before, after, rfl, (List.forall_mem_cons.1 hbefore).2, hk⟩
  · rintro ⟨before, after, rfl, hbefore, hk⟩
    exact ⟨j :: before, after, rfl, List.forall_mem_cons.2 ⟨hj, hbefore⟩, hk⟩

end

end KyberPrekey

section

variable {suite : Suite} {identity : Bytes} {keys : List KyberPrekey}

/-- One key is checked, and then the rest. -/
theorem verifyKyber_cons (k : KyberPrekey) : Bundle.verifyKyber suite identity (k :: keys) =
    match suite.verify identity k.publicKey k.signature with
    | .error cause => .error (.ofKyber k.id cause)
    | .ok () => Bundle.verifyKyber suite identity keys := by
  rw [Bundle.verifyKyber, Suite.check]
  cases suite.verify identity k.publicKey k.signature <;> rfl

theorem verifyKyber_eq_ok_iff : Bundle.verifyKyber suite identity keys = .ok () ↔
    ∀ k ∈ keys, k.Accepted suite identity := by
  induction keys with
  | nil => simp [Bundle.verifyKyber]
  | cons k keys ih =>
    rw [verifyKyber_cons, List.forall_mem_cons, ← ih, KyberPrekey.Accepted, Suite.Accepts]
    cases suite.verify identity k.publicKey k.signature <;> simp

/-- The report is about the first key whose signature is not accepted. -/
theorem verifyKyber_eq_error_iff {e : KeyError} :
    Bundle.verifyKyber suite identity keys = .error e ↔
      ∃ k cause, KyberPrekey.FirstRefused suite identity keys k cause ∧ e = .ofKyber k.id cause := by
  induction keys with
  | nil => simp [Bundle.verifyKyber, KyberPrekey.FirstRefused]
  | cons j keys ih =>
    rw [verifyKyber_cons]
    cases hj : suite.verify identity j.publicKey j.signature with
    | error cause =>
      simp only [KyberPrekey.firstRefused_cons_of_error hj]
      constructor
      · intro h
        exact ⟨j, cause, ⟨rfl, rfl⟩, (Except.error.inj h).symm⟩
      · rintro ⟨k, cause', ⟨rfl, rfl⟩, rfl⟩
        rfl
    | ok u =>
      simp only [KyberPrekey.firstRefused_cons_of_accepted hj]
      exact ih

end

/-! ### A whole bundle -/

namespace Bundle

section

variable {suite : Suite} {b : Bundle}

/-- The signature of every key that has one is accepted. -/
def Accepted (suite : Suite) (b : Bundle) : Prop :=
  suite.Accepts (suite.identityPublic b.identity.secret) b.signed.publicKey b.signed.signature ∧
    b.lastResort.Accepted suite (suite.identityPublic b.identity.secret) ∧
      ∀ k ∈ b.kyber, k.Accepted suite (suite.identityPublic b.identity.secret)

/-- What the checks of a bundle report: which signature is the first that fails, and why. -/
def Reports (suite : Suite) (b : Bundle) (e : KeyError) : Prop :=
  (∃ cause words, suite.verify (suite.identityPublic b.identity.secret) b.signed.publicKey
      b.signed.signature = .error cause ∧ Told cause e words) ∨
    suite.Accepts (suite.identityPublic b.identity.secret) b.signed.publicKey b.signed.signature ∧
      ∃ k cause, KyberPrekey.FirstRefused suite (suite.identityPublic b.identity.secret)
        (b.lastResort :: b.kyber) k cause ∧
        ∃ report words, Told cause report words ∧
          e = .verification ("kyber prekey " ++ toString k.id ++ ": " ++ words)

theorem verify_eq (b : Bundle) : b.verify suite =
    match suite.check (suite.identityPublic b.identity.secret) b.signed.publicKey
      b.signed.signature with
    | .error e => .error e
    | .ok () => verifyKyber suite (suite.identityPublic b.identity.secret)
      (b.lastResort :: b.kyber) := rfl

theorem verify_eq_ok_iff : b.verify suite = .ok () ↔ b.Accepted suite := by
  rw [verify_eq, Accepted, ← check_eq_ok_iff, ← List.forall_mem_cons, ← verifyKyber_eq_ok_iff]
  cases suite.check (suite.identityPublic b.identity.secret) b.signed.publicKey
    b.signed.signature <;> simp

theorem verify_eq_error_iff {e : KeyError} : b.verify suite = .error e ↔ b.Reports suite e := by
  simp only [Reports, exists_and_left, exists_told_iff, exists_told_of_kyber_iff]
  rw [verify_eq, ← check_eq_error_iff, ← verifyKyber_eq_error_iff, ← check_eq_ok_iff]
  cases suite.check (suite.identityPublic b.identity.secret) b.signed.publicKey
    b.signed.signature <;> simp

end

end Bundle

/-! ### What is sent of it -/

namespace PublicBundle

/-- The checks of a bundle, made on its public half alone. -/
def verify (suite : Suite) (b : PublicBundle) : Except KeyError Unit := do
  suite.check b.identityKey b.signed.publicKey b.signed.signature
  forM (b.lastResort :: b.kyber) fun k =>
    (suite.check b.identityKey k.publicKey k.signature).mapError fun e =>
      .verification ("kyber prekey " ++ toString k.keyId ++ ": " ++ e.message)

end PublicBundle

namespace Bundle

variable {suite : Suite} {b b' : Bundle}

theorem forM_toPublic (identity : Bytes) (keys : List KyberPrekey) :
    (forM (keys.map KyberPrekey.toPublic) fun k =>
      (suite.check identity k.publicKey k.signature).mapError fun e =>
        .verification ("kyber prekey " ++ toString k.keyId ++ ": " ++ e.message)) =
      verifyKyber suite identity keys := by
  induction keys with
  | nil => rfl
  | cons k keys ih =>
    rw [List.map_cons, List.forM_cons, ih, verifyKyber, KyberPrekey.toPublic]
    cases suite.check identity k.publicKey k.signature <;> rfl

/-- Whoever gets the public half finds what the owner finds. -/
theorem verify_toPublic (b : Bundle) : (b.toPublic suite).verify suite = b.verify suite := by
  rw [verify_eq, ← forM_toPublic, PublicBundle.verify]
  change suite.check (suite.identityPublic b.identity.secret) b.signed.publicKey
    b.signed.signature >>= _ = _
  cases suite.check (suite.identityPublic b.identity.secret) b.signed.publicKey
    b.signed.signature <;> rfl

/-- Two bundles differ in private key bytes only. -/
structure SameButSecrets (suite : Suite) (b b' : Bundle) : Prop where
  role : b'.role = b.role
  identity : suite.identityPublic b'.identity.secret = suite.identityPublic b.identity.secret
  signed : b'.signed = { b.signed with privateKey := b'.signed.privateKey }
  oneTime : List.Forall₂ (fun k k' => k' = { k with privateKey := k'.privateKey }) b.oneTime b'.oneTime
  lastResort : b'.lastResort = { b.lastResort with secretKey := b'.lastResort.secretKey }
  kyber : List.Forall₂ (fun k k' => k' = { k with secretKey := k'.secretKey }) b.kyber b'.kyber

theorem map_eq_of_forall₂ {α β : Type} {R : α → α → Prop} {f : α → β} {l l' : List α}
    (h : List.Forall₂ R l l') (hf : ∀ {a a'}, R a a' → f a = f a') : l.map f = l'.map f := by
  rw [← List.forall₂_eq_eq_eq, List.forall₂_map_left_iff, List.forall₂_map_right_iff]
  exact h.imp fun _ _ => hf

theorem toPublic_congr (h : b.SameButSecrets suite b') : b.toPublic suite = b'.toPublic suite := by
  have hsigned : b.signed.toPublic = b'.signed.toPublic := by rw [h.signed]; rfl
  have hlastResort : b.lastResort.toPublic = b'.lastResort.toPublic := by rw [h.lastResort]; rfl
  have honeTime : b.oneTime.map OneTimePrekey.toPublic = b'.oneTime.map OneTimePrekey.toPublic :=
    map_eq_of_forall₂ h.oneTime fun hk => by rw [hk]; rfl
  have hkyber : b.kyber.map KyberPrekey.toPublic = b'.kyber.map KyberPrekey.toPublic :=
    map_eq_of_forall₂ h.kyber fun hk => by rw [hk]; rfl
  simp only [toPublic, IdentityKey.publicKey, h.role, h.identity, hsigned, honeTime, hlastResort,
    hkyber]

/-! ### Bundles that were made -/

/-- The public keys that are signed, in the order in which they are checked. -/
def messages (b : Bundle) : List Bytes :=
  b.signed.publicKey :: (b.lastResort :: b.kyber).map KyberPrekey.publicKey

/-- Every signature of a bundle is the one that its identity makes. -/
structure SelfSigned (suite : Suite) (b : Bundle) : Prop where
  signed : b.signed.signature = suite.sign b.identity.secret b.signed.publicKey
  kyber : ∀ k ∈ b.lastResort :: b.kyber, k.signature = suite.sign b.identity.secret k.publicKey

theorem MadeFrom.selfSigned {now : Int64} {blocks : Batch → List Bytes}
    (h : b.MadeFrom suite now blocks) : b.SelfSigned suite where
  signed := by
    obtain ⟨id, block, -, hmade⟩ := h.signed.exists_of_mem List.mem_cons_self
    exact hmade.signature
  kyber := by
    refine List.forall_mem_cons.2 ⟨?_, fun k hk => ?_⟩
    · obtain ⟨id, block, -, hmade⟩ := h.lastResort.exists_of_mem List.mem_cons_self
      exact hmade.signature
    · obtain ⟨id, block, -, hmade⟩ := h.kyber.exists_of_mem hk
      exact hmade.signature

theorem SelfSigned.accepted_iff (h : b.SelfSigned suite) :
    b.Accepted suite ↔ ∀ message ∈ b.messages, suite.AcceptsOwn b.identity.secret message := by
  have hkyber : (∀ k ∈ b.lastResort :: b.kyber,
        k.Accepted suite (suite.identityPublic b.identity.secret)) ↔
      ∀ k ∈ b.lastResort :: b.kyber, suite.AcceptsOwn b.identity.secret k.publicKey := by
    refine forall₂_congr fun k hk => ?_
    rw [KyberPrekey.Accepted, h.kyber k hk, Suite.Accepts, Suite.AcceptsOwn]
  have hmessages : (∀ message ∈ b.messages, suite.AcceptsOwn b.identity.secret message) ↔
      suite.AcceptsOwn b.identity.secret b.signed.publicKey ∧
        ∀ k ∈ b.lastResort :: b.kyber, suite.AcceptsOwn b.identity.secret k.publicKey := by
    rw [messages, List.forall_mem_cons, List.forall_mem_map]
  rw [Accepted, ← List.forall_mem_cons, hkyber, h.signed, hmessages, Suite.Accepts,
    Suite.AcceptsOwn]

end Bundle

theorem Provisioner.selfSigned_of_generate {σ : Type} {ledger : LedgerOn σ} {suite : Suite}
    {p : Provisioner} {role : Role} {identity : IdentityKey} {now : Int64} {s s' : σ × Entropy}
    {b : Bundle} (h : p.generate suite ledger role identity now s = .ok b s') :
    b.identity = identity ∧ b.SelfSigned suite := by
  rcases granted_or_refused (fun _ => ledger) p.sizes (Batch.requests [role]) s.1 with
    ⟨firsts, t, hgranted⟩ | ⟨granted, e, t, hrefused⟩
  · obtain ⟨made, hmade, -, hidentity, -, hfrom⟩ :=
      generate_of_granted hgranted suite identity now s.2
    cases hmade.symm.trans h
    exact ⟨hidentity, hfrom.selfSigned⟩
  · cases (generate_of_refused hrefused suite identity now s.2).symm.trans h

/-! ### Verification -/

/--
A bundle passes its checks exactly when all its signatures are accepted, and otherwise the report
is about the first that is not: the signed prekey, then the last resort, then the encapsulation
keys for one use. The public half has the same keys in the same order, and the checks come out on
it as they do on the bundle, whatever the private bytes are. Whichever ledger gave the ids, a
bundle that was made passes if and only if the signatures that its identity makes of its keys are
accepted.
-/
theorem Bundle.verification_exact (suite : Suite) (b : Bundle) :
    (b.verify suite = .ok () ↔ b.Accepted suite) ∧
    (∀ e, b.verify suite = .error e ↔ b.Reports suite e) ∧
    (b.toPublic suite).verify suite = b.verify suite ∧
    (b.toPublic suite).identityKey = suite.identityPublic b.identity.secret ∧
    (b.toPublic suite).signed = ⟨b.signed.id, b.signed.publicKey, b.signed.signature⟩ ∧
    (b.toPublic suite).oneTime = b.oneTime.map (fun k => ⟨k.id, k.publicKey⟩) ∧
    (b.toPublic suite).lastResort :: (b.toPublic suite).kyber =
      (b.lastResort :: b.kyber).map (fun k => ⟨k.id, k.publicKey, k.signature⟩) ∧
    (∀ b' : Bundle, b.SameButSecrets suite b' →
      b'.toPublic suite = b.toPublic suite ∧ b'.verify suite = b.verify suite) ∧
    ∀ {σ : Type} (ledger : Provisioner.LedgerOn σ) (p : Provisioner) (role : Role)
      (identity : IdentityKey) (now : Int64) (s s' : σ × Entropy),
      p.generate suite ledger role identity now s = .ok b s' →
        (b.verify suite = .ok () ↔ ∀ message ∈ b.messages, suite.AcceptsOwn identity.secret message) ∧
        ((b.toPublic suite).verify suite = .ok () ↔
          ∀ message ∈ b.messages, suite.AcceptsOwn identity.secret message) := by
  refine ⟨verify_eq_ok_iff, fun e => verify_eq_error_iff, verify_toPublic b, rfl, rfl, rfl, rfl, ?_, ?_⟩
  · intro b' h
    have hpublic := toPublic_congr h
    exact ⟨hpublic.symm, by rw [← verify_toPublic, ← verify_toPublic, hpublic]⟩
  · intro σ ledger p role identity now s s' h
    obtain ⟨rfl, hself⟩ := Provisioner.selfSigned_of_generate h
    have hverify := verify_eq_ok_iff.trans hself.accepted_iff
    exact ⟨hverify, verify_toPublic b ▸ hverify⟩

/-- Keys that are their own secrets, and signatures that show the message. -/
def Suite.plain : Suite where
  identityPublic := id
  sign secret message := secret ++ message
  verify key message signature := if signature = key ++ message then .ok () else .error .equation
  agreementPublic := id
  encapsulation d z := ⟨d, z⟩

theorem Suite.acceptsOwn_plain (secret message : Bytes) :
    Suite.plain.AcceptsOwn secret message :=
  if_pos rfl

theorem Sample.exists_generate_plain : ∃ b s', provisioner.generate Suite.plain
    (Device.ledger .primary) .primary (IdentityKey.draw entropy).1 0 (.fresh entropy, entropy) =
      .ok b s' := by
  have hsome : (answerOf? (provisioner.generate Suite.plain (Device.ledger .primary) .primary
      (IdentityKey.draw entropy).1 0 (.fresh entropy, entropy))).isSome = true := by
    decide +kernel
  obtain ⟨b, hb⟩ := Option.isSome_iff_exists.1 hsome
  exact ⟨b, _, eq_ok_of_answerOf? hb⟩

theorem Bundle.verification_exact_sample :
    (Sample.bundles.primary.verify Suite.standard = .ok () ↔
      ∀ message ∈ Sample.bundles.primary.messages,
        Suite.standard.AcceptsOwn Sample.bundles.primary.identity.secret message) ∧
    ∃ b s', Sample.provisioner.generate Suite.plain (Device.ledger .primary) .primary
        (IdentityKey.draw Sample.entropy).1 0 (.fresh Sample.entropy, Sample.entropy) = .ok b s' ∧
      b.verify Suite.plain = .ok () ∧ (b.toPublic Suite.plain).verify Suite.plain = .ok () := by
  constructor
  · obtain ⟨s', hboth⟩ :=
      exists_of_generateBoth_eq_ok (eq_ok_of_answerOf? Sample.answerOf?_generateBoth)
    obtain ⟨identity, -, e, s₁, hgenerate, -⟩ := exists_generate_of_generateBoth hboth
    obtain ⟨rfl, -⟩ := Provisioner.selfSigned_of_generate hgenerate
    obtain ⟨-, -, -, -, -, -, -, -, hmade⟩ :=
      Bundle.verification_exact Suite.standard Sample.bundles.primary
    exact (hmade _ _ _ _ _ _ _ hgenerate).1
  · obtain ⟨b, s', hgenerate⟩ := Sample.exists_generate_plain
    obtain ⟨-, -, -, -, -, -, -, -, hmade⟩ := Bundle.verification_exact Suite.plain b
    obtain ⟨hverify, hpublic⟩ := hmade _ _ _ _ _ _ _ hgenerate
    have haccepts (message : Bytes) (_ : message ∈ b.messages) :=
      Suite.acceptsOwn_plain (IdentityKey.draw Sample.entropy).1.secret message
    exact ⟨b, s', hgenerate, hverify.2 haccepts, hpublic.2 haccepts⟩

end Registrar
