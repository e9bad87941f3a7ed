import Registrar.Prekey.Bundle
import Registrar.Prekey.Ledger

/-!
Making the bundles of a registration.

Ids are handed out by the ledger of the role as soon as their keys are made, group by group: the
signed prekey, the prekeys for one use, the last resort, the encapsulation keys for one use. Nothing
else is kept; of an attempt that is given up only the ids are lost.
-/

namespace Registrar

/-- How many keys for one use are made at a time. -/
structure BatchSizes where
  oneTime : UInt32 := 100
  kyber : UInt32 := 100
  deriving Repr, DecidableEq

open Json in
instance : Format BatchSizes where
  reader := Reader.record "ProvisioningConfig"
    [Reader.optional "one_time_prekey_batch" Reader.u32 (.number 100),
      Reader.optional "kyber_prekey_batch" Reader.u32 (.number 100)]
  toJson s := .object
    [("one_time_prekey_batch", ofUInt32 s.oneTime), ("kyber_prekey_batch", ofUInt32 s.kyber)]
  ofJson? j := do
    some
      { oneTime := ← (← j.field? "one_time_prekey_batch") |> toUInt32?
        kyber := ← (← j.field? "kyber_prekey_batch") |> toUInt32? }

def OneTimePrekey.make (suite : Suite) (id : UInt32) (secret : Bytes) : OneTimePrekey :=
  ⟨id, suite.agreementPublic secret, secret⟩

def SignedPrekey.make (suite : Suite) (identity : IdentityKey) (now : Int64) (id : UInt32)
    (secret : Bytes) : SignedPrekey :=
  let publicKey := suite.agreementPublic secret
  ⟨id, publicKey, secret, identity.sign suite publicKey, now⟩

def KyberPrekey.make (suite : Suite) (identity : IdentityKey) (now : Int64) (id : UInt32)
    (seeds : Bytes) : KyberPrekey :=
  let pair := suite.encapsulation (seeds.take 32) (seeds.drop 32)
  ⟨id, pair.encapsulationKey, pair.decapsulationKey, identity.sign suite pair.encapsulationKey, now⟩

/-- Batch sizes that are not zero. -/
structure Provisioner where
  sizes : BatchSizes
  oneTime_ne_zero : sizes.oneTime ≠ 0
  kyber_ne_zero : sizes.kyber ≠ 0

namespace Provisioner

def ofSizes (sizes : BatchSizes) : Except KeyError Provisioner :=
  if h : sizes.oneTime ≠ 0 ∧ sizes.kyber ≠ 0 then .ok ⟨sizes, h.1, h.2⟩
  else .error (.prekey "prekey batch sizes must be non-zero")

def standard : Provisioner := ⟨{}, by decide, by decide⟩

/-- Work on a state of some kind while drawing on randomness. What is done stays done on failure. -/
abbrev Work (σ : Type) := EStateM KeyError (σ × Entropy)

variable {σ α : Type}

def draw (length : Nat) : Work σ Bytes := fun (s, e) => .ok (e.next length) (s, e.skip length)

def onState (x : EStateM KeyError σ α) : Work σ α := fun (s, e) =>
  match x s with
  | .ok a s => .ok a (s, e)
  | .error err s => .error err (s, e)

def ids (start count : UInt32) : List UInt32 :=
  (List.range count.toNat).map fun i => start + UInt32.ofNat i

abbrev LedgerOn (σ : Type) := (r : Ledger.Request) → EStateM KeyError σ r.Reply

def generate (suite : Suite) (p : Provisioner) (ledger : LedgerOn σ) (role : Role)
    (identity : IdentityKey) (now : Int64) : Work σ Bundle := do
  let signedId ← onState (ledger (.reserve .signed 1))
  let signed := SignedPrekey.make suite identity now signedId (← draw 32)
  let oneTimeStart ← onState (ledger (.reserve .oneTime p.sizes.oneTime))
  let oneTime ← (ids oneTimeStart p.sizes.oneTime).mapM fun id => do
    return OneTimePrekey.make suite id (← draw 32)
  let lastResortId ← onState (ledger (.reserve .kyber 1))
  let lastResort := KyberPrekey.make suite identity now lastResortId (← draw 64)
  let kyberStart ← onState (ledger (.reserve .kyber p.sizes.kyber))
  let kyber ← (ids kyberStart p.sizes.kyber).mapM fun id => do
    return KyberPrekey.make suite identity now id (← draw 64)
  return {
    role, identity, signedId, oneTimeStart, lastResortId, kyberStart, signed, oneTime, lastResort
    kyber }

def drawIdentity : Work σ IdentityKey := fun (s, e) =>
  let (key, e) := IdentityKey.draw e
  .ok key (s, e)

/-- Makes a fresh identity for each role, and then a bundle for each. -/
def generateBoth (suite : Suite) (p : Provisioner) (ledger : Role → LedgerOn σ) (now : Int64) :
    Work σ (PerRole Bundle) := do
  let primary ← drawIdentity
  let secondary ← drawIdentity
  return {
    primary := ← p.generate suite (ledger .primary) .primary primary now
    secondary := ← p.generate suite (ledger .secondary) .secondary secondary now }

end Provisioner

end Registrar
