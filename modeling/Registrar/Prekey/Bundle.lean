import Registrar.Identity
import Registrar.Prekey.Record
import Registrar.Role

/-!
Everything that is made for one role during a registration, and its public half.
-/

namespace Registrar

/-- The keys of one role, with the id at which each range of ids starts. -/
structure Bundle where
  role : Role
  identity : IdentityKey
  signedId : UInt32
  oneTimeStart : UInt32
  lastResortId : UInt32
  kyberStart : UInt32
  signed : SignedPrekey
  oneTime : List OneTimePrekey
  lastResort : KyberPrekey
  kyber : List KyberPrekey
  deriving DecidableEq

structure PublicPrekey where
  keyId : UInt32
  publicKey : Bytes
  deriving DecidableEq

structure PublicSignedPrekey where
  keyId : UInt32
  publicKey : Bytes
  signature : Bytes
  deriving DecidableEq

structure PublicBundle where
  role : Role
  identityKey : Bytes
  signed : PublicSignedPrekey
  oneTime : List PublicPrekey
  lastResort : PublicSignedPrekey
  kyber : List PublicSignedPrekey
  deriving DecidableEq

def OneTimePrekey.toPublic (k : OneTimePrekey) : PublicPrekey := ⟨k.id, k.publicKey⟩

def SignedPrekey.toPublic (k : SignedPrekey) : PublicSignedPrekey := ⟨k.id, k.publicKey, k.signature⟩

def KyberPrekey.toPublic (k : KyberPrekey) : PublicSignedPrekey := ⟨k.id, k.publicKey, k.signature⟩

namespace Bundle

def toPublic (suite : Suite) (b : Bundle) : PublicBundle where
  role := b.role
  identityKey := b.identity.publicKey suite
  signed := b.signed.toPublic
  oneTime := b.oneTime.map OneTimePrekey.toPublic
  lastResort := b.lastResort.toPublic
  kyber := b.kyber.map KyberPrekey.toPublic

/-- Checks encapsulation keys in their order; the report names the first whose signature fails. -/
def verifyKyber (suite : Suite) (identity : Bytes) : List KyberPrekey → Except KeyError Unit
  | [] => .ok ()
  | k :: rest =>
    match suite.check identity k.publicKey k.signature with
    | .error e => .error (.verification s!"kyber prekey {k.id}: {e.message}")
    | .ok () => verifyKyber suite identity rest

/--
Checks every signature under the bundle's identity: the signed prekey, the last resort, and the
encapsulation keys for one use.
-/
def verify (suite : Suite) (b : Bundle) : Except KeyError Unit :=
  let identity := b.identity.publicKey suite
  match suite.check identity b.signed.publicKey b.signed.signature with
  | .error e => .error e
  | .ok () => verifyKyber suite identity (b.lastResort :: b.kyber)

end Bundle

open Json in
instance : Format PublicPrekey where
  reader := Reader.record "UploadedKey"
    [Reader.required "keyId" Reader.u32, Reader.required "publicKey" Reader.bytes]
  toJson k := .object [("keyId", ofUInt32 k.keyId), ("publicKey", ofBytes k.publicKey)]
  ofJson? j := do
    some
      { keyId := ← (← j.field? "keyId") |> toUInt32?
        publicKey := ← (← j.field? "publicKey") |> toBytes? }

open Json in
instance : Format PublicSignedPrekey where
  reader := Reader.record "UploadedSignedKey"
    [Reader.required "keyId" Reader.u32, Reader.required "publicKey" Reader.bytes,
      Reader.required "signature" Reader.bytes]
  toJson k := .object
    [("keyId", ofUInt32 k.keyId), ("publicKey", ofBytes k.publicKey),
      ("signature", ofBytes k.signature)]
  ofJson? j := do
    some
      { keyId := ← (← j.field? "keyId") |> toUInt32?
        publicKey := ← (← j.field? "publicKey") |> toBytes?
        signature := ← (← j.field? "signature") |> toBytes? }

open Json in
instance : Format PublicBundle where
  reader := Reader.record "PreKeyUpload"
    [Reader.required "role" (Format.reader Role), Reader.required "identityKey" Reader.bytes,
      Reader.required "signedPrekey" (Format.reader PublicSignedPrekey),
      Reader.required "oneTimeEcPrekeys" (Reader.list (Format.reader PublicPrekey)),
      Reader.required "lastResortKyberPrekey" (Format.reader PublicSignedPrekey),
      Reader.required "oneTimeKyberPrekeys" (Reader.list (Format.reader PublicSignedPrekey))]
  toJson b := .object
    [("role", Format.toJson b.role), ("identityKey", ofBytes b.identityKey),
      ("signedPrekey", Format.toJson b.signed), ("oneTimeEcPrekeys", ofList b.oneTime),
      ("lastResortKyberPrekey", Format.toJson b.lastResort), ("oneTimeKyberPrekeys", ofList b.kyber)]
  ofJson? j := do
    some
      { role := ← (← j.field? "role") |> Format.ofJson?
        identityKey := ← (← j.field? "identityKey") |> toBytes?
        signed := ← (← j.field? "signedPrekey") |> Format.ofJson?
        oneTime := ← (← j.field? "oneTimeEcPrekeys") |> toList?
        lastResort := ← (← j.field? "lastResortKyberPrekey") |> Format.ofJson?
        kyber := ← (← j.field? "oneTimeKyberPrekeys") |> toList? }

end Registrar
