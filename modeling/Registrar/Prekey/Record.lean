import Registrar.Json.Format

/-!
Prekeys with their secrets, as they are kept.
-/

namespace Registrar

structure OneTimePrekey where
  id : UInt32
  publicKey : Bytes
  privateKey : Bytes
  deriving DecidableEq

structure SignedPrekey where
  id : UInt32
  publicKey : Bytes
  privateKey : Bytes
  signature : Bytes
  /-- when it was made, in milliseconds -/
  timestamp : Int64
  deriving DecidableEq

/-- An encapsulation key, signed by the identity key: for one use, or the last resort. -/
structure KyberPrekey where
  id : UInt32
  publicKey : Bytes
  secretKey : Bytes
  signature : Bytes
  timestamp : Int64
  deriving DecidableEq

open Json in
instance : Format OneTimePrekey where
  reader := Reader.record "PreKeyRecord"
    [Reader.required "id" Reader.u32, Reader.required "public_key" Reader.bytes,
      Reader.required "private_key" Reader.bytes]
  toJson k := .object
    [("id", ofUInt32 k.id), ("public_key", ofBytes k.publicKey),
      ("private_key", ofBytes k.privateKey)]
  ofJson? j := do
    some
      { id := ← (← j.field? "id") |> toUInt32?
        publicKey := ← (← j.field? "public_key") |> toBytes?
        privateKey := ← (← j.field? "private_key") |> toBytes? }

open Json in
instance : Format SignedPrekey where
  reader := Reader.record "SignedPreKeyRecord"
    [Reader.required "id" Reader.u32, Reader.required "public_key" Reader.bytes,
      Reader.required "private_key" Reader.bytes, Reader.required "signature" Reader.bytes,
      Reader.required "timestamp" Reader.i64]
  toJson k := .object
    [("id", ofUInt32 k.id), ("public_key", ofBytes k.publicKey),
      ("private_key", ofBytes k.privateKey), ("signature", ofBytes k.signature),
      ("timestamp", ofInt64 k.timestamp)]
  ofJson? j := do
    some
      { id := ← (← j.field? "id") |> toUInt32?
        publicKey := ← (← j.field? "public_key") |> toBytes?
        privateKey := ← (← j.field? "private_key") |> toBytes?
        signature := ← (← j.field? "signature") |> toBytes?
        timestamp := ← (← j.field? "timestamp") |> toInt64? }

open Json in
instance : Format KyberPrekey where
  reader := Reader.record "KyberPreKeyRecord"
    [Reader.required "id" Reader.u32, Reader.required "public_key" Reader.bytes,
      Reader.required "secret_key" Reader.bytes, Reader.required "signature" Reader.bytes,
      Reader.required "timestamp" Reader.i64]
  toJson k := .object
    [("id", ofUInt32 k.id), ("public_key", ofBytes k.publicKey), ("secret_key", ofBytes k.secretKey),
      ("signature", ofBytes k.signature), ("timestamp", ofInt64 k.timestamp)]
  ofJson? j := do
    some
      { id := ← (← j.field? "id") |> toUInt32?
        publicKey := ← (← j.field? "public_key") |> toBytes?
        secretKey := ← (← j.field? "secret_key") |> toBytes?
        signature := ← (← j.field? "signature") |> toBytes?
        timestamp := ← (← j.field? "timestamp") |> toInt64? }

def OneTimePrekey.redacted (k : OneTimePrekey) : String :=
  "PreKeyRecord \x7b id: " ++ toString k.id ++ ", .. \x7d"

def SignedPrekey.redacted (k : SignedPrekey) : String :=
  "SignedPreKeyRecord \x7b id: " ++ toString k.id ++ ", timestamp: " ++ toString k.timestamp ++ ", .. \x7d"

def KyberPrekey.redacted (k : KyberPrekey) : String :=
  "KyberPreKeyRecord \x7b id: " ++ toString k.id ++ ", timestamp: " ++ toString k.timestamp ++ ", .. \x7d"

end Registrar
