import Registrar.Json.Format

/-!
What the server answers to a verified registration.
-/

namespace Registrar

structure Confirmation where
  uuid : String
  pni : String
  /-- the server holds a backup that the PIN protects -/
  storageCapable : Bool
  deriving Repr, DecidableEq

/-- The key of that backup, and how many guesses at the PIN are left. -/
structure RecoveryCredential where
  masterKey : Bytes
  triesRemaining : UInt32
  deriving Repr, DecidableEq

/-- The server's answer, with what was recovered by the PIN on the way. -/
structure Response where
  confirmation : Confirmation
  pin : Option String
  recoveryCredential : Option RecoveryCredential
  deriving Repr, DecidableEq

def RecoveryCredential.redacted (c : RecoveryCredential) : String :=
  "RecoveryCredential \x7b tries_remaining: " ++ toString c.triesRemaining ++ ", .. \x7d"

def Response.pin? (r : Response) : Option String := r.pin.filter (· ≠ "")

open Json in
instance : Format Confirmation where
  reader := Reader.record "ServerConfirmation"
    [Reader.required "uuid" Reader.string, Reader.required "pni" Reader.string,
      Reader.optional "storageCapable" Reader.boolean (.bool false)]
  toJson c := .object
    [("uuid", .string c.uuid), ("pni", .string c.pni), ("storageCapable", .bool c.storageCapable)]
  ofJson? j := do
    some
      { uuid := ← (← j.field? "uuid") |> toString?
        pni := ← (← j.field? "pni") |> toString?
        storageCapable := ← (← j.field? "storageCapable") |> toBool? }

open Json in
instance : Format RecoveryCredential where
  reader := Reader.record "RecoveryCredential"
    [Reader.required "master_key" Reader.bytes, Reader.required "tries_remaining" Reader.u32]
  toJson c := .object
    [("master_key", ofBytes c.masterKey), ("tries_remaining", ofUInt32 c.triesRemaining)]
  ofJson? j := do
    some
      { masterKey := ← (← j.field? "master_key") |> toBytes?
        triesRemaining := ← (← j.field? "tries_remaining") |> toUInt32? }

open Json in
instance : Format Response where
  reader := Reader.record "VerifyResponse"
    [Reader.required "confirmation" (Format.reader Confirmation),
      Reader.optional "pin" (Reader.nullable Reader.string) .null,
      Reader.optional "recoveryCredential" (Reader.nullable (Format.reader RecoveryCredential)) .null]
  toJson r := .object
    [("confirmation", Format.toJson r.confirmation), ("pin", ofOption Json.string r.pin),
      ("recoveryCredential", ofOption Format.toJson r.recoveryCredential)]
  ofJson? j := do
    some
      { confirmation := ← (← j.field? "confirmation") |> Format.ofJson?
        pin := ← (← j.field? "pin") |> toOption? toString?
        recoveryCredential := ← (← j.field? "recoveryCredential") |> toOption? Format.ofJson? }

end Registrar
