import Registrar.Bytes.Hex
import Registrar.Entropy
import Registrar.Json.Format
import Registrar.Suite

/-!
Identity keys: our own, with their secrets, and the ones saved for addresses.
-/

namespace Registrar

/-- An identity key pair, given by its secret. -/
@[ext]
structure IdentityKey where
  secret : Bytes
  length_secret : secret.length = 32

instance : DecidableEq IdentityKey := fun _ _ => decidable_of_iff _ IdentityKey.ext_iff.symm

namespace IdentityKey

def ofSecret (secret : Bytes) : Except KeyError IdentityKey :=
  if h : secret.length = 32 then .ok ⟨secret, h⟩
  else .error (.invalidKey "identity secret wrong length")

def draw (e : Entropy) : IdentityKey × Entropy :=
  (⟨e.secret, e.length_secret⟩, e.skip 32)

def publicKey (suite : Suite) (key : IdentityKey) : Bytes := suite.identityPublic key.secret

def sign (suite : Suite) (key : IdentityKey) (message : Bytes) : Bytes :=
  suite.sign key.secret message

def redacted (suite : Suite) (key : IdentityKey) : String :=
  "IdentityKeyPair \x7b public_key: " ++ Text.quote (Hex.encode (key.publicKey suite)) ++ ", .. \x7d"

end IdentityKey

/-- How far a saved identity has been confirmed by the user. -/
inductive Trust where
  | default
  | verified
  | unverified
  deriving Repr, DecidableEq

namespace Trust

def toInt : Trust → Int
  | .default => 0
  | .verified => 1
  | .unverified => 2

/-- Numbers that stand for nothing count as unconfirmed. -/
def ofInt (n : Int) : Trust :=
  if n = 1 then .verified else if n = 2 then .unverified else .default

@[simp]
theorem ofInt_toInt (t : Trust) : ofInt t.toInt = t := by
  cases t <;> rfl

def name : Trust → String
  | .default => "default"
  | .verified => "verified"
  | .unverified => "unverified"

def ofName? (s : String) : Option Trust :=
  if s = "default" then some .default
  else if s = "verified" then some .verified
  else if s = "unverified" then some .unverified
  else none

instance : Json.Format Trust where
  reader := Json.Reader.choice ["default", "verified", "unverified"]
  toJson t := .string t.name
  ofJson? j := (Json.toString? j).bind ofName?

end Trust

structure IdentityRecord where
  identityKey : Bytes
  verified : Trust
  /-- trusted because it was the first one seen -/
  firstUse : Bool
  /-- in milliseconds -/
  timestamp : Int64
  nonblockingApproval : Bool
  deriving DecidableEq

instance : Json.Format IdentityRecord where
  reader := Json.Reader.record "IdentityRecord"
    [Json.Reader.required "identity_key" Json.Reader.bytes,
      Json.Reader.required "verified" (Json.Format.reader Trust),
      Json.Reader.required "first_use" Json.Reader.boolean,
      Json.Reader.required "timestamp" Json.Reader.i64,
      Json.Reader.required "nonblocking_approval" Json.Reader.boolean]
  toJson r := .object
    [("identity_key", Json.ofBytes r.identityKey), ("verified", Json.Format.toJson r.verified),
      ("first_use", .bool r.firstUse), ("timestamp", Json.ofInt64 r.timestamp),
      ("nonblocking_approval", .bool r.nonblockingApproval)]
  ofJson? j := do
    some
      { identityKey := ← (← j.field? "identity_key") |> Json.toBytes?
        verified := ← (← j.field? "verified") |> Json.Format.ofJson?
        firstUse := ← (← j.field? "first_use") |> Json.toBool?
        timestamp := ← (← j.field? "timestamp") |> Json.toInt64?
        nonblockingApproval := ← (← j.field? "nonblocking_approval") |> Json.toBool? }

end Registrar
