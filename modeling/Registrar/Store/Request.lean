import Registrar.Identity
import Registrar.Prekey.Record

/-!
What can be asked of the stores that hold keys and sessions.

Requests are data, so that stores in memory and stores in a database answer the same questions.
-/

namespace Registrar

namespace KeyStore

/-- What can be asked of the store of one role. Storing replaces what has the same id or address. -/
inductive Request where
  /-- our own identity key pair; it is a failure if there is none -/
  | ownIdentity
  | setOwnIdentity (key : IdentityKey)
  | saveIdentity (address : String) (record : IdentityRecord)
  | identity (address : String)
  | identityCount
  | storeOneTime (key : OneTimePrekey)
  | oneTime (id : UInt32)
  | oneTimeCount
  | storeSigned (key : SignedPrekey)
  | signed (id : UInt32)
  | storeKyber (key : KyberPrekey) (lastResort : Bool)
  | kyber (id : UInt32)
  | isLastResort (id : UInt32)
  | kyberCount
  /-- a stored session is an active one -/
  | storeSession (address : String) (data : Bytes)
  /-- the active session at an address -/
  | session (address : String)
  /-- ends every session of the role; what is stored of them stays -/
  | archiveSessions
  | activeSessions
  deriving DecidableEq

@[reducible]
def Request.Reply : Request → Type
  | .ownIdentity => IdentityKey
  | .setOwnIdentity _ => Unit
  | .saveIdentity _ _ => Unit
  | .identity _ => Option IdentityRecord
  | .identityCount => Nat
  | .storeOneTime _ => Unit
  | .oneTime _ => Option OneTimePrekey
  | .oneTimeCount => Nat
  | .storeSigned _ => Unit
  | .signed _ => Option SignedPrekey
  | .storeKyber _ _ => Unit
  | .kyber _ => Option KyberPrekey
  | .isLastResort _ => Bool
  | .kyberCount => Nat
  | .storeSession _ _ => Unit
  | .session _ => Option Bytes
  | .archiveSessions => Unit
  | .activeSessions => Nat

end KeyStore

namespace SenderKeyStore

/-- What can be asked of the store of group sender keys, which the roles share. -/
inductive Request where
  | store (address distribution : String) (data : Bytes)
  | clear
  | count
  deriving DecidableEq

@[reducible]
def Request.Reply : Request → Type
  | .store _ _ _ => Unit
  | .clear => Unit
  | .count => Nat

end SenderKeyStore

end Registrar
