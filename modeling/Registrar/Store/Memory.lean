import Registrar.Prekey.Ledger
import Registrar.Role
import Registrar.Store.Request
import Registrar.Store.Table

/-!
Stores in memory. Nothing in them can fail but the question for an identity that is not there.
-/

namespace Registrar

structure MemorySession where
  data : Bytes
  archived : Bool
  deriving DecidableEq

structure MemoryKeys where
  own : Option IdentityKey := none
  identities : Table String IdentityRecord := ∅
  oneTime : Table UInt32 OneTimePrekey := ∅
  signed : Table UInt32 SignedPrekey := ∅
  /-- each key with its mark as last resort -/
  kyber : Table UInt32 (KyberPrekey × Bool) := ∅
  sessions : Table String MemorySession := ∅

namespace MemoryKeys

def answer : (r : KeyStore.Request) → StateT MemoryKeys (Except KeyError) r.Reply
  | .ownIdentity => fun m =>
    match m.own with
    | some key => .ok (key, m)
    | none => .error (.storage "no identity key pair stored")
  | .setOwnIdentity key => fun m => .ok ((), { m with own := some key })
  | .saveIdentity address record => fun m =>
    .ok ((), { m with identities := m.identities.insert address record })
  | .identity address => fun m => .ok (m.identities.find? address, m)
  | .identityCount => fun m => .ok (m.identities.size, m)
  | .storeOneTime key => fun m => .ok ((), { m with oneTime := m.oneTime.insert key.id key })
  | .oneTime id => fun m => .ok (m.oneTime.find? id, m)
  | .oneTimeCount => fun m => .ok (m.oneTime.size, m)
  | .storeSigned key => fun m => .ok ((), { m with signed := m.signed.insert key.id key })
  | .signed id => fun m => .ok (m.signed.find? id, m)
  | .storeKyber key lastResort => fun m =>
    .ok ((), { m with kyber := m.kyber.insert key.id (key, lastResort) })
  | .kyber id => fun m => .ok ((m.kyber.find? id).map Prod.fst, m)
  | .isLastResort id => fun m => .ok (((m.kyber.find? id).map Prod.snd).getD false, m)
  | .kyberCount => fun m => .ok (m.kyber.size, m)
  | .storeSession address data => fun m =>
    .ok ((), { m with sessions := m.sessions.insert address ⟨data, false⟩ })
  | .session address => fun m =>
    .ok (((m.sessions.find? address).filter (!·.archived)).map MemorySession.data, m)
  | .archiveSessions => fun m =>
    .ok ((), { m with sessions := m.sessions.mapRows fun _ s => { s with archived := true } })
  | .activeSessions => fun m => .ok (m.sessions.count fun _ s => !s.archived, m)

def sessionCount (m : MemoryKeys) : Nat := m.sessions.size

end MemoryKeys

/-- Sender keys by address and distribution. -/
abbrev MemorySenderKeys := Table (String × String) Bytes

def MemorySenderKeys.answer :
    (r : SenderKeyStore.Request) → StateT MemorySenderKeys (Except KeyError) r.Reply
  | .store address distribution data => fun m => .ok ((), m.insert (address, distribution) data)
  | .clear => fun _ => .ok ((), ∅)
  | .count => fun m => .ok (m.size, m)

structure MemoryRole where
  keys : MemoryKeys := {}
  ledger : Ledger.Memory := {}

structure MemoryStores where
  roles : PerRole MemoryRole := ⟨{}, {}⟩
  senderKeys : MemorySenderKeys := ∅

end Registrar
