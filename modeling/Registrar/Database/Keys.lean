import Registrar.Database.Ledger
import Registrar.Store.Request

/-!
The stores of keys and sessions, kept in tables that both roles share. A row belongs to the role in
its key. Prekeys are stored as the text of their documents.
-/

namespace Registrar.Database

def needKeys {α : Type} (name : TableName) (table : Option α) : Query KeyError α :=
  (need name table).mapError KeyError.ofDatabase

def decodeRecord (α : Type) [Json.Format α] (text : String) : Except KeyError α :=
  (Json.decode α text).mapError fun e => .storage ("decode record: " ++ e.message)

def decodeRow {α : Type} [Json.Format α] : Option String → Except KeyError (Option α)
  | none => .ok none
  | some text => (decodeRecord α text).map some

def IdentityRow.ofRecord (r : IdentityRecord) : IdentityRow :=
  ⟨r.identityKey, r.verified.toInt, flag r.firstUse, r.timestamp, flag r.nonblockingApproval⟩

def IdentityRow.toRecord (r : IdentityRow) : IdentityRecord :=
  ⟨r.identityKey, Trust.ofInt r.verified, isSet r.firstUse, r.timestamp, isSet r.nonblockingApproval⟩

def answerKeys (role : Role) : (r : KeyStore.Request) → Query KeyError r.Reply
  | .ownIdentity => do
    let t ← needKeys .ownIdentities (← get).ownIdentities
    match t.find? role with
    | none => throw (.storage ("no " ++ role.tag ++ " identity key pair stored"))
    | some secret => IdentityKey.ofSecret secret
  | .setOwnIdentity key => do
    let t ← needKeys .ownIdentities (← get).ownIdentities
    modify fun db => { db with ownIdentities := some (t.insert role key.secret) }
  | .saveIdentity address record => do
    let t ← needKeys .identities (← get).identities
    modify fun db =>
      { db with identities := some (t.insert (role, address) (IdentityRow.ofRecord record)) }
  | .identity address => do
    let t ← needKeys .identities (← get).identities
    return (t.find? (role, address)).map IdentityRow.toRecord
  | .identityCount => do
    let t ← needKeys .identities (← get).identities
    return t.count fun k _ => k.1 = role
  | .storeOneTime key => do
    let t ← needKeys .oneTime (← get).oneTime
    modify fun db => { db with oneTime := some (t.insert (role, key.id) (Json.encode key)) }
  | .oneTime id => do
    let t ← needKeys .oneTime (← get).oneTime
    decodeRow (t.find? (role, id))
  | .oneTimeCount => do
    let t ← needKeys .oneTime (← get).oneTime
    return t.count fun k _ => k.1 = role
  | .storeSigned key => do
    let t ← needKeys .signed (← get).signed
    modify fun db => { db with signed := some (t.insert (role, key.id) (Json.encode key)) }
  | .signed id => do
    let t ← needKeys .signed (← get).signed
    decodeRow (t.find? (role, id))
  | .storeKyber key lastResort => do
    let t ← needKeys .kyber (← get).kyber
    modify fun db =>
      { db with kyber := some (t.insert (role, key.id) ⟨Json.encode key, flag lastResort⟩) }
  | .kyber id => do
    let t ← needKeys .kyber (← get).kyber
    decodeRow ((t.find? (role, id)).map KyberRow.record)
  | .isLastResort id => do
    let t ← needKeys .kyber (← get).kyber
    return ((t.find? (role, id)).map fun row => isSet row.lastResort).getD false
  | .kyberCount => do
    let t ← needKeys .kyber (← get).kyber
    return t.count fun k _ => k.1 = role
  | .storeSession address data => do
    let t ← needKeys .sessions (← get).sessions
    modify fun db => { db with sessions := some (t.insert (role, address) ⟨data, flag false⟩) }
  | .session address => do
    let t ← needKeys .sessions (← get).sessions
    return ((t.find? (role, address)).filter fun row => row.archived = 0).map SessionRow.data
  | .archiveSessions => do
    let t ← needKeys .sessions (← get).sessions
    modify fun db =>
      { db with
        sessions := some (t.mapRows fun k row =>
          if k.1 = role then row.ended else row) }
  | .activeSessions => do
    let t ← needKeys .sessions (← get).sessions
    return t.count fun k row => k.1 = role && row.archived = 0

def answerSenderKeys : (r : SenderKeyStore.Request) → Query KeyError r.Reply
  | .store address distribution data => do
    let t ← needKeys .senderKeys (← get).senderKeys
    modify fun db => { db with senderKeys := some (t.insert (address, distribution) data) }
  | .clear => do
    let _ ← needKeys .senderKeys (← get).senderKeys
    modify fun db => { db with senderKeys := some ∅ }
  | .count => do
    let t ← needKeys .senderKeys (← get).senderKeys
    return t.size

/-- The number of sessions of a role, ended or not. -/
def sessionCount (role : Role) : Query DatabaseError Nat := do
  let t ← need .sessions (← get).sessions
  return t.count fun k _ => k.1 = role

end Registrar.Database
