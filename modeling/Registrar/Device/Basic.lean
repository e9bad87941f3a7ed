import Registrar.Account
import Registrar.Database.Keys
import Registrar.Device.Fault
import Registrar.Prekey.Provisioner
import Registrar.Registration.Notice
import Registrar.Store.Memory

/-!
A device: its stores, and what it does with them one call at a time.

Every call either has its whole effect or fails and has none. Work is made of calls; when one of
them fails the work ends there, and what the calls before it did stays done.
-/

namespace Registrar

/-- What a collaborator took note of, and the database at that moment. -/
structure Event where
  notice : Notice
  database : Database

structure Device where
  database : Database := {}
  /-- stores in memory that take the place of the tables for keys, sessions and the ledgers -/
  memory : Option MemoryStores := none
  /-- our own entry in the directory, as it was when last looked up -/
  cachedSelf : Option Recipient := none
  faults : List Fault := []
  /-- for the next calls of the database, in their order: how they fail, if they do -/
  outages : List (Option DatabaseError) := []
  entropy : Entropy
  /-- what the collaborators took note of so far -/
  events : List Event := []

abbrev Act (ε α : Type) := EStateM ε Device α

namespace Device

variable {ε α : Type}

def query (report : DatabaseError → ε) (q : Query ε α) : Act ε α := fun d =>
  match d.outages with
  | some e :: rest => .error (report e) { d with outages := rest }
  | outages =>
    let d := { d with outages := outages.tail }
    match q d.database with
    | .ok (a, database) => .ok a { d with database := database }
    | .error e => .error e d

def ask (q : Query Failure α) : Act Failure α := query Database.failure q

def consult (q : Query DatabaseError α) : Act Failure α := ask (q.mapError Database.failure)

def allow (call : Call) : Act KeyError Unit := fun d =>
  match Fault.meet call d.faults with
  | (some e, faults) => .error e { d with faults := faults }
  | (none, faults) => .ok () { d with faults := faults }

def onMemory {σ : Type} (m : MemoryStores) (part : σ) (put : σ → MemoryStores → MemoryStores)
    (x : StateT σ (Except KeyError) α) : Act KeyError α := fun d =>
  match x part with
  | .ok (a, part) => .ok a { d with memory := some (put part m) }
  | .error e => .error e d

def keys (role : Role) (r : KeyStore.Request) : Act KeyError r.Reply := do
  allow (.keys role r)
  match (← get).memory with
  | none => query KeyError.ofDatabase (Database.answerKeys role r)
  | some m =>
    onMemory m (m.roles.get role).keys
      (fun part m => { m with roles := m.roles.set { m.roles.get role with keys := part } role })
      (MemoryKeys.answer r)

def ledger (role : Role) (r : Ledger.Request) : Act KeyError r.Reply := do
  allow (.ledger role r)
  match (← get).memory with
  | none => query KeyError.ofDatabase (Database.answerLedger role r)
  | some m =>
    onMemory m (m.roles.get role).ledger
      (fun part m => { m with roles := m.roles.set { m.roles.get role with ledger := part } role })
      (Ledger.Memory.answer r)

def senderKeys (r : SenderKeyStore.Request) : Act KeyError r.Reply := do
  allow (.senderKeys r)
  match (← get).memory with
  | none => query KeyError.ofDatabase (Database.answerSenderKeys r)
  | some m =>
    onMemory m m.senderKeys (fun part m => { m with senderKeys := part }) (MemorySenderKeys.answer r)

def registering (x : Act KeyError α) : Act Failure α := x.adaptExcept Failure.ofKeyError

def drawing (x : Provisioner.Work Device α) : Act KeyError α := fun d =>
  match x (d, d.entropy) with
  | .ok a (d, entropy) => .ok a { d with entropy := entropy }
  | .error e (d, entropy) => .error e { d with entropy := entropy }

def generate (suite : Suite) (p : Provisioner) (role : Role) (identity : IdentityKey)
    (now : Int64) : Act KeyError Bundle :=
  drawing (p.generate suite (ledger role) role identity now)

/-- Makes the bundles for a registration. Only the ledgers keep a trace of it. -/
def generateBoth (suite : Suite) (p : Provisioner) (now : Int64) : Act Failure (PerRole Bundle) :=
  registering (drawing (p.generateBoth suite ledger now))

def knownProfileKey (e164 : String) : Act Failure (Option ProfileKey) := do
  match ← consult (Database.findRecipient .e164 e164) with
  | none => return none
  | some id => return (← consult (Database.recipient id)).bind Recipient.profileKey

def freshProfileKey : Act ε ProfileKey := fun d =>
  let (key, entropy) := ProfileKey.draw d.entropy
  .ok key { d with entropy := entropy }

/-- The profile key that is known for a phone number, or a fresh one. -/
def profileKey (e164 : String) : Act Failure ProfileKey := do
  match ← knownProfileKey e164 with
  | some key => return key
  | none => freshProfileKey

/--
Our own entry in the directory: the one that was looked up before, else the one of an identifier.
-/
def selfRecipient (aci : ServiceId) : Act Failure (Option Recipient) := do
  if let some cached := (← get).cachedSelf then return some cached
  match ← consult (Database.recipientOf aci) with
  | none => return none
  | some id =>
    let found ← consult (Database.recipient id)
    modify fun d => { d with cachedSelf := found }
    return found

def clearSelf : Act ε Unit := modify fun d => { d with cachedSelf := none }

end Device

end Registrar
