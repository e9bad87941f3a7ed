import Registrar.Proofs.Database.Keys
import Registrar.Proofs.Prekey.Record
import Registrar.Proofs.Registration.KeyCalls
import Registrar.Proofs.Store.Asking
import Registrar.Proofs.Store.Part

/-!
Stores in a database and stores in memory.

The roles share the tables of a database. For each role they hold what a store in memory would hold,
in the form in which the tables keep it, and every request leaves it so. So whatever was asked
before, of whichever store, the database answers the next request as memory would.
-/

namespace Registrar

open Database

/-! ### A table that the roles share -/

section

variable {κ ν μ : Type} {table : Option (Table (Role × κ) ν)} {t : Table (Role × κ) ν}
  {role other : Role} {f : μ → ν} {own : Table κ μ}

/-- A shared table holds for a role what a table of its own holds, in another form. -/
def HoldsFor (role : Role) (f : μ → ν) (table : Option (Table (Role × κ) ν)) (own : Table κ μ) :
    Prop :=
  table.map (·.part role) = some (own.mapValues f)

namespace HoldsFor

theorem exists_table (h : HoldsFor role f table own) : ∃ t, table = some t := by
  obtain ⟨t, ht, -⟩ := Option.map_eq_some_iff.1 h
  exact ⟨t, ht⟩

theorem part_eq (h : HoldsFor role f table own) (ht : table = some t) :
    t.part role = own.mapValues f := by
  subst ht
  exact Option.some.inj h

theorem count (h : HoldsFor role f table own) (ht : table = some t) (p : ν → Bool) :
    (t.count fun k v => k.1 = role && p v) = own.count fun _ v => p (f v) := by
  rw [← Table.count_part, h.part_eq ht, Table.count_mapValues]

theorem size (h : HoldsFor role f table own) (ht : table = some t) :
    (t.count fun k _ => k.1 = role) = own.size := by
  rw [← Table.size_part, h.part_eq ht, Table.size_mapValues]

variable [DecidableEq κ]

theorem find? (h : HoldsFor role f table own) (ht : table = some t) (k : κ) :
    t.find? (role, k) = (own.find? k).map f := by
  rw [← Table.find?_part, h.part_eq ht, Table.find?_mapValues]

theorem insert (h : HoldsFor role f table own) (ht : table = some t) (k : κ) (v : μ) :
    HoldsFor role f (some (t.insert (role, k) (f v))) (own.insert k v) := by
  rw [HoldsFor, Option.map_some, Table.part_insert_self, h.part_eq ht, Table.mapValues_insert]

theorem insert_other (h : HoldsFor role f table own) (ht : table = some t) (hne : role ≠ other)
    (k : κ) (v : ν) : HoldsFor role f (some (t.insert (other, k) v)) own := by
  rw [HoldsFor, Option.map_some, Table.part_insert_of_ne t hne.symm, h.part_eq ht]

theorem mapRows (h : HoldsFor role f table own) (ht : table = some t) {g : ν → ν} {g' : μ → μ}
    (hg : ∀ v, f (g' v) = g (f v)) :
    HoldsFor role f (some (t.mapRows fun k v => if k.1 = role then g v else v))
      (own.mapRows fun _ v => g' v) := by
  rw [HoldsFor, Option.map_some, Table.part_mapRows_self, h.part_eq ht,
    Table.mapValues_mapRows own hg]

theorem mapRows_other (h : HoldsFor role f table own) (ht : table = some t) (hne : role ≠ other)
    (g : ν → ν) :
    HoldsFor role f (some (t.mapRows fun k v => if k.1 = other then g v else v)) own := by
  rw [HoldsFor, Option.map_some, Table.part_mapRows_of_ne t hne.symm, h.part_eq ht]

end HoldsFor

end

/-! ### The keys of a role -/

def KyberRow.ofKey (key : KyberPrekey × Bool) : KyberRow := ⟨Json.encode key.1, flag key.2⟩

def SessionRow.ofSession (s : MemorySession) : SessionRow := ⟨s.data, flag s.archived⟩

theorem isActive_ofSession (s : MemorySession) :
    decide ((SessionRow.ofSession s).archived = 0) = !s.archived := by
  obtain ⟨data, archived⟩ := s
  cases archived <;> rfl

theorem ended_ofSession (s : MemorySession) :
    (SessionRow.ofSession s).ended = SessionRow.ofSession { s with archived := true } := by
  obtain ⟨data, archived⟩ := s
  cases archived <;> rfl

/-- The tables hold for a role what a store in memory holds. -/
structure Database.Mirrors (db : Database) (role : Role) (m : MemoryKeys) : Prop where
  own : db.ownIdentities.map (·.find? role) = some (m.own.map IdentityKey.secret)
  identities : HoldsFor role IdentityRow.ofRecord db.identities m.identities
  oneTime : HoldsFor role Json.encode db.oneTime m.oneTime
  signed : HoldsFor role Json.encode db.signed m.signed
  kyber : HoldsFor role KyberRow.ofKey db.kyber m.kyber
  sessions : HoldsFor role SessionRow.ofSession db.sessions m.sessions

theorem mirrors_empty (role : Role) : ({} : Database).Mirrors role {} := by
  constructor <;> rfl

/--
What a request to the store of a role leads to: the role has what memory has, the other role and
the sender keys are left alone.
-/
structure Database.MirrorsAfter (db : Database) (role : Role) (db' : Database) (m' : MemoryKeys) :
    Prop where
  self : db'.Mirrors role m'
  others : ∀ other o, other ≠ role → db.Mirrors other o → db'.Mirrors other o
  senderKeys : db'.senderKeys = db.senderKeys

theorem Database.Mirrors.unchanged {db : Database} {role : Role} {m : MemoryKeys}
    (h : db.Mirrors role m) : db.MirrorsAfter role db m :=
  ⟨h, fun _ _ _ ho => ho, rfl⟩

/-- The failure of a request to memory as the database words it: it names the role. -/
def KeyStore.Request.worded (role : Role) : KeyStore.Request → KeyError → KeyError
  | .ownIdentity, _ => .storage ("no " ++ role.tag ++ " identity key pair stored")
  | _, e => e

theorem ofSecret_secret (key : IdentityKey) : IdentityKey.ofSecret key.secret = .ok key := by
  simp [IdentityKey.ofSecret, key.length_secret]

theorem needKeys_bind {db : Database} {α β : Type} {name : TableName} {table : Database → Option α}
    {t : α} {f : α → Query KeyError β} (ht : table db = some t) :
    (get >>= fun db => needKeys name (table db) >>= f : Query KeyError β) db = f t db := by
  rw [Query.bind_apply, Query.get_apply]
  simp only [Query.bind_apply, ht, needKeys_some]

/-! ### One table of several -/

/-- A shared table of the database, with the table in memory that it stands for. -/
structure SharedTable (κ ν μ : Type) [DecidableEq κ] where
  name : TableName
  table : Database → Option (Table (Role × κ) ν)
  put : Table (Role × κ) ν → Database → Database
  own : MemoryKeys → Table κ μ
  putOwn : Table κ μ → MemoryKeys → MemoryKeys
  form : μ → ν
  putOwn_own : ∀ m, putOwn (own m) m = m
  senderKeys_put : ∀ t db, (put t db).senderKeys = db.senderKeys
  holds : ∀ {db : Database} {role m}, db.Mirrors role m → HoldsFor role form (table db) (own m)
  mirrors_put : ∀ {db : Database} {role m t t'}, db.Mirrors role m → HoldsFor role form (some t) t' →
    (put t db).Mirrors role (putOwn t' m)

namespace SharedTable

def identities : SharedTable String IdentityRow IdentityRecord where
  name := .identities
  table := Database.identities
  put t db := { db with identities := some t }
  own := MemoryKeys.identities
  putOwn t m := { m with identities := t }
  form := IdentityRow.ofRecord
  putOwn_own _ := rfl
  senderKeys_put _ _ := rfl
  holds h := h.identities
  mirrors_put h ht := { h with identities := ht }

def oneTime : SharedTable UInt32 String OneTimePrekey where
  name := .oneTime
  table := Database.oneTime
  put t db := { db with oneTime := some t }
  own := MemoryKeys.oneTime
  putOwn t m := { m with oneTime := t }
  form := Json.encode
  putOwn_own _ := rfl
  senderKeys_put _ _ := rfl
  holds h := h.oneTime
  mirrors_put h ht := { h with oneTime := ht }

def signed : SharedTable UInt32 String SignedPrekey where
  name := .signed
  table := Database.signed
  put t db := { db with signed := some t }
  own := MemoryKeys.signed
  putOwn t m := { m with signed := t }
  form := Json.encode
  putOwn_own _ := rfl
  senderKeys_put _ _ := rfl
  holds h := h.signed
  mirrors_put h ht := { h with signed := ht }

def kyber : SharedTable UInt32 KyberRow (KyberPrekey × Bool) where
  name := .kyber
  table := Database.kyber
  put t db := { db with kyber := some t }
  own := MemoryKeys.kyber
  putOwn t m := { m with kyber := t }
  form := KyberRow.ofKey
  putOwn_own _ := rfl
  senderKeys_put _ _ := rfl
  holds h := h.kyber
  mirrors_put h ht := { h with kyber := ht }

def sessions : SharedTable String SessionRow MemorySession where
  name := .sessions
  table := Database.sessions
  put t db := { db with sessions := some t }
  own := MemoryKeys.sessions
  putOwn t m := { m with sessions := t }
  form := SessionRow.ofSession
  putOwn_own _ := rfl
  senderKeys_put _ _ := rfl
  holds h := h.sessions
  mirrors_put h ht := { h with sessions := ht }

variable {κ ν μ α : Type} [DecidableEq κ] (shared : SharedTable κ ν μ) {db : Database} {role : Role}
  {m : MemoryKeys} {reword : KeyError → KeyError}

/-- A question about the table finds what memory would say, and nothing changes. -/
theorem reads (h : db.Mirrors role m) {f : Table (Role × κ) ν → Query KeyError α} {a : α}
    (hf : ∀ t, HoldsFor role shared.form (some t) (shared.own m) → f t db = .ok (a, db)) :
    Alike (db.MirrorsAfter role) reword
      ((get >>= fun db => needKeys shared.name (shared.table db) >>= f : Query KeyError α) db)
      (.ok (a, m)) := by
  have hholds := shared.holds h
  obtain ⟨t, ht⟩ := hholds.exists_table
  rw [needKeys_bind ht, hf t (ht ▸ hholds)]
  exact .ok h.unchanged

/--
What is put in the place of the table has the role's part as memory, and the others' as it was.
-/
theorem writes (h : db.Mirrors role m) {g : Table (Role × κ) ν → Table (Role × κ) ν}
    {own' : Table κ μ}
    (hself : ∀ t, HoldsFor role shared.form (some t) (shared.own m) →
      HoldsFor role shared.form (some (g t)) own')
    (hother : ∀ other t own, other ≠ role → HoldsFor other shared.form (some t) own →
      HoldsFor other shared.form (some (g t)) own) :
    Alike (db.MirrorsAfter role) reword
      ((do
        let t ← needKeys shared.name (shared.table (← get))
        modify fun db => shared.put (g t) db : Query KeyError Unit) db)
      (.ok ((), shared.putOwn own' m)) := by
  have hholds := shared.holds h
  obtain ⟨t, ht⟩ := hholds.exists_table
  rw [needKeys_bind ht]
  refine .ok ⟨shared.mirrors_put h (hself t (ht ▸ hholds)), fun other o hne ho => ?_,
    shared.senderKeys_put _ _⟩
  have hput := shared.mirrors_put ho (hother other t _ hne (ht ▸ shared.holds ho))
  rwa [shared.putOwn_own] at hput

theorem inserts (h : db.Mirrors role m) (k : κ) (v : μ) :
    Alike (db.MirrorsAfter role) reword
      ((do
        let t ← needKeys shared.name (shared.table (← get))
        modify fun db => shared.put (t.insert (role, k) (shared.form v)) db :
          Query KeyError Unit) db)
      (.ok ((), shared.putOwn ((shared.own m).insert k v) m)) :=
  shared.writes h (fun _ ht => ht.insert rfl k v)
    fun _ _ _ hne ht => ht.insert_other rfl hne k (shared.form v)

theorem counts (h : db.Mirrors role m) :
    Alike (db.MirrorsAfter role) reword
      ((do
        let t ← needKeys shared.name (shared.table (← get))
        return t.count fun k _ => k.1 = role : Query KeyError Nat) db)
      (.ok ((shared.own m).size, m)) :=
  shared.reads h fun t ht => by rw [ht.size rfl]; rfl

/-- One row is looked up. Only the row as memory has it, in its other form, has to be read. -/
theorem finds (h : db.Mirrors role m) {k : κ} {f : Option ν → Query KeyError α} {a : α}
    (hf : f (((shared.own m).find? k).map shared.form) db = .ok (a, db)) :
    Alike (db.MirrorsAfter role) reword
      ((do
        let t ← needKeys shared.name (shared.table (← get))
        f (t.find? (role, k)) : Query KeyError α) db)
      (.ok (a, m)) :=
  shared.reads h fun t ht => by rw [ht.find? rfl, hf]

end SharedTable

/-! ### Requests to the store of a role -/

section

variable {db : Database} {role : Role} {m : MemoryKeys}

theorem Database.Mirrors.answerOwnIdentity (h : db.Mirrors role m) :
    Alike (db.MirrorsAfter role) (KeyStore.Request.ownIdentity.worded role)
      (answerKeys role .ownIdentity db) (MemoryKeys.answer .ownIdentity m) := by
  obtain ⟨t, ht, hown⟩ := Option.map_eq_some_iff.1 h.own
  rw [Database.answerKeys, needKeys_bind ht, hown]
  simp only [MemoryKeys.answer]
  cases m.own with
  | none => exact .error
  | some key =>
    simp only [Option.map_some, ofSecret_secret]
    exact .ok h.unchanged

theorem Database.Mirrors.answerSetOwnIdentity (h : db.Mirrors role m) (key : IdentityKey) :
    Alike (db.MirrorsAfter role) ((KeyStore.Request.setOwnIdentity key).worded role)
      (answerKeys role (.setOwnIdentity key) db) (MemoryKeys.answer (.setOwnIdentity key) m) := by
  obtain ⟨t, ht, -⟩ := Option.map_eq_some_iff.1 h.own
  rw [Database.answerKeys, needKeys_bind ht]
  refine .ok ⟨{ h with own := ?_ }, fun other o hne ho => { ho with own := ?_ }, rfl⟩
  · simp [Table.find?_insert]
  · simpa [Table.find?_insert, hne, ht] using ho.own

/-- A session that has ended is not found any more. -/
theorem data_of_session (found : Option MemorySession) :
    ((found.map SessionRow.ofSession).filter fun row => row.archived = 0).map SessionRow.data =
      (found.filter (!·.archived)).map MemorySession.data := by
  cases found with
  | none => rfl
  | some s =>
    rw [Option.map_some, Option.filter_some, Option.filter_some, isActive_ofSession]
    split <;> rfl

theorem Database.Mirrors.answerKeys (h : db.Mirrors role m) (r : KeyStore.Request) :
    Alike (db.MirrorsAfter role) (r.worded role) (answerKeys role r db)
      (MemoryKeys.answer r m) := by
  cases r with
  | ownIdentity => exact h.answerOwnIdentity
  | setOwnIdentity key => exact h.answerSetOwnIdentity key
  | saveIdentity address record => exact SharedTable.identities.inserts h address record
  | identity address =>
    refine SharedTable.identities.finds h (f := fun found =>
      return found.map IdentityRow.toRecord) ?_
    simp [SharedTable.identities, Function.comp_def, toRecord_ofRecord]
  | identityCount => exact SharedTable.identities.counts h
  | storeOneTime key => exact SharedTable.oneTime.inserts h key.id key
  | oneTime id =>
    refine SharedTable.oneTime.finds h (f := fun found => decodeRow found) ?_
    exact congrArg (Except.map _) (decodeRow_map_encode OneTimePrekey.roundTrips _)
  | oneTimeCount => exact SharedTable.oneTime.counts h
  | storeSigned key => exact SharedTable.signed.inserts h key.id key
  | signed id =>
    refine SharedTable.signed.finds h (f := fun found => decodeRow found) ?_
    exact congrArg (Except.map _) (decodeRow_map_encode SignedPrekey.roundTrips _)
  | storeKyber key lastResort => exact SharedTable.kyber.inserts h key.id (key, lastResort)
  | kyber id =>
    refine SharedTable.kyber.finds h (f := fun found =>
      decodeRow (found.map KyberRow.record)) ?_
    have hrecord : ((m.kyber.find? id).map KyberRow.ofKey).map KyberRow.record =
        ((m.kyber.find? id).map Prod.fst).map Json.encode := by
      simp [Function.comp_def, KyberRow.ofKey]
    exact congrArg (Except.map _)
      (hrecord ▸ decodeRow_map_encode KyberPrekey.roundTrips _)
  | isLastResort id =>
    refine SharedTable.kyber.finds h (f := fun found =>
      return (found.map fun row => isSet row.lastResort).getD false) ?_
    simp [SharedTable.kyber, Function.comp_def, KyberRow.ofKey]
  | kyberCount => exact SharedTable.kyber.counts h
  | storeSession address data => exact SharedTable.sessions.inserts h address ⟨data, false⟩
  | session address =>
    refine SharedTable.sessions.finds h (f := fun found =>
      return (found.filter fun row => row.archived = 0).map SessionRow.data) ?_
    exact congrArg (fun found => Except.ok (found, db)) (data_of_session _)
  | archiveSessions =>
    exact SharedTable.sessions.writes h (fun _ ht => ht.mapRows rfl fun s => (ended_ofSession s).symm)
      fun _ _ _ hne ht => ht.mapRows_other rfl hne _
  | activeSessions =>
    refine SharedTable.sessions.reads h (f := fun t =>
      return t.count fun k row => k.1 = role && row.archived = 0) fun t ht => ?_
    have hcount : (t.count fun k row => k.1 = role && row.archived = 0) =
        m.sessions.count fun _ s => decide ((SessionRow.ofSession s).archived = 0) :=
      ht.count rfl fun row => row.archived = 0
    simp only [isActive_ofSession] at hcount
    rw [hcount]
    rfl

end

/-! ### All stores -/

/-- A request to the store of keys of a role, or to the store of sender keys. -/
inductive StoreRequest where
  | keys (role : Role) (r : KeyStore.Request)
  | senderKeys (r : SenderKeyStore.Request)

namespace StoreRequest

@[reducible]
def Reply : StoreRequest → Type
  | keys _ r => r.Reply
  | senderKeys r => r.Reply

def worded : StoreRequest → KeyError → KeyError
  | keys role r, e => r.worded role e
  | senderKeys _, e => e

def answer : (r : StoreRequest) → Query KeyError r.Reply
  | keys role r => answerKeys role r
  | senderKeys r => answerSenderKeys r

/-- Answers a request from a store in memory for each role, and one for the sender keys. -/
def answerInMemory : (r : StoreRequest) → StateT MemoryStores (Except KeyError) r.Reply
  | keys role r => fun m =>
    (MemoryKeys.answer r (m.roles.get role).keys).map fun (a, own) =>
      (a, { m with roles := m.roles.set { m.roles.get role with keys := own } role })
  | senderKeys r => fun m =>
    (MemorySenderKeys.answer r m.senderKeys).map fun (a, t) => (a, { m with senderKeys := t })

/-- A call of a store on a device. -/
def ask : (r : StoreRequest) → Act KeyError r.Reply
  | keys role r => Device.keys role r
  | senderKeys r => Device.senderKeys r

/-- Without faults, a device whose stores are in memory answers every call from there. -/
theorem ask_of_memory {d : Device} {m : MemoryStores} (hmemory : d.memory = some m)
    (hfaults : d.faults = []) (r : StoreRequest) :
    r.ask d = match r.answerInMemory m with
      | .ok (a, m') => .ok a { d with memory := some m' }
      | .error e => .error e d := by
  cases r with
  | keys role r =>
    rw [ask, Device.keys, allow_bind_of_faults_eq_nil hfaults, act_get_bind_eq, answerInMemory]
    simp only [hmemory, Device.onMemory]
    cases MemoryKeys.answer r (m.roles.get role).keys <;> rfl
  | senderKeys r =>
    rw [ask, Device.senderKeys, allow_bind_of_faults_eq_nil hfaults, act_get_bind_eq, answerInMemory]
    simp only [hmemory, Device.onMemory]
    cases MemorySenderKeys.answer r m.senderKeys <;> rfl

end StoreRequest

/-- One database holds what separate stores in memory hold. -/
structure Database.MirrorsStores (db : Database) (m : MemoryStores) : Prop where
  keys : ∀ role, db.Mirrors role (m.roles.get role).keys
  senderKeys : db.senderKeys = some m.senderKeys

theorem mirrorsStores_empty : ({} : Database).MirrorsStores {} := by
  refine ⟨fun role => ?_, rfl⟩
  cases role <;> exact mirrors_empty _

section

variable {db : Database} {m : MemoryStores}

theorem Database.MirrorsStores.answerKeys (h : db.MirrorsStores m) (role : Role)
    (r : KeyStore.Request) :
    Alike Database.MirrorsStores (r.worded role) ((StoreRequest.keys role r).answer db)
      ((StoreRequest.keys role r).answerInMemory m) := by
  have hkeys := (h.keys role).answerKeys r
  simp only [StoreRequest.answer, StoreRequest.answerInMemory]
  generalize Database.answerKeys role r db = out at hkeys
  generalize MemoryKeys.answer r (m.roles.get role).keys = out' at hkeys
  cases hkeys with
  | error => exact .error
  | ok hafter =>
    refine .ok ⟨fun other => ?_, hafter.senderKeys.trans h.senderKeys⟩
    by_cases hother : other = role
    · subst hother
      simpa only [PerRole.get_set] using hafter.self
    · simpa only [PerRole.get_set_of_ne _ _ hother] using
        hafter.others other _ hother (h.keys other)

theorem Database.MirrorsStores.answerSenderKeys (h : db.MirrorsStores m)
    (r : SenderKeyStore.Request) :
    Alike Database.MirrorsStores id ((StoreRequest.senderKeys r).answer db)
      ((StoreRequest.senderKeys r).answerInMemory m) := by
  rw [StoreRequest.answer]
  cases r with
  | store address distribution data =>
    rw [Database.answerSenderKeys, needKeys_bind h.senderKeys]
    exact .ok ⟨fun role => { h.keys role with }, rfl⟩
  | clear =>
    rw [Database.answerSenderKeys, needKeys_bind h.senderKeys]
    exact .ok ⟨fun role => { h.keys role with }, rfl⟩
  | count =>
    rw [Database.answerSenderKeys, needKeys_bind h.senderKeys]
    exact .ok h

theorem Database.MirrorsStores.answer (h : db.MirrorsStores m) (r : StoreRequest) :
    Alike Database.MirrorsStores r.worded (r.answer db) (r.answerInMemory m) := by
  cases r with
  | keys role r => exact h.answerKeys role r
  | senderKeys r => exact h.answerSenderKeys r

end

namespace StoreRequest

def database (asked : List StoreRequest) : Database :=
  asked.foldl (fun db r => stateAfter r.answer db) {}

/-- The stores in memory after some requests. -/
def memory (asked : List StoreRequest) : MemoryStores :=
  asked.foldl (fun m r => stateAfter r.answerInMemory m) {}

theorem mirrorsStores (asked : List StoreRequest) : (database asked).MirrorsStores (memory asked) :=
  List.foldl_rel mirrorsStores_empty fun (r : StoreRequest) _ _ _ h =>
    (h.answer r).stateAfter (x := r.answer) (y := r.answerInMemory) h

/-- Whatever was asked before, the stores in the database answer as the ones in memory. -/
theorem replyOf_answer (asked : List StoreRequest) (r : StoreRequest) :
    replyOf r.answer (database asked) =
      (replyOf r.answerInMemory (memory asked)).mapError r.worded :=
  ((mirrorsStores asked).answer r).replyOf_eq (x := r.answer) (y := r.answerInMemory)

end StoreRequest

end Registrar
