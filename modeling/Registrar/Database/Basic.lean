import Registrar.Bytes.Basic
import Registrar.Role
import Registrar.Store.Table
import Registrar.Text.Numeral
import Registrar.Text.Quoted
import Registrar.Text.Utf8

/-!
The database of an account: its tables, and queries on them.

A query either gives an answer and a new database or fails and has no effect; queries that are put
together fail as one. So each query is a transaction.
-/

namespace Registrar

inductive DatabaseError where
  | noSuchTable (name : String)
  | noSuchTrigger (name : String)
  | diskFull
  | noRows
  /-- the text stored under a key is no numeral -/
  | notANumber (key raw : String) (cause : Text.NumeralError)
  /-- two rows would have the same value in a column that allows each value once -/
  | notUnique (column : String)
  | cannotOpen (path : String)
  | nulInPath (place : Nat)
  | invalidAuthority (name : String)
  | noSuchMode (kind name : String)
  | modeNotAllowed (name : String)
  | noSuchFileSystem (name : String)
  | readOnly
  | ioFailure
  | notADatabase
  deriving Repr, DecidableEq

def DatabaseError.message : DatabaseError → String
  | .noSuchTable name => "no such table: " ++ name
  | .noSuchTrigger name => "no such trigger: " ++ name
  | .diskFull => "disk full"
  | .noRows => "Query returned no rows"
  | .notANumber key raw cause =>
    "Conversion error from type Text at index: 0, " ++ key ++ " = " ++ Text.quote raw ++ ": "
      ++ cause.message
  | .notUnique column => "UNIQUE constraint failed: " ++ column
  | .cannotOpen path => "unable to open database file: " ++ path
  | .nulInPath place => s!"nul byte found in provided data at position: {place}"
  | .invalidAuthority name => "invalid uri authority: " ++ name
  | .noSuchMode kind name => "no such " ++ kind ++ " mode: " ++ name
  | .modeNotAllowed name => "access mode not allowed: " ++ name
  | .noSuchFileSystem name => "no such vfs: " ++ name
  | .readOnly => "attempt to write a readonly database"
  | .ioFailure => "disk I/O error"
  | .notADatabase => "file is not a database"

inductive TableName where
  | keyValues
  | recipients
  | identities
  | ownIdentities
  | signed
  | oneTime
  | kyber
  | sessions
  | senderKeys
  deriving Repr, DecidableEq

def TableName.name : TableName → String
  | .keyValues => "key_values"
  | .recipients => "recipients"
  | .identities => "identities"
  | .ownIdentities => "own_identity_keys"
  | .signed => "signed_prekeys"
  | .oneTime => "one_time_prekeys"
  | .kyber => "kyber_prekeys"
  | .sessions => "sessions"
  | .senderKeys => "sender_keys"

def flag (b : Bool) : Int := if b then 1 else 0

/-- What a number in such a column means: everything but zero is true. -/
def isSet (n : Int) : Bool := n ≠ 0

@[simp]
theorem isSet_flag (b : Bool) : isSet (flag b) = b := by
  cases b <;> rfl

/-- Texts by key, and the keys that at present take no text. -/
structure KeyValues where
  values : Table String String := ∅
  refused : List String := []

structure RecipientRow where
  id : Int
  aci : Option String := none
  pni : Option String := none
  e164 : Option String := none
  registered : Int := 0
  profileSharing : Int := 0
  profileKey : Option String := none
  deriving Repr, DecidableEq

/-- The rows in the order in which they came, and the last id that was given to one. -/
structure RecipientRows where
  rows : List RecipientRow := []
  lastId : Int := 0
  deriving Repr, DecidableEq

structure IdentityRow where
  identityKey : Bytes
  verified : Int
  firstUse : Int
  timestamp : Int64
  nonblockingApproval : Int
  deriving DecidableEq

structure KyberRow where
  record : String
  lastResort : Int
  deriving DecidableEq

structure SessionRow where
  data : Bytes
  archived : Int
  deriving DecidableEq

/-- The row once its session has ended; of one that ended before nothing changes. -/
def SessionRow.ended (row : SessionRow) : SessionRow :=
  if row.archived = 0 then { row with archived := flag true } else row

@[simp]
theorem SessionRow.archived_ended (row : SessionRow) : row.ended.archived ≠ 0 := by
  unfold ended
  split
  · exact Int.one_ne_zero
  · assumption

@[simp]
theorem SessionRow.ended_ended (row : SessionRow) : row.ended.ended = row.ended :=
  if_neg row.archived_ended

@[simp]
theorem SessionRow.data_ended (row : SessionRow) : row.ended.data = row.data := by
  unfold ended
  split <;> rfl

/-- The tables, each with its rows unless it has been dropped. -/
structure Database where
  version : Int := 3
  keyValues : Option KeyValues := some {}
  recipients : Option RecipientRows := some {}
  identities : Option (Table (Role × String) IdentityRow) := some ∅
  ownIdentities : Option (Table Role Bytes) := some ∅
  signed : Option (Table (Role × UInt32) String) := some ∅
  oneTime : Option (Table (Role × UInt32) String) := some ∅
  kyber : Option (Table (Role × UInt32) KyberRow) := some ∅
  sessions : Option (Table (Role × String) SessionRow) := some ∅
  senderKeys : Option (Table (String × String) Bytes) := some ∅

abbrev Query (ε α : Type) := StateT Database (Except ε) α

def Query.mapError {ε ε' α : Type} (f : ε → ε') (q : Query ε α) : Query ε' α :=
  fun db => (q db).mapError f

namespace Database

def need {α : Type} (name : TableName) (table : Option α) : Query DatabaseError α := fun db =>
  match table with
  | some t => .ok (t, db)
  | none => .error (.noSuchTable name.name)

def currentVersion : Int := 3

/-- Keeps a number as the version. Numbers beyond 32 bits are kept as zero. -/
def setVersion (n : Int) (db : Database) : Database :=
  { db with version := if Int32.minValue.toInt ≤ n ∧ n ≤ Int32.maxValue.toInt then n else 0 }

def withAllTables (db : Database) : Database :=
  { version := db.version
    keyValues := some (db.keyValues.getD {})
    recipients := some (db.recipients.getD {})
    identities := some (db.identities.getD ∅)
    ownIdentities := some (db.ownIdentities.getD ∅)
    signed := some (db.signed.getD ∅)
    oneTime := some (db.oneTime.getD ∅)
    kyber := some (db.kyber.getD ∅)
    sessions := some (db.sessions.getD ∅)
    senderKeys := some (db.senderKeys.getD ∅) }

/--
Opens a stored database: one of the current version stays as it is, tables that are missing
included. One of no version gets the tables it lacks, one of any other version starts from nothing.
-/
def reopen (db : Database) : Database :=
  if db.version = currentVersion then db
  else
    let kept : Database := if db.version = 0 then db else {}
    { kept.withAllTables with version := currentVersion }

/-- Drops a table with its rows, and with the refusals that belong to it. -/
def drop (name : TableName) : Query DatabaseError Unit := fun db =>
  let dropped {α : Type} (table : Option α) (rest : Database) : Except DatabaseError (Unit × Database) :=
    match table with
    | some _ => .ok ((), rest)
    | none => .error (.noSuchTable name.name)
  match name with
  | .keyValues => dropped db.keyValues { db with keyValues := none }
  | .recipients => dropped db.recipients { db with recipients := none }
  | .identities => dropped db.identities { db with identities := none }
  | .ownIdentities => dropped db.ownIdentities { db with ownIdentities := none }
  | .signed => dropped db.signed { db with signed := none }
  | .oneTime => dropped db.oneTime { db with oneTime := none }
  | .kyber => dropped db.kyber { db with kyber := none }
  | .sessions => dropped db.sessions { db with sessions := none }
  | .senderKeys => dropped db.senderKeys { db with senderKeys := none }

end Database

end Registrar
