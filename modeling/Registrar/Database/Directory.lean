import Registrar.Recipient

/-!
The directory of recipients: looking people up, and changing what is known of them.

No two rows have the same value in any of the three columns of identifiers; a change that would
make it so fails.
-/

namespace Registrar.Database

inductive IdColumn where
  | aci
  | pni
  | e164
  deriving Repr, DecidableEq

def IdColumn.name : IdColumn → String
  | .aci => "aci"
  | .pni => "pni"
  | .e164 => "e164"

def IdColumn.value (c : IdColumn) (row : RecipientRow) : Option String :=
  match c with
  | .aci => row.aci
  | .pni => row.pni
  | .e164 => row.e164

def IdColumn.ofRole : Role → IdColumn
  | .primary => .aci
  | .secondary => .pni

def columnValues (c : IdColumn) (rows : List RecipientRow) : List String :=
  rows.filterMap c.value

/-- The column in which two rows have the same value. -/
def conflict? (rows : List RecipientRow) : Option IdColumn :=
  [IdColumn.e164, .pni, .aci].find? fun c => !decide (columnValues c rows).Nodup

def recipientRows : Query DatabaseError RecipientRows := do
  need .recipients (← get).recipients

/-- Puts new rows in the place of the old ones, if no identifier occurs twice. -/
def putRecipients (rows : RecipientRows) : Query DatabaseError Unit := do
  if let some c := conflict? rows.rows then
    throw (.notUnique (TableName.recipients.name ++ "." ++ c.name))
  modify fun db => { db with recipients := some rows }

/-- Adds a row, whose id is the one after the last that was given. -/
def addRecipient (row : RecipientRow) : Query DatabaseError Int := do
  let t ← recipientRows
  let id := t.lastId + 1
  putRecipients ⟨t.rows ++ [{ row with id := id }], id⟩
  return id

def updateRecipients (p : RecipientRow → Bool) (f : RecipientRow → RecipientRow) :
    Query DatabaseError Nat := do
  let t ← recipientRows
  putRecipients { t with rows := t.rows.map fun row => if p row then f row else row }
  return t.rows.countP p

def findRecipient (c : IdColumn) (value : String) : Query DatabaseError (Option Int) := do
  let t ← recipientRows
  return (t.rows.find? fun row => c.value row = some value).map RecipientRow.id

def recipient (id : Int) : Query DatabaseError (Option Recipient) := do
  let t ← recipientRows
  return (t.rows.find? fun row => row.id = id).map Recipient.ofRow

def recipientOf (id : ServiceId) : Query DatabaseError (Option Int) :=
  findRecipient (.ofRole id.role) id.toString

/--
The row for an identity that the server vouches for: the one with the primary identifier, else the
one with the secondary, else the one with the phone number, else a new one with all three.
-/
def trustedRecipient (aci pni : ServiceId) (e164 : String) : Query DatabaseError Int := do
  let byAci ← findRecipient .aci aci.toString
  if let some id := byAci then return id
  let byPni ← findRecipient .pni pni.toString
  if let some id := byPni then return id
  let byE164 ← findRecipient .e164 e164
  if let some id := byE164 then return id
  addRecipient { id := 0, aci := aci.toString, pni := pni.toString, e164 := e164 }

def setProfileSharing (id : Int) (enabled : Bool) : Query DatabaseError Unit := do
  let _ ← updateRecipients (·.id = id) fun row => { row with profileSharing := flag enabled }

def setProfileKey (id : Int) (key : ProfileKey) : Query DatabaseError Unit := do
  let _ ← updateRecipients (·.id = id) fun row => { row with profileKey := key.toHex }

def failure (e : DatabaseError) : Failure := .storage e.message

/-- Marks a row as registered under a primary identifier, which every other row loses. -/
def markRegistered (id : Int) (aci : ServiceId) : Query Failure Unit := do
  let text := aci.toString
  let _ ← (updateRecipients (fun row => row.aci = some text && row.id ≠ id)
    fun row => { row with aci := none }).mapError failure
  let updated ← (updateRecipients (·.id = id)
    fun row => { row with registered := flag true, aci := some text }).mapError failure
  if updated = 0 then throw (.storage s!"recipient {id} not found")

/--
Gives the row with our primary identifier the other two as well, which every other row loses.
-/
def linkSelf (aci pni : ServiceId) (e164 : String) : Query Failure Int := do
  match ← (findRecipient .aci aci.toString).mapError failure with
  | none => throw (.storage "self recipient missing while linking ids")
  | some id =>
    let text := pni.toString
    let _ ← (updateRecipients (fun row => row.pni = some text && row.id ≠ id)
      fun row => { row with pni := none }).mapError failure
    let _ ← (updateRecipients (fun row => row.e164 = some e164 && row.id ≠ id)
      fun row => { row with e164 := none }).mapError failure
    let _ ← (updateRecipients (·.id = id)
      fun row => { row with pni := some text, e164 := some e164 }).mapError failure
    return id

def recipientCount : Query DatabaseError Nat := do
  return (← recipientRows).rows.length

def allRecipients : Query DatabaseError (List Recipient) := do
  return (← recipientRows).rows.map Recipient.ofRow

end Registrar.Database
