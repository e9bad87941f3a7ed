import Registrar.Database.Basic

/-!
Single values by key, all kept as text. What is absent reads as nothing, and writing nothing takes
the key away.
-/

namespace Registrar.Database

def readText (key : String) : Query DatabaseError (Option String) := do
  let kv ← need .keyValues (← get).keyValues
  return kv.values.find? key

def writeText (key : String) (value : Option String) : Query DatabaseError Unit := do
  let kv ← need .keyValues (← get).keyValues
  match value with
  | some text =>
    if key ∈ kv.refused then throw .diskFull
    modify fun db => { db with keyValues := some { kv with values := kv.values.insert key text } }
  | none =>
    modify fun db => { db with keyValues := some { kv with values := kv.values.erase key } }

def boolText (b : Bool) : String := if b then "1" else "0"

/-- Only the text `1` is true. -/
def readBool (key : String) : Query DatabaseError Bool := do
  return (← readText key) == some "1"

def writeBool (key : String) (value : Bool) : Query DatabaseError Unit :=
  writeText key (some (boolText value))

/-- The number under a key; a text that is no numeral is a failure. -/
def readNumber (key : String) : Query DatabaseError (Option UInt32) := do
  match ← readText key with
  | none => return none
  | some raw =>
    match Text.readNumeral raw.toList with
    | .ok n => return some n
    | .error cause => throw (.notANumber key raw cause)

def writeNumber (key : String) (value : UInt32) : Query DatabaseError Unit :=
  writeText key (some (Text.numeral value))

def refuse (key : String) : Query DatabaseError Unit := fun db =>
  match db.keyValues with
  | none => .error (.noSuchTable ("main." ++ TableName.keyValues.name))
  | some kv => .ok ((), { db with keyValues := some { kv with refused := key :: kv.refused } })

def accept (key : String) : Query DatabaseError Unit := fun db =>
  let missing : DatabaseError := .noSuchTrigger ("fail_" ++ key)
  match db.keyValues with
  | none => .error missing
  | some kv =>
    if key ∈ kv.refused then
      .ok ((), { db with keyValues := some { kv with refused := kv.refused.filter (· ≠ key) } })
    else .error missing

def allTexts : Query DatabaseError (List (String × String)) := do
  let kv ← need .keyValues (← get).keyValues
  return kv.values.rows

end Registrar.Database
