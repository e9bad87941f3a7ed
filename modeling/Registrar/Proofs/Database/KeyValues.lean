import Registrar.Database.KeyValues
import Registrar.Proofs.Database.Query
import Registrar.Proofs.Text.Decimal

/-!
Reading the texts of a database, and the numbers among them.
-/

namespace Registrar

open Database

variable {db db' : Database}

theorem readText_eq (key : String) (db : Database) :
    readText key db = match db.keyValues with
      | none => .error (.noSuchTable TableName.keyValues.name)
      | some kv => .ok (kv.values.find? key, db) := by
  simp only [readText, Query.bind_apply, Query.get_apply, Query.need_apply]
  cases db.keyValues <;> rfl

theorem readNumber_eq (key : String) (db : Database) :
    readNumber key db = match db.keyValues with
      | none => .error (.noSuchTable TableName.keyValues.name)
      | some kv =>
        match kv.values.find? key with
        | none => .ok (none, db)
        | some raw =>
          match Text.readNumeral raw.toList with
          | .ok n => .ok (some n, db)
          | .error cause => .error (.notANumber key raw cause) := by
  rw [readNumber, Query.bind_apply, readText_eq]
  cases db.keyValues with
  | none => rfl
  | some kv =>
    dsimp only
    cases kv.values.find? key with
    | none => rfl
    | some raw =>
      dsimp only
      cases Text.readNumeral raw.toList <;> rfl

theorem readNumber_of_numeral {kv : KeyValues} (hkv : db.keyValues = some kv) {key : String}
    {n : UInt32} (hn : kv.values.find? key = some (Text.numeral n)) :
    readNumber key db = .ok (some n, db) := by
  rw [readNumber_eq, hkv]
  simp only [hn, Text.readNumeral_toList_numeral]

theorem eq_of_readNumber {key : String} {n : Option UInt32}
    (h : readNumber key db = .ok (n, db')) : db' = db := by
  rw [readNumber_eq] at h
  split at h
  · cases h
  · split at h
    · cases h
      rfl
    · split at h
      · cases h
        rfl
      · cases h

theorem eq_of_readBool {key : String} {b : Bool} (h : readBool key db = .ok (b, db')) :
    db' = db := by
  rw [readBool, Query.bind_apply, readText_eq] at h
  cases hkv : db.keyValues with
  | none =>
    rw [hkv] at h
    cases h
  | some kv =>
    rw [hkv] at h
    cases h
    rfl

end Registrar
