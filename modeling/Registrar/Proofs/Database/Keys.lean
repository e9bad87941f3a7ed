import Registrar.Database.Keys
import Registrar.Proofs.Database.Query
import Registrar.Proofs.Json.RoundTrip

/-!
Rows of the stores of keys are read as they were written.
-/

namespace Registrar

open Database

theorem needKeys_some {α : Type} (name : TableName) (t : α) (db : Database) :
    needKeys name (some t) db = .ok (t, db) := rfl

theorem decodeRow_encode {α : Type} [Json.Format α] (hα : Json.RoundTrips α) (a : α) :
    decodeRow (some (Json.encode a)) = .ok (some a) := by
  rw [decodeRow, decodeRecord, hα.decode_encode]
  rfl

theorem decodeRow_map_encode {α : Type} [Json.Format α] (hα : Json.RoundTrips α) (a : Option α) :
    decodeRow (a.map Json.encode) = .ok a := by
  cases a with
  | none => rfl
  | some a => exact decodeRow_encode hα a

theorem toRecord_ofRecord (r : IdentityRecord) :
    IdentityRow.toRecord (IdentityRow.ofRecord r) = r := by
  simp [IdentityRow.ofRecord, IdentityRow.toRecord]

end Registrar
