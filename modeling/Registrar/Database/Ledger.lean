import Registrar.Database.KeyValues
import Registrar.Prekey.Ledger

/-!
The ledger of one role, kept as single values of the database.
-/

namespace Registrar

def KeyError.ofDatabase (e : DatabaseError) : KeyError := .storage e.message

namespace Database

/-- The last id of a space that was handed out stands under this name. -/
def counterName : Ledger.Space → String
  | .signed => "last_signed_id"
  | .oneTime => "last_one_time_id"
  | .kyber => "last_kyber_id"

def pointerName : Ledger.Pointer → String
  | .activeSigned => "active_signed_id"
  | .lastResort => "last_resort_kyber_id"

def ledgerKey (role : Role) (name : String) : String := "prekeys." ++ role.tag ++ "." ++ name

/--
Hands out ids. A counter that is not there yet counts as zero, one that cannot be read is left.
-/
def reserve (role : Role) (space : Ledger.Space) (count : UInt32) : Query KeyError UInt32 := do
  let key := ledgerKey role (counterName space)
  let counter := (← (readNumber key).mapError KeyError.ofDatabase).getD 0
  let (first, last) ← Ledger.reserve counter count space.kind
  (writeNumber key last).mapError KeyError.ofDatabase
  return first

def answerLedger (role : Role) : (r : Ledger.Request) → Query KeyError r.Reply
  | .reserve space count => reserve role space count
  | .pointer p => (readNumber (ledgerKey role (pointerName p))).mapError KeyError.ofDatabase
  | .setPointer p id => (writeNumber (ledgerKey role (pointerName p)) id).mapError KeyError.ofDatabase
  | .isRegistered => (readBool (ledgerKey role "signed_registered")).mapError KeyError.ofDatabase
  | .setRegistered value =>
    (writeBool (ledgerKey role "signed_registered") value).mapError KeyError.ofDatabase

end Database

end Registrar
