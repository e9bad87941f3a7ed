import Registrar.Database.Basic
import Registrar.ProfileKey
import Registrar.ServiceId

/-!
People we know of, ourselves among them.
-/

namespace Registrar

/-- What is known of a person. Each of the three identifiers belongs to one person at most. -/
structure Recipient where
  id : Int
  aci : Option ServiceId
  pni : Option ServiceId
  e164 : Option String
  registered : Bool
  profileSharing : Bool
  profileKey : Option ProfileKey
  deriving DecidableEq

def readStored (text : Option String) : Option ServiceId :=
  text.bind fun s => (ServiceId.ofString s).toOption

/-- What a row says. Identifiers and profile keys that cannot be read count as absent. -/
def Recipient.ofRow (row : RecipientRow) : Recipient where
  id := row.id
  aci := readStored row.aci
  pni := readStored row.pni
  e164 := row.e164
  registered := isSet row.registered
  profileSharing := isSet row.profileSharing
  profileKey := row.profileKey.bind ProfileKey.ofHex?

end Registrar
