import Registrar.Database.Directory
import Registrar.Database.KeyValues

/-!
What is kept of the account itself, as single values of the database.
-/

namespace Registrar.Account

inductive Entry where
  /-- the identifier of a role -/
  | serviceId (role : Role)
  | e164
  | servicePassword
  | registered
  | pushToken
  | pushEnabled
  /-- the number by which the server tells installations apart, one for each role -/
  | registrationId (role : Role)
  /-- the server refused our credentials -/
  | unauthorized
  | needsReregistration
  /-- the user was asked to register for push messages -/
  | promptedPush
  deriving Repr, DecidableEq

def Entry.name : Entry → String
  | .serviceId role => role.tag
  | .e164 => "e164"
  | .servicePassword => "service_password"
  | .registered => "registered"
  | .pushToken => "fcm_token"
  | .pushEnabled => "fcm_enabled"
  | .registrationId .primary => "registration_id"
  | .registrationId .secondary => "pni_registration_id"
  | .unauthorized => "unauthorized_received"
  | .needsReregistration => "needs_reregistration"
  | .promptedPush => "prompted_push_registration"

def Entry.key (entry : Entry) : String := "account." ++ entry.name

open Database

def text (entry : Entry) : Query Failure (Option String) :=
  (readText entry.key).mapError failure

/-- Keeps a text, or forgets the one that was kept. -/
def setText (entry : Entry) (value : Option String) : Query Failure Unit :=
  (writeText entry.key value).mapError failure

def isMarked (entry : Entry) : Query Failure Bool :=
  (readBool entry.key).mapError failure

def setMarked (entry : Entry) (value : Bool) : Query Failure Unit :=
  (writeBool entry.key value).mapError failure

/-- The identifier of a role. Its role is the one that the stored text tells. -/
def serviceId (role : Role) : Query Failure (Option ServiceId) := do
  match ← text (.serviceId role) with
  | none => return none
  | some raw =>
    match ServiceId.ofString raw with
    | .ok id => return some id
    | .error e => throw e.failure

def setServiceId (id : ServiceId) : Query Failure Unit :=
  setText (.serviceId id.role) (some id.toString)

/--
Makes the account a registered one, and ends what asked for a registration. The mark itself comes
last; all of it is one query, so either everything is written or nothing.
-/
def commitRegistered : Query Failure Unit := do
  setMarked .promptedPush true
  setMarked .unauthorized false
  setMarked .needsReregistration false
  setMarked .registered true

/-- The largest registration id that the server takes. -/
def maxRegistrationId : Nat := 16380

/-- A generator of random numbers, which is asked for one from `low` up to `high`. -/
abbrev Draw := (low high : UInt32) → UInt32

/--
The registration id of a role. If there is none yet, or it is zero, one is drawn and kept, and
stays.
-/
def registrationId (role : Role) (draw : Draw) : Query Failure UInt32 :=
  Query.mapError failure do
    match ← readNumber (Entry.registrationId role).key with
    | some id => if id ≠ 0 then return id
    | none => pure ()
    let id := draw 1 (.ofNat maxRegistrationId)
    writeNumber (Entry.registrationId role).key id
    return id

/-- A certain registration id, for where nothing is to be left to chance. -/
structure FreshId where
  value : UInt32
  pos : 0 < value.toNat
  le_max : value.toNat ≤ maxRegistrationId

/-- The generator that gives this id, or the number next to it that its bounds allow. -/
def FreshId.draw (fresh : FreshId) : Draw := fun low high =>
  if fresh.value < low then low else if high < fresh.value then high else fresh.value

instance : Coe FreshId Draw := ⟨FreshId.draw⟩

end Registrar.Account
