import Registrar.Prekey.Bundle
import Registrar.ProfileKey
import Registrar.Registration.Response

/-!
What one attempt to register brings along.
-/

namespace Registrar

/-- What the device has gathered before it asked the server. -/
structure Enrolment where
  e164 : String
  password : String
  profileKey : ProfileKey
  bundles : PerRole Bundle
  pushToken : Option String
  /-- a password that would let the account be registered again without a code -/
  recoveryPassword : Option String
  deriving DecidableEq

/-- Whether messages are to be announced by push, for which a token is needed. -/
def Enrolment.wantsPush (e : Enrolment) : Bool :=
  match e.pushToken with
  | some token => token ≠ ""
  | none => false

structure Attempt where
  enrolment : Enrolment
  response : Response
  /-- lock the registration with the PIN -/
  enableLock : Bool
  deriving DecidableEq

end Registrar
