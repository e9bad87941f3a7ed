import Registrar.Prekey.Ledger
import Registrar.Role
import Registrar.Store.Request

/-!
Calls of the stores that are made to fail.
-/

namespace Registrar

inductive Call where
  | keys (role : Role) (request : KeyStore.Request)
  | ledger (role : Role) (request : Ledger.Request)
  | senderKeys (request : SenderKeyStore.Request)
  deriving DecidableEq

/-- From some point on, certain calls fail. -/
structure Fault where
  hits : Call → Bool
  /-- how many of these calls are let through first -/
  skip : Nat
  error : KeyError

/--
The failure of a call, if one of the faults makes it fail, and what is left of the faults. The first
fault that lets nothing through any more decides; those before it let one call less through.
-/
def Fault.meet (call : Call) : List Fault → Option KeyError × List Fault
  | [] => (none, [])
  | f :: fs =>
    let (outcome, rest) := meet call fs
    if f.hits call then
      match f.skip with
      | 0 => (some f.error, f :: fs)
      | skip + 1 => (outcome, { f with skip := skip } :: rest)
    else (outcome, f :: rest)

end Registrar
