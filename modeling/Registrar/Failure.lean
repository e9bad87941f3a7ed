/-!
What can go wrong: with keys, with the database, and with a registration as a whole.
-/

namespace Registrar

inductive KeyError where
  /-- a signature does not fit -/
  | verification (detail : String)
  /-- bytes that are no key -/
  | invalidKey (detail : String)
  /-- prekeys cannot be made -/
  | prekey (detail : String)
  /-- keys cannot be stored or loaded -/
  | storage (detail : String)
  deriving Repr, DecidableEq

def KeyError.message : KeyError → String
  | .verification detail => "verification failed: " ++ detail
  | .invalidKey detail => "invalid key material: " ++ detail
  | .prekey detail => "prekey error: " ++ detail
  | .storage detail => "key storage error: " ++ detail

inductive Failure where
  /-- the server's confirmation cannot be used; found out before anything is changed -/
  | malformedResponse (detail : String)
  /-- the storage failed; the same attempt may be made again -/
  | storage (detail : String)
  | crypto (cause : KeyError)
  /-- another attempt is running -/
  | inProgress
  | configuration (detail : String)
  | unexpected (detail : String)
  deriving Repr, DecidableEq

namespace Failure

def message : Failure → String
  | .malformedResponse detail => "malformed server response: " ++ detail
  | .storage detail => "storage error: " ++ detail
  | .crypto cause => "crypto error: " ++ cause.message
  | .inProgress => "registration already in progress"
  | .configuration detail => "configuration error: " ++ detail
  | .unexpected detail => "unexpected failure: " ++ detail

/-- Whether the same attempt can be made again with hope of success. -/
def isRetryable : Failure → Bool
  | .storage _ => true
  | .inProgress => true
  | _ => false

def ofKeyError : KeyError → Failure
  | .storage detail => .storage detail
  | cause => .crypto cause

end Failure

end Registrar
