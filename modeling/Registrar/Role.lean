import Registrar.Json.Format

/-!
The two identities of an account.
-/

namespace Registrar

/--
An account has a primary identity, which belongs to the person, and a secondary one, which belongs
to the phone number. Each has its own identity key, its own prekeys and its own sessions.
-/
inductive Role where
  | primary
  | secondary
  deriving Repr, DecidableEq

namespace Role

/-- The order in which everything is done that is done for both. -/
def all : List Role := [.primary, .secondary]

def tag : Role → String
  | .primary => "aci"
  | .secondary => "pni"

def name : Role → String
  | .primary => "primary"
  | .secondary => "secondary"

def ofName? (s : String) : Option Role :=
  if s = "primary" then some .primary
  else if s = "secondary" then some .secondary
  else none

instance : Json.Format Role where
  reader := Json.Reader.choice ["primary", "secondary"]
  toJson r := .string r.name
  ofJson? j := (Json.toString? j).bind ofName?

end Role

structure PerRole (α : Type) where
  primary : α
  secondary : α
  deriving Repr, DecidableEq

namespace PerRole

variable {α : Type}

def get (p : PerRole α) : Role → α
  | .primary => p.primary
  | .secondary => p.secondary

def set (p : PerRole α) (a : α) : Role → PerRole α
  | .primary => { p with primary := a }
  | .secondary => { p with secondary := a }

theorem get_set (p : PerRole α) (a : α) (role : Role) : (p.set a role).get role = a := by
  cases role <;> rfl

theorem get_set_of_ne (p : PerRole α) (a : α) {role other : Role} (h : other ≠ role) :
    (p.set a role).get other = p.get other := by
  cases role <;> cases other <;> first | rfl | exact absurd rfl h

end PerRole

end Registrar
