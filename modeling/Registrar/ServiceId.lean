import Registrar.Failure
import Registrar.Role
import Registrar.Text.Blank
import Registrar.Text.Quoted

/-!
Identifiers that the server gives out, one for each role of an account.

In storage the identifier of the secondary role stands after `PNI:`, so that the text alone tells
the role.
-/

namespace Registrar

structure ServiceId where
  role : Role
  uuid : Uuid
  deriving DecidableEq

namespace ServiceId

inductive Error where
  | invalid (role : Role) (raw : String) (cause : Uuid.Error)
  | nil (role : Role)
  deriving Repr, DecidableEq

def Error.message : Error → String
  | .invalid role raw cause =>
    "invalid " ++ role.tag ++ " identifier " ++ Text.quote raw ++ ": " ++ cause.message
  | .nil role => "nil " ++ role.tag ++ " identifier"

def Error.failure (e : Error) : Failure := .malformedResponse e.message

/-- What marks the storage form of the secondary role. -/
def mark : List Char := ['P', 'N', 'I', ':']

def afterMark? (cs : List Char) : Option (List Char) :=
  if mark.isPrefixOf cs then some (cs.drop mark.length) else none

def bare (role : Role) (cs : List Char) : List Char :=
  match role with
  | .primary => Text.trim cs
  | .secondary => (afterMark? (Text.trim cs)).getD (Text.trim cs)

/--
Reads the identifier of a role: white space at both ends does not count, and one mark in front of
the secondary identifier does not either. The nil identifier is refused.
-/
def read (role : Role) (raw : String) : Except Error ServiceId :=
  match Uuid.read (bare role raw.toList) with
  | .error cause => .error (.invalid role raw cause)
  | .ok uuid => if uuid.isNil then .error (.nil role) else .ok ⟨role, uuid⟩

def toString (id : ServiceId) : String :=
  match id.role with
  | .primary => id.uuid.toString
  | .secondary => String.ofList (mark ++ id.uuid.chars)

/-- Reads the form in storage, where the mark tells the role. -/
def ofString (raw : String) : Except Error ServiceId :=
  match afterMark? raw.toList with
  | some rest => read .secondary (String.ofList rest)
  | none => read .primary raw

instance : Json.Format ServiceId where
  reader := Json.Reader.record "ServiceId"
    [Json.Reader.required "role" (Json.Format.reader Role),
      Json.Reader.required "uuid" Json.Reader.uuid]
  toJson id := .object [("role", Json.Format.toJson id.role), ("uuid", .string id.uuid.toString)]
  ofJson? j := do
    let role ← (← j.field? "role") |> Json.Format.ofJson?
    let text ← (← j.field? "uuid") |> Json.toString?
    match Uuid.read text.toList with
    | .ok uuid => some ⟨role, uuid⟩
    | .error _ => none

end ServiceId

end Registrar
