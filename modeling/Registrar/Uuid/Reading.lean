import Registrar.Text.Utf8
import Registrar.Uuid.Basic

/-!
Reading identifiers, and what is reported of a text that spells none.
-/

namespace Registrar.Uuid

open Text

/-- What is wrong with a text that spells no identifier. Lengths and places count UTF-8 bytes. -/
inductive Error where
  | length (found : Nat)
  | character (c : Char) (place : Nat)
  | groupCount (found : Nat)
  | groupLength (group expected found : Nat)
  deriving Repr, DecidableEq

def Error.message : Error → String
  | .length found => s!"invalid length: found {found}"
  | .character c place => s!"invalid character: found `{c}` at {place}"
  | .groupCount found => s!"invalid group count: expected 5, found {found}"
  | .groupLength group expected found =>
    s!"invalid group length in group {group}: expected {expected}, found {found}"

def withPlaces (place : Nat) : List Char → List (Char × Nat)
  | [] => []
  | c :: cs => (c, place) :: withPlaces (place + c.utf8Size) cs

structure Exhibit where
  /-- the text whose length is reported -/
  reported : List Char
  /-- the part of it that should hold the groups -/
  body : List Char
  /-- where that part starts -/
  start : Nat
  /-- nothing says so far that the digits are meant to be grouped -/
  plain : Bool

/--
A text of the right length for one of the grouped spellings is reported without its frame; any
other text is reported whole, though a frame still says that groups are meant.
-/
def Exhibit.of (cs : List Char) : Exhibit :=
  let length := byteLength cs
  let inner :=
    if length = 36 then some cs
    else if length = 38 then braced? cs
    else if length = 45 then afterUrn? cs
    else none
  match inner with
  | some g => ⟨g, g, 0, false⟩
  | none =>
    match braced? cs with
    | some g => ⟨cs, g, 1, false⟩
    | none =>
      match afterUrn? cs with
      | some g => ⟨cs, g, 9, false⟩
      | none => ⟨cs, cs, 0, true⟩

/-- The first group whose end is not where it should be; the last group if there is none. -/
def groupError (hyphens : List Nat) (length : Nat) : Error :=
  let ends := [(0, 8, 0, 8), (1, 13, 9, 4), (2, 18, 14, 4), (3, 23, 19, 4)]
  let wrong := (hyphens.zip ends).find? fun (found, _, due, _, _) => found ≠ due
  match wrong with
  | some (found, group, _, first, expected) => .groupLength group expected (found - first)
  | none => .groupLength 4 12 (length - 24)

def diagnose (cs : List Char) : Error :=
  if cs.isEmpty || 45 < byteLength cs then .length (byteLength cs)
  else
    let e := Exhibit.of cs
    let foreign := (withPlaces e.start e.body).find? fun (c, _) => (hexValue? c).isNone && c ≠ '-'
    let hyphens := ((withPlaces 0 e.body).filter fun (c, _) => c = '-').map Prod.snd
    match foreign with
    | some (c, place) => .character c place
    | none =>
      if e.plain && hyphens.isEmpty then .length (byteLength e.reported)
      else if hyphens.length ≠ 4 then .groupCount (hyphens.length + 1)
      else groupError hyphens (byteLength e.reported)

def read (cs : List Char) : Except Error Uuid :=
  match spelled? cs with
  | some u => .ok u
  | none => .error (diagnose cs)

end Registrar.Uuid
