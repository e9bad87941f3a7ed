import Registrar.Bytes.Basic
import Registrar.Text.Digit

/-!
Universally unique identifiers and their four spellings: thirty-two hexadecimal digits, the same in
groups of 8, 4, 4, 4 and 12 joined by hyphens, that form in braces, and that form after `urn:uuid:`.
-/

namespace Registrar

/-- An identifier of 128 bits, kept as its thirty-two hexadecimal digits. -/
structure Uuid where
  digits : List (Fin 16)
  length_digits : digits.length = 32
  deriving DecidableEq

namespace Uuid

open Text

def isNil (u : Uuid) : Bool := u.digits.all (· = 0)

def ofBytes? (bytes : Bytes) : Option Uuid :=
  let digits := bytes.flatMap fun b => [Fin.ofNat 16 (b.toNat / 16), Fin.ofNat 16 b.toNat]
  if h : digits.length = 32 then some ⟨digits, h⟩ else none

/-- Digits in groups of 8, 4, 4, 4 and the rest, with hyphens between the groups. -/
def hyphenate (ds : List Char) : List Char :=
  ds.take 8 ++ '-' :: (ds.drop 8).take 4 ++ '-' :: (ds.drop 12).take 4
    ++ '-' :: (ds.drop 16).take 4 ++ '-' :: ds.drop 20

def chars (u : Uuid) : List Char :=
  hyphenate (u.digits.map fun d => hexDigit d.val)

def toString (u : Uuid) : String := String.ofList u.chars

def digit? (c : Char) : Option (Fin 16) :=
  (hexValue? c).map (Fin.ofNat 16)

def ofDigits? (cs : List Char) : Option Uuid :=
  match cs.mapM digit? with
  | none => none
  | some ds => if h : ds.length = 32 then some ⟨ds, h⟩ else none

/-- Takes out the hyphens of the form in groups, if they stand where they should. -/
def ungroup? (cs : List Char) : Option (List Char) :=
  if [8, 13, 18, 23].all fun i => cs[i]? = some '-' then
    some (cs.take 8 ++ (cs.drop 9).take 4 ++ (cs.drop 14).take 4 ++ (cs.drop 19).take 4
      ++ cs.drop 24)
  else none

def braced? (cs : List Char) : Option (List Char) :=
  if cs.head? = some '{' && cs.getLast? = some '}' then some (cs.drop 1).dropLast else none

def afterUrn? (cs : List Char) : Option (List Char) :=
  if (cs.take 9).map Char.toLower = "urn:uuid:".toList then some (cs.drop 9) else none

/-- The identifier that a text spells in one of the four ways. -/
def spelled? (cs : List Char) : Option Uuid :=
  if cs.length = 32 then ofDigits? cs
  else
    let grouped :=
      if cs.length = 36 then some cs
      else if cs.length = 38 then braced? cs
      else if cs.length = 45 then afterUrn? cs
      else none
    grouped.bind fun g => (ungroup? g).bind ofDigits?

end Uuid

end Registrar
