import Registrar.Bytes.Basic
import Registrar.Json.Reader

/-!
Types whose values are written as JSON documents and read from them.
-/

namespace Registrar.Json

class Format (α : Type) where
  reader : Reader
  toJson : α → Json
  ofJson? : Json → Option α

def encode {α : Type} [Format α] (a : α) : String :=
  String.ofList (Format.toJson a).render

def decode (α : Type) [Format α] (s : String) : Except Error α :=
  match Reader.whole (Format.reader α) s with
  | .error e => .error e
  | .ok j =>
    match Format.ofJson? j with
    | some a => .ok a
    | none => .error .expectedValue

def field? (j : Json) (name : String) : Option Json :=
  match j with
  | .object members => members.lookup name
  | _ => none

def ofUInt32 (n : UInt32) : Json := .number n.toNat

def toUInt32? : Json → Option UInt32
  | .number n => if 0 ≤ n ∧ n < UInt32.size then some (UInt32.ofNat n.toNat) else none
  | _ => none

def ofInt64 (n : Int64) : Json := .number n.toInt

def toInt64? : Json → Option Int64
  | .number n => if Int64.minValue.toInt ≤ n ∧ n ≤ Int64.maxValue.toInt then some (Int64.ofInt n) else none
  | _ => none

def toBool? : Json → Option Bool
  | .bool b => some b
  | _ => none

def toString? : Json → Option String
  | .string s => some s
  | _ => none

def ofByte (b : UInt8) : Json := .number b.toNat

def toByte? : Json → Option UInt8
  | .number n => if 0 ≤ n ∧ n < UInt8.size then some (UInt8.ofNat n.toNat) else none
  | _ => none

/-- Byte strings are lists of numbers. -/
def ofBytes (bytes : Bytes) : Json := .array (bytes.map ofByte)

def toBytes? : Json → Option Bytes
  | .array items => items.mapM toByte?
  | _ => none

def ofList {α : Type} [Format α] (as : List α) : Json := .array (as.map Format.toJson)

def toList? {α : Type} [Format α] : Json → Option (List α)
  | .array items => items.mapM Format.ofJson?
  | _ => none

def ofOption {α : Type} (write : α → Json) : Option α → Json
  | none => .null
  | some a => write a

def toOption? {α : Type} (read : Json → Option α) : Json → Option (Option α)
  | .null => some none
  | j => (read j).map some

end Registrar.Json
