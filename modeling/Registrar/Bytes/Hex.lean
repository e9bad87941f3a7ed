import Registrar.Bytes.Basic
import Registrar.Text.Digit

/-!
Byte strings as hexadecimal text. Writing uses lower case; reading takes either case and refuses
everything else.
-/

namespace Registrar.Hex

open Text

/-- Two digits per byte, the higher half first. -/
def digits : Bytes → List Char
  | [] => []
  | b :: bs => hexDigit (b.toNat / 16) :: hexDigit (b.toNat % 16) :: digits bs

def encode (bytes : Bytes) : String :=
  String.ofList (digits bytes)

def ofDigits? : List Char → Option Bytes
  | [] => some []
  | [_] => none
  | a :: b :: rest =>
    match hexValue? a, hexValue? b with
    | some x, some y => (ofDigits? rest).map (UInt8.ofNat (16 * x + y) :: ·)
    | _, _ => none

def decode? (s : String) : Option Bytes :=
  ofDigits? s.toList

theorem ofDigits?_digits (bytes : Bytes) : ofDigits? (digits bytes) = some bytes := by
  induction bytes with
  | nil => rfl
  | cons b bs ih =>
    have hb := b.toNat_lt
    rw [digits, ofDigits?, hexValue?_hexDigit (by omega), hexValue?_hexDigit (by omega), ih]
    have : 16 * (b.toNat / 16) + b.toNat % 16 = b.toNat := by omega
    simp [this]

theorem decode?_encode (bytes : Bytes) : decode? (encode bytes) = some bytes := by
  simp [decode?, encode, ofDigits?_digits]

end Registrar.Hex
