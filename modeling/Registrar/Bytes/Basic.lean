/-!
Byte strings, and the numbers they stand for.

Keys, signatures and session states are lists of bytes of any length. Where a byte string stands
for a number its first byte is the least significant one.
-/

namespace Registrar

abbrev Bytes := List UInt8

namespace Bytes

/-- The number whose base-256 digits, least significant first, are the given bytes. -/
def toNat (bytes : Bytes) : Nat :=
  bytes.foldr (fun b n => b.toNat + 256 * n) 0

/-- The `length` low base-256 digits of `n`, least significant first. -/
def ofNat (length n : Nat) : Bytes :=
  match length with
  | 0 => []
  | length + 1 => UInt8.ofNat n :: ofNat length (n / 256)

@[simp]
theorem length_ofNat (length n : Nat) : (ofNat length n).length = length := by
  induction length generalizing n with
  | zero => rfl
  | succ length ih => simp [ofNat, ih]

/-- The whole blocks of `size` bytes from the front; a shorter rest is left out. -/
def blocks (size : Nat) (bytes : Bytes) : List Bytes :=
  (List.range (bytes.length / size)).map fun i => (bytes.drop (size * i)).take size

end Bytes

end Registrar
