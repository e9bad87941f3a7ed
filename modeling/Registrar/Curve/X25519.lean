import Registrar.Bytes.Basic
import Registrar.Curve.Field

/-!
X25519 public keys: multiplication of the base point of the Montgomery curve
`v² = u³ + 486662 u² + u` by a clamped private key.
-/

namespace Registrar.X25519

open Registrar.Field

/--
The ladder's two points `u₂ = x₂ / z₂` and `u₃ = x₃ / z₃`, whose difference is the base point.
-/
structure Ladder where
  x2 : Nat
  z2 : Nat
  x3 : Nat
  z3 : Nat

def Ladder.swap (l : Ladder) : Ladder := ⟨l.x3, l.z3, l.x2, l.z2⟩

/-- Doubles the first point and adds the second to it; `u` is the coordinate of their difference. -/
def Ladder.step (u : Nat) (l : Ladder) : Ladder :=
  let a := add l.x2 l.z2
  let aa := mul a a
  let b := sub l.x2 l.z2
  let bb := mul b b
  let e := sub aa bb
  let da := mul (sub l.x3 l.z3) a
  let cb := mul (add l.x3 l.z3) b
  let sum := add da cb
  let difference := sub da cb
  ⟨mul aa bb, mul e (add aa (mul 121665 e)), mul sum sum, mul u (mul difference difference)⟩

/-- The `u`-coordinate of `n` times the point with coordinate `u`, for `n` below `2 ^ 255`. -/
def multiply (n u : Nat) : Nat :=
  let l := (List.range 255).foldr
    (fun i (l : Ladder) => if n.testBit i then (l.swap.step u).swap else l.step u) ⟨1, 0, u, 1⟩
  mul l.x2 (inv l.z2)

/-- The number that a private key stands for: three low bits cleared, bit 254 the highest set. -/
def scalar (secret : Bytes) : Nat :=
  let bit := 1 <<< 254
  bit + Bytes.toNat secret % bit / 8 * 8

/-- The 32-byte public key of a private key, which is clamped here and not where it is kept. -/
def publicKey (secret : Bytes) : Bytes :=
  Bytes.ofNat 32 (multiply (scalar secret) 9)

end Registrar.X25519
