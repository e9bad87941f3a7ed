import Registrar.Bytes.Basic
import Registrar.Curve.Field

/-!
The twisted Edwards curve `-x² + y² = 1 + d x² y²` over the field of `2 ^ 255 - 19` elements, its
group, and the 32-byte encoding of its points.
-/

namespace Registrar.Edwards

open Registrar.Field

def d : Nat := neg (mul 121665 (inv 121666))

def d2 : Nat := add d d

/-- A point `(x / z, y / z)`, with `t * z = x * y`. -/
structure Point where
  x : Nat
  y : Nat
  z : Nat
  t : Nat
  deriving Repr, DecidableEq

namespace Point

def neutral : Point := ⟨0, 1, 1, 0⟩

/-- The complete addition law: it holds for equal and for opposite points too. -/
def add (p q : Point) : Point :=
  let a := mul (sub p.y p.x) (sub q.y q.x)
  let b := mul (Field.add p.y p.x) (Field.add q.y q.x)
  let c := mul (mul p.t d2) q.t
  let dd := mul (Field.add p.z p.z) q.z
  let e := sub b a
  let f := sub dd c
  let g := Field.add dd c
  let h := Field.add b a
  ⟨mul e f, mul g h, mul f g, mul e h⟩

def double (p : Point) : Point :=
  let a := mul p.x p.x
  let b := mul p.y p.y
  let zz := mul p.z p.z
  let h := Field.add a b
  let xy := Field.add p.x p.y
  let e := sub h (mul xy xy)
  let g := sub a b
  let f := Field.add (Field.add zz zz) g
  ⟨mul e f, mul g h, mul f g, mul e h⟩

def neg (p : Point) : Point := ⟨Field.neg p.x, p.y, p.z, Field.neg p.t⟩

/-- `n` times a point, for `n` below `2 ^ 256`. -/
def smul (n : Nat) (p : Point) : Point :=
  (List.range 256).foldr
    (fun i q => let q := q.double; if n.testBit i then q.add p else q) neutral

def ofAffine (x y : Nat) : Point := ⟨x, y, 1, mul x y⟩

/-- The 32 bytes of `y`, with the lowest bit of `x` as the highest bit of the last byte. -/
def encode (p : Point) : Bytes :=
  let zInv := inv p.z
  let x := mul p.x zInv
  let y := mul p.y zInv
  Bytes.ofNat 32 (y + (x % 2) <<< 255)

/--
Reads a point: the highest bit gives the sign of `x`, the other 255 bits give `y`. A value of `y`
at or above the prime is taken modulo the prime, and a sign on a zero `x` is ignored; the only
failure is a `y` that no point has.
-/
def decode? (bytes : Bytes) : Option Point :=
  let n := Bytes.toNat bytes
  let y := n % (1 <<< 255) % prime
  let yy := mul y y
  (sqrtRatio? (sub yy 1) (Field.add (mul d yy) 1)).map fun x =>
    ofAffine (if n.testBit 255 then Field.neg x else x) y

end Point

/-- The base point, whose `y` is four fifths and whose `x` is even. -/
def base : Point :=
  let y := mul 4 (inv 5)
  (Point.decode? (Bytes.ofNat 32 y)).getD Point.neutral

def order : Nat := 0x1000000000000000000000000000000014def9dea2f79cd65812631a5cf5d3ed

/-- `16 ^ i * j` times the base point, at row `i` and column `j`. -/
def baseMultiples : Array (Array Point) :=
  let row (p : Point) : Array Point :=
    (List.range 15).foldl (fun r _ => r.push ((r.back?.getD Point.neutral).add p)) #[Point.neutral]
  ((List.range 64).foldl
    (fun (acc : Array (Array Point) × Point) _ =>
      (acc.1.push (row acc.2), acc.2.double.double.double.double)) (#[], base)).1

/-- `n` times the base point, for `n` below `2 ^ 256`: one table entry per base-16 digit. -/
def smulBase (n : Nat) : Point :=
  (List.range 64).foldl
    (fun q i => q.add ((baseMultiples.getD i #[]).getD ((n >>> (4 * i)) % 16) Point.neutral)) Point.neutral

end Registrar.Edwards
