import Registrar.Hash.Keccak

/-!
Key generation of the module-lattice key encapsulation mechanism with 3 × 3 matrices over
`ℤ₃₃₂₉[X] / (X²⁵⁶ + 1)`.
-/

namespace Registrar.MlKem768

def q : Nat := 3329

def rank : Nat := 3

/-- The 256 coefficients of a polynomial, or its values after the transform. -/
abbrev Poly := Array Nat

def zero : Poly := Array.replicate 256 0

def Poly.add (f g : Poly) : Poly :=
  Array.ofFn fun (i : Fin 256) => (f.getD i 0 + g.getD i 0) % q

def reverseBits (n : Nat) : Nat :=
  (List.range 7).foldl (fun r i => 2 * r + (n >>> i) % 2) 0

/-- `17 ^ n` modulo `q`; 17 is a primitive 256th root of one. -/
def rootPower (n : Nat) : Nat :=
  n.repeat (fun r => 17 * r % q) 1

/-- The powers of the root that the layers of the transform use, in their order. -/
def zetas : Array Nat :=
  ((List.range 128).map fun i => rootPower (reverseBits i)).toArray

def gammas : Array Nat :=
  ((List.range 128).map fun i => rootPower (2 * reverseBits i + 1)).toArray

/-- One butterfly: `(a, b)` becomes `(a + z b, a - z b)`. -/
def butterfly (z len : Nat) (f : Poly) (j : Nat) : Poly :=
  let a := f.getD j 0
  let t := z * f.getD (j + len) 0 % q
  (f.setIfInBounds j ((a + t) % q)).setIfInBounds (j + len) ((a + q - t) % q)

/-- One layer: the `128 / len` blocks of `2 * len` coefficients, each with its own root. -/
def layer (f : Poly) (len : Nat) : Poly :=
  (List.range (128 / len)).foldl
    (fun f block =>
      let z := zetas.getD (128 / len + block) 0
      (List.range' (2 * len * block) len).foldl (butterfly z len) f)
    f

def transform (f : Poly) : Poly :=
  [128, 64, 32, 16, 8, 4, 2].foldl layer f

def Poly.mulTransformed (f g : Poly) : Poly :=
  Array.ofFn fun (i : Fin 256) =>
    let pair := i.val / 2 * 2
    let a0 := f.getD pair 0
    let a1 := f.getD (pair + 1) 0
    let b0 := g.getD pair 0
    let b1 := g.getD (pair + 1) 0
    if i.val % 2 = 0 then (a0 * b0 + a1 * b1 % q * gammas.getD (i.val / 2) 0) % q
    else (a0 * b1 + a1 * b0) % q

/-- The numbers below `q` among the 12-bit halves of each group of three bytes, in order. -/
def candidates : Bytes → List Nat
  | a :: b :: c :: rest =>
    let low := a.toNat + 256 * (b.toNat % 16)
    let high := b.toNat / 16 + 16 * c.toNat
    [low, high].filter (· < q) ++ candidates rest
  | _ => []

/--
The entry of the matrix at row `i` and column `j`, sampled from the seed: the first 256 candidates
of the output stream. Each of `tries` looks at 168 bytes more than the one before.
-/
def sampleUniform (seed : Bytes) (i j : Nat) (tries blocks : Nat) : Poly :=
  match tries with
  | 0 => zero
  | tries + 1 =>
    let found :=
      candidates (Keccak.shake128 (seed ++ [UInt8.ofNat j, UInt8.ofNat i]) (168 * blocks))
    if 256 ≤ found.length then (found.take 256).toArray
    else sampleUniform seed i j tries (blocks + 1)

/-- The two coefficients that a byte gives: differences of its two-bit sums. -/
def smallPair (b : UInt8) : List Nat :=
  let bit (i : Nat) := (b.toNat >>> i) % 2
  [(bit 0 + bit 1 + q - bit 2 - bit 3) % q, (bit 4 + bit 5 + q - bit 6 - bit 7) % q]

def sampleSmall (seed : Bytes) (counter : Nat) : Poly :=
  ((Keccak.shake256 (seed ++ [UInt8.ofNat counter]) 128).flatMap smallPair).toArray

def Poly.encode (f : Poly) : Bytes :=
  (List.range 128).flatMap fun i =>
    Bytes.ofNat 3 (f.getD (2 * i) 0 + 4096 * f.getD (2 * i + 1) 0)

structure KeyPair where
  encapsulationKey : Bytes
  decapsulationKey : Bytes

def generate (d z : Bytes) : KeyPair :=
  let seeds := Keccak.sha3_512 (d ++ [UInt8.ofNat rank])
  let rho := seeds.take 32
  let sigma := seeds.drop 32
  let secret := (List.range rank).map fun i => transform (sampleSmall sigma i)
  let noise := (List.range rank).map fun i => transform (sampleSmall sigma (rank + i))
  let entry (i j : Nat) := sampleUniform rho i j 64 3
  let product (i : Nat) : Poly :=
    (secret.zipIdx.map fun (s, j) => (entry i j).mulTransformed s).foldl Poly.add zero
  let publicVector := noise.zipIdx.map fun (e, i) => (product i).add e
  let encapsulationKey := publicVector.flatMap Poly.encode ++ rho
  ⟨encapsulationKey,
    secret.flatMap Poly.encode ++ encapsulationKey ++ Keccak.sha3_256 encapsulationKey ++ z⟩

end Registrar.MlKem768
