import Registrar.Bytes.Basic

/-!
The Keccak permutation on 1600 bits, and the hash functions of the SHA-3 family built on it.
-/

namespace Registrar.Keccak

/-- Twenty-five lanes; the lane at column `x` and row `y` has index `x + 5 * y`. -/
abbrev Lanes := Array UInt64

def rotateLeft (x : UInt64) (n : UInt64) : UInt64 :=
  if n = 0 then x else (x <<< n) ||| (x >>> (64 - n))

/-- The feedback register behind the round constants: one bit out, eight bits of state. -/
def registerStep (r : Nat) : Nat :=
  let shifted := 2 * r
  if shifted < 256 then shifted else (shifted ^^^ 0x171) % 256

def registerAfter (n : Nat) : Nat :=
  n.repeat registerStep 1

/-- Bit `2 ^ j - 1` of round `i`'s constant is the register's low bit after `7 * i + j` steps. -/
def roundConstant (i : Nat) : UInt64 :=
  UInt64.ofNat <| (List.range 7).foldl
    (fun c j => if registerAfter (7 * i + j) % 2 = 1 then c + (1 <<< ((1 <<< j) - 1)) else c) 0

def roundConstants : List UInt64 :=
  (List.range 24).map roundConstant

/--
For each lane but the first, in the order of the walk `(x, y) ↦ (y, 2x + 3y)` from `(1, 0)`, its
index and its rotation: the triangular numbers modulo 64.
-/
def walk : List (Nat × UInt64) :=
  ((List.range 24).foldl
    (fun (acc : List (Nat × UInt64) × Nat × Nat) t =>
      let (done, x, y) := acc
      ((x + 5 * y, UInt64.ofNat ((t + 1) * (t + 2) / 2 % 64)) :: done, y, (2 * x + 3 * y) % 5))
    ([], 1, 0)).1.reverse

def rotations : Array UInt64 :=
  walk.foldl (fun a (i, r) => a.setIfInBounds i r) (Array.replicate 25 0)

/-- Each lane receives the parities of two neighbouring columns. -/
def theta (a : Lanes) : Lanes :=
  let parity (x : Nat) :=
    a.getD x 0 ^^^ a.getD (x + 5) 0 ^^^ a.getD (x + 10) 0 ^^^ a.getD (x + 15) 0 ^^^ a.getD (x + 20) 0
  let p0 := parity 0
  let p1 := parity 1
  let p2 := parity 2
  let p3 := parity 3
  let p4 := parity 4
  let d : Array UInt64 :=
    #[p4 ^^^ rotateLeft p1 1, p0 ^^^ rotateLeft p2 1, p1 ^^^ rotateLeft p3 1,
      p2 ^^^ rotateLeft p4 1, p3 ^^^ rotateLeft p0 1]
  a.mapIdx fun i lane => lane ^^^ d.getD (i % 5) 0

/-- Rotates every lane and moves the lane at `(x, y)` to `(y, 2x + 3y)`. -/
def rhoPi (a : Lanes) : Lanes :=
  Array.ofFn fun (i : Fin 25) =>
    let x := i.val % 5
    let y := i.val / 5
    let source := (x + 3 * y) % 5 + 5 * x
    rotateLeft (a.getD source 0) (rotations.getD source 0)

/-- Combines each lane with the next two of its row, the only step that is not linear. -/
def chi (a : Lanes) : Lanes :=
  a.mapIdx fun i lane =>
    let row := 5 * (i / 5)
    lane ^^^ ((~~~ a.getD (row + (i + 1) % 5) 0) &&& a.getD (row + (i + 2) % 5) 0)

def round (a : Lanes) (constant : UInt64) : Lanes :=
  (chi (rhoPi (theta a))).modify 0 (· ^^^ constant)

def permute (a : Lanes) : Lanes :=
  roundConstants.foldl round a

def lane (bytes : Bytes) : UInt64 :=
  UInt64.ofNat (Bytes.toNat bytes)

def absorbBlock (a : Lanes) (block : Bytes) : Lanes :=
  let input := ((Bytes.blocks 8 block).map lane).toArray
  permute (a.mapIdx fun i l => l ^^^ input.getD i 0)

/-- The message, the domain's bits, zeros and a last one bit, to a multiple of `rate` bytes. -/
def pad (rate : Nat) (domain : UInt8) (message : Bytes) : Bytes :=
  let gap := rate - message.length % rate
  if gap = 1 then message ++ [domain ||| 0x80]
  else message ++ domain :: List.replicate (gap - 2) 0 ++ [0x80]

def front (rate : Nat) (a : Lanes) : Bytes :=
  (a.toList.flatMap fun l => Bytes.ofNat 8 l.toNat).take rate

def squeeze (rate : Nat) : Nat → Lanes → Bytes
  | 0, _ => []
  | n + 1, a => front rate a ++ squeeze rate n (permute a)

def sponge (rate : Nat) (domain : UInt8) (message : Bytes) (length : Nat) : Bytes :=
  let absorbed :=
    (Bytes.blocks rate (pad rate domain message)).foldl absorbBlock (Array.replicate 25 0)
  (squeeze rate ((length + rate - 1) / rate) absorbed).take length

def sha3_256 (message : Bytes) : Bytes := sponge 136 0x06 message 32

def sha3_512 (message : Bytes) : Bytes := sponge 72 0x06 message 64

def shake128 (message : Bytes) (length : Nat) : Bytes := sponge 168 0x1f message length

def shake256 (message : Bytes) (length : Nat) : Bytes := sponge 136 0x1f message length

end Registrar.Keccak
