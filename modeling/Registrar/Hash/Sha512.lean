import Registrar.Bytes.Basic

/-!
SHA-512.

The constants are computed from their rule: the round constants are the first 64 bits of the
fractional parts of the cube roots of the first eighty primes, the initial state those of the
square roots of the first eight.
-/

namespace Registrar.Sha512

/-- The largest `r` below `2 ^ bits` with `r ^ degree ≤ n`. -/
def floorRoot (bits degree n : Nat) : Nat :=
  (List.range bits).foldr
    (fun i r => let next := r + (1 <<< i); if next.pow degree ≤ n then next else r) 0

def primes : List Nat :=
  [2, 3, 5, 7, 11, 13, 17, 19, 23, 29, 31, 37, 41, 43, 47, 53, 59, 61, 67, 71, 73, 79, 83, 89, 97,
    101, 103, 107, 109, 113, 127, 131, 137, 139, 149, 151, 157, 163, 167, 173, 179, 181, 191, 193,
    197, 199, 211, 223, 227, 229, 233, 239, 241, 251, 257, 263, 269, 271, 277, 281, 283, 293, 307,
    311, 313, 317, 331, 337, 347, 349, 353, 359, 367, 373, 379, 383, 389, 397, 401, 409]

def roundConstants : Array UInt64 :=
  (primes.map fun p => UInt64.ofNat (floorRoot 72 3 (p <<< 192))).toArray

structure State where
  a : UInt64
  b : UInt64
  c : UInt64
  d : UInt64
  e : UInt64
  f : UInt64
  g : UInt64
  h : UInt64

def State.initial : State :=
  let word (i : Nat) := UInt64.ofNat (floorRoot 72 2 (primes.getD i 0 <<< 128))
  ⟨word 0, word 1, word 2, word 3, word 4, word 5, word 6, word 7⟩

def rotateRight (x : UInt64) (n : UInt64) : UInt64 :=
  (x >>> n) ||| (x <<< (64 - n))

def wordToBytes (w : UInt64) : Bytes :=
  (Bytes.ofNat 8 w.toNat).reverse

def words (block : Bytes) : Array UInt64 :=
  ((Bytes.blocks 8 block).map fun w => UInt64.ofNat (Bytes.toNat w.reverse)).toArray

/-- The message schedule: the block's sixteen words and the sixty-four that follow from them. -/
def schedule (block : Bytes) : Array UInt64 :=
  (List.range' 16 64).foldl
    (fun w i =>
      let x := w.getD (i - 15) 0
      let y := w.getD (i - 2) 0
      let s0 := rotateRight x 1 ^^^ rotateRight x 8 ^^^ (x >>> 7)
      let s1 := rotateRight y 19 ^^^ rotateRight y 61 ^^^ (y >>> 6)
      w.push (w.getD (i - 16) 0 + s0 + w.getD (i - 7) 0 + s1))
    (words block)

/-- One round, with its schedule word and its constant already added. -/
def State.round (s : State) (input : UInt64) : State :=
  let s1 := rotateRight s.e 14 ^^^ rotateRight s.e 18 ^^^ rotateRight s.e 41
  let choice := (s.e &&& s.f) ^^^ ((~~~ s.e) &&& s.g)
  let t1 := s.h + s1 + choice + input
  let s0 := rotateRight s.a 28 ^^^ rotateRight s.a 34 ^^^ rotateRight s.a 39
  let majority := (s.a &&& s.b) ^^^ (s.a &&& s.c) ^^^ (s.b &&& s.c)
  ⟨t1 + (s0 + majority), s.a, s.b, s.c, s.d + t1, s.e, s.f, s.g⟩

def State.add (s t : State) : State :=
  ⟨s.a + t.a, s.b + t.b, s.c + t.c, s.d + t.d, s.e + t.e, s.f + t.f, s.g + t.g, s.h + t.h⟩

def State.absorb (s : State) (block : Bytes) : State :=
  let w := schedule block
  s.add <| (List.range 80).foldl
    (fun t i => t.round (w.getD i 0 + roundConstants.getD i 0)) s

/--
The message, a one bit, zeros, and the length in bits as 128 bits, to a multiple of 128 bytes.
-/
def pad (message : Bytes) : Bytes :=
  let zeros := (239 - message.length % 128) % 128
  message ++ 0x80 :: List.replicate zeros 0 ++ (Bytes.ofNat 16 (8 * message.length)).reverse

def digest (message : Bytes) : Bytes :=
  let s := (Bytes.blocks 128 (pad message)).foldl State.absorb State.initial
  [s.a, s.b, s.c, s.d, s.e, s.f, s.g, s.h].flatMap wordToBytes

end Registrar.Sha512
