import Registrar.Curve.Edwards
import Registrar.Hash.Sha512

/-!
Ed25519 signatures: keys from a 32-byte seed, deterministic signing, and verification without the
cofactor.
-/

namespace Registrar.Ed25519

open Edwards

/-- A number with the three lowest bits cleared, bit 254 set and nothing above it. -/
def clamp (n : Nat) : Nat :=
  let bit := 1 <<< 254
  bit + n % bit / 8 * 8

/-- The secret scalar of a seed: the clamped first half of its digest. -/
def secretScalar (seed : Bytes) : Nat :=
  clamp (Bytes.toNat ((Sha512.digest seed).take 32))

/-- The digest of some bytes as a number below the order of the base point. -/
def challenge (bytes : Bytes) : Nat :=
  Bytes.toNat (Sha512.digest bytes) % order

def publicKey (seed : Bytes) : Bytes :=
  (smulBase (secretScalar seed)).encode

def sign (seed message : Bytes) : Bytes :=
  let nonce := challenge ((Sha512.digest seed).drop 32 ++ message)
  let commitment := (smulBase nonce).encode
  let k := challenge (commitment ++ publicKey seed ++ message)
  commitment ++ Bytes.ofNat 32 ((nonce + k * secretScalar seed) % order)

inductive Failure where
  /-- the public key is not 32 bytes long -/
  | keyLength
  /-- the public key is the encoding of no point -/
  | keyPoint
  /-- the signature is not 64 bytes long -/
  | signatureLength
  /-- the second half of the signature is not below the order of the base point -/
  | scalarRange
  /-- the signature is not one of this message under this key -/
  | equation
  deriving Repr, DecidableEq

/--
Checks a signature. With `R` and `s` its halves, `A` the key's point and `k` the challenge over
`R`, the key's own bytes and the message, the encoding of `s B - k A` has to be `R` byte for byte.
-/
def verify (key message signature : Bytes) : Except Failure Unit :=
  if key.length ≠ 32 then .error .keyLength
  else match Point.decode? key with
    | none => .error .keyPoint
    | some a =>
      if signature.length ≠ 64 then .error .signatureLength
      else
        let r := signature.take 32
        let s := Bytes.toNat (signature.drop 32)
        if order ≤ s then .error .scalarRange
        else
          let k := challenge (r ++ key ++ message)
          let expected := (smulBase s).add (a.neg.smul k)
          if expected.encode = r then .ok () else .error .equation

end Registrar.Ed25519
