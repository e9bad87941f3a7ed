import Registrar.Curve.Ed25519
import Registrar.Curve.X25519
import Registrar.Failure
import Registrar.Kem.MlKem768

/-!
The cryptographic functions that keys are made of. All else in the library takes them as a
parameter, so that what it does with keys can be looked at without knowing how keys work.
-/

namespace Registrar

structure Suite where
  /-- the public key of a 32-byte identity secret -/
  identityPublic (secret : Bytes) : Bytes
  /-- the signature of a message under an identity secret -/
  sign (secret message : Bytes) : Bytes
  verify (key message signature : Bytes) : Except Ed25519.Failure Unit
  /-- the public key of a 32-byte agreement secret -/
  agreementPublic (secret : Bytes) : Bytes
  /-- the encapsulation key pair of two 32-byte seeds -/
  encapsulation (d z : Bytes) : MlKem768.KeyPair

def Suite.standard : Suite where
  identityPublic := Ed25519.publicKey
  sign := Ed25519.sign
  verify := Ed25519.verify
  agreementPublic := X25519.publicKey
  encapsulation := MlKem768.generate

def KeyError.ofSignature : Ed25519.Failure → KeyError
  | .keyLength => .invalidKey "identity public key wrong length"
  | .keyPoint =>
    .invalidKey "invalid identity public key: signature error: Cannot decompress Edwards point"
  | .signatureLength => .verification "malformed signature: signature error"
  | .scalarRange => .verification "signature error: Cannot use scalar with high-bit set"
  | .equation => .verification "signature error: Verification equation was not satisfied"

def Suite.check (suite : Suite) (key message signature : Bytes) : Except KeyError Unit :=
  (suite.verify key message signature).mapError KeyError.ofSignature

end Registrar
