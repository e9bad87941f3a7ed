import Registrar.Bytes.Hex
import Registrar.Entropy
import Registrar.Json.Format

/-!
Profile keys, which let contacts read a profile.
-/

namespace Registrar

@[ext]
structure ProfileKey where
  bytes : Bytes
  length_bytes : bytes.length = 32

instance : DecidableEq ProfileKey := fun _ _ => decidable_of_iff _ ProfileKey.ext_iff.symm

namespace ProfileKey

def ofBytes? (bytes : Bytes) : Option ProfileKey :=
  if h : bytes.length = 32 then some ⟨bytes, h⟩ else none

def draw (e : Entropy) : ProfileKey × Entropy :=
  (⟨e.secret, e.length_secret⟩, e.skip 32)

def toHex (key : ProfileKey) : String := Hex.encode key.bytes

/-- The key with a stored form; every text but the 64 digits of a key counts as no key. -/
def ofHex? (s : String) : Option ProfileKey := (Hex.decode? s).bind ofBytes?

def redacted (_ : ProfileKey) : String := "ProfileKey(..)"

instance : Json.Format ProfileKey where
  reader := Json.Reader.fixedList Json.Reader.u8 32
  toJson key := Json.ofBytes key.bytes
  ofJson? j := (Json.toBytes? j).bind ofBytes?

end ProfileKey

end Registrar
