import Registrar.Bytes.Basic

/-!
Randomness, as an endless stream of bytes of which a part has been used.
-/

namespace Registrar

structure Entropy where
  source : Nat → UInt8
  used : Nat

namespace Entropy

def block (source : Nat → UInt8) (start length : Nat) : Bytes :=
  (List.range' start length).map source

@[simp]
theorem length_block (source : Nat → UInt8) (start length : Nat) :
    (block source start length).length = length := by
  simp [block]

/-- The stream that repeats some bytes for ever. -/
def cycle (bytes : Bytes) : Entropy :=
  let cells := bytes.toArray
  ⟨fun i => cells.getD (i % cells.size) 0, 0⟩

def next (e : Entropy) (length : Nat) : Bytes := block e.source e.used length

def skip (e : Entropy) (length : Nat) : Entropy := { e with used := e.used + length }

def secret (e : Entropy) : Bytes := e.next 32

theorem length_secret (e : Entropy) : e.secret.length = 32 := length_block _ _ _

end Entropy

end Registrar
