/-!
The prime field of `2 ^ 255 - 19` elements. Elements are natural numbers below the prime.
-/

namespace Registrar.Field

def prime : Nat := 0x7fffffffffffffffffffffffffffffffffffffffffffffffffffffffffffffed

def add (a b : Nat) : Nat := (a + b) % prime

def sub (a b : Nat) : Nat := (a + (prime - b)) % prime

def mul (a b : Nat) : Nat := a * b % prime

def neg (a : Nat) : Nat := (prime - a) % prime

/-- `a ^ e`, squaring once per bit of the exponent, for exponents below `2 ^ 255`. -/
def pow (a e : Nat) : Nat :=
  (List.range 255).foldr
    (fun i r => let s := mul r r; if e.testBit i then mul s a else s) 1

/-- The inverse; zero is its own. -/
def inv (a : Nat) : Nat := pow a (prime - 2)

def rootOfMinusOne : Nat := pow 2 ((prime - 1) / 4)

/-- The even square root of `u / v`, if that quotient is a square. -/
def sqrtRatio? (u v : Nat) : Option Nat :=
  let v3 := mul (mul v v) v
  let v7 := mul (mul v3 v3) v
  let r := mul (mul u v3) (pow (mul u v7) ((prime - 5) / 8))
  let check := mul v (mul r r)
  let even (x : Nat) := if x % 2 = 0 then x else neg x
  if check = u then some (even r)
  else if check = neg u then some (even (mul r rootOfMinusOne))
  else none

end Registrar.Field
