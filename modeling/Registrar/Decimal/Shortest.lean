import Registrar.Text.Digit

/-!
The shortest decimal text that reads back as a given binary fraction.

A finite number of double precision stands for every real that rounds to it. Among the decimals in
that interval those with the fewest digits are taken, and of these the nearest.
-/

namespace Registrar.Decimal

/-- The magnitude `m * 2 ^ q` of a finite number, and whether it is the first of its binade. -/
structure Magnitude where
  m : Nat
  q : Int
  lowest : Bool

def Magnitude.ofBits (bits : UInt64) : Magnitude :=
  let fraction : Nat := bits.toNat % (1 <<< 52)
  let exponent : Nat := (bits.toNat >>> 52) % (1 <<< 11)
  if exponent = 0 then ⟨fraction, -1074, false⟩
  else ⟨fraction + (1 <<< 52), exponent - 1075, fraction = 0 && 1 < exponent⟩

structure Scientific where
  digits : Nat
  exponent : Int
  deriving Repr, DecidableEq

def power (base : Nat) (e : Int) : Nat × Nat :=
  (base.pow e.toNat, base.pow (-e).toNat)

def digitCount (n : Nat) : Nat := (Nat.toDigits 10 n).length

/-- The exponent of the leading decimal digit of `num / den`. -/
def leadingExponent (num den : Nat) : Int :=
  if den ≤ num then digitCount (num / den) - 1
  else
    let k := digitCount (den / num)
    if den ≤ num * Nat.pow 10 (k - 1) then -((k : Int) - 1) else -(k : Int)

/--
The neighbours of a magnitude on the grid of multiples of `10 ^ k` that round to it, the nearer
one first. The ends of the interval belong to it when `m` is even.
-/
def onGrid (x : Magnitude) (k : Int) : List Nat :=
  -- Everything is measured in quarters of the unit `2 ^ q`, over a common denominator.
  let (two, twoDen) := power 2 (x.q - 2)
  let (ten, tenDen) := power 10 k
  let scale (n : Nat) := n * two * tenDen
  let step := ten * twoDen
  let value := scale (4 * x.m)
  let low := scale (4 * x.m - (if x.lowest then 1 else 2))
  let high := scale (4 * x.m + 2)
  let inside (c : Nat) : Bool :=
    if x.m % 2 = 0 then low ≤ c * step && c * step ≤ high else low < c * step && c * step < high
  let floor := value / step
  let below := value - floor * step
  let above := (floor + 1) * step - value
  let ordered :=
    if below < above || (below = above && floor % 2 = 0) then [floor, floor + 1]
    else [floor + 1, floor]
  ordered.filter inside

def shortest (x : Magnitude) : Scientific :=
  let (two, twoDen) := power 2 x.q
  let lead := leadingExponent (x.m * two) twoDen
  let found := (List.range 17).findSome? fun (n : Nat) =>
    let k := lead - (n : Nat)
    (onGrid x k).head?.map fun c => (⟨c, k⟩ : Scientific)
  found.getD ⟨x.m, x.q⟩

/--
The text of a finite number: at least one digit on both sides of the point from `1e-5` up to
`1e16`, and beyond these one digit before the point and an exponent with a sign.
-/
def text (value : Float) : String :=
  let bits := value.toBits
  let x := Magnitude.ofBits bits
  let sign := if bits.toNat.testBit 63 then ['-'] else []
  let body :=
    if x.m = 0 then ['0', '.', '0']
    else
      let d := shortest x
      let all := Nat.toDigits 10 d.digits
      let lead : Int := d.exponent + all.length - 1
      let ds := (all.reverse.dropWhile (· = '0')).reverse
      if -5 ≤ lead && lead < 0 then
        ['0', '.'] ++ List.replicate (-lead - 1).toNat '0' ++ ds
      else if 0 ≤ lead && lead < 16 then
        let whole := lead.toNat + 1
        let before := ds.take whole ++ List.replicate (whole - ds.length) '0'
        let after := ds.drop whole
        before ++ '.' :: (if after.isEmpty then ['0'] else after)
      else
        let mantissa := ds.take 1 ++ (if ds.length ≤ 1 then [] else '.' :: ds.drop 1)
        mantissa ++ ['e', if lead < 0 then '-' else '+'] ++ Nat.toDigits 10 lead.natAbs
  String.ofList (sign ++ body)

end Registrar.Decimal
