import Registrar.Decimal.Shortest
import Registrar.Json.Error

/-!
The tokens of a document: white space, words, strings and numbers.

Every function takes what is left of the text. Where a token is passed over without its value, the
result is the number of characters it takes.
-/

namespace Registrar.Json

open Text

def isBlank (c : Char) : Bool := c = ' ' || c = '\n' || c = '\t' || c = '\r'

def skipBlanks (cs : List Char) : List Char := cs.dropWhile isBlank

theorem length_skipBlanks_le (cs : List Char) : (skipBlanks cs).length ≤ cs.length :=
  (List.dropWhile_suffix isBlank).length_le

theorem length_lt_of_skipBlanks {cs rest : List Char} {c : Char} (h : skipBlanks cs = c :: rest) :
    rest.length < cs.length := by
  have hle := length_skipBlanks_le cs
  rw [h, List.length_cons] at hle
  omega

/-- The rest of a text after the letters of a word whose first letter has been read. -/
def readWord : List Char → List Char → Except Error (List Char)
  | [], cs => .ok cs
  | _ :: _, [] => .error (.ended .value)
  | w :: ws, c :: cs => if c = w then readWord ws cs else .error .expectedIdent

/-! ### Strings -/

def fourDigits (cs : List Char) : Except Error Nat :=
  if byteLength (cs.take 4) < 4 then .error (.ended .string)
  else
    match (cs.take 4).mapM hexValue? with
    | some [a, b, c, d] => .ok (((a * 16 + b) * 16 + c) * 16 + d)
    | _ => .error .invalidEscape

def lowSurrogate (lead : Nat) (cs : List Char) : Except Error Char :=
  match cs with
  | [] => .error (.ended .string)
  | '\\' :: [] => .error (.ended .string)
  | '\\' :: 'u' :: rest =>
    match fourDigits rest with
    | .error e => .error e
    | .ok n =>
      if n < 0xdc00 || 0xdfff < n then .error .loneSurrogate
      else .ok (Char.ofNat (0x10000 + (lead - 0xd800) * 0x400 + (n - 0xdc00)))
  | _ => .error .unpairedSurrogate

/--
The character that an escape stands for, and how many characters it takes after its backslash.
-/
def readEscape (cs : List Char) : Except Error (Char × Nat) :=
  match cs with
  | [] => .error (.ended .string)
  | '"' :: _ => .ok ('"', 1)
  | '\\' :: _ => .ok ('\\', 1)
  | '/' :: _ => .ok ('/', 1)
  | 'b' :: _ => .ok ('\x08', 1)
  | 'f' :: _ => .ok ('\x0c', 1)
  | 'n' :: _ => .ok ('\n', 1)
  | 'r' :: _ => .ok ('\r', 1)
  | 't' :: _ => .ok ('\t', 1)
  | 'u' :: rest =>
    match fourDigits rest with
    | .error e => .error e
    | .ok n =>
      if 0xdc00 ≤ n && n ≤ 0xdfff then .error .loneSurrogate
      else if 0xd800 ≤ n && n ≤ 0xdbff then (lowSurrogate n (rest.drop 4)).map fun c => (c, 11)
      else .ok (Char.ofNat n, 5)
  | _ => .error .invalidEscape

def readString (cs : List Char) : Except Error (List Char × List Char) :=
  match cs with
  | [] => .error (.ended .string)
  | '"' :: rest => .ok ([], rest)
  | '\\' :: rest =>
    match readEscape rest with
    | .error e => .error e
    | .ok (c, taken) => (readString (rest.drop taken)).map fun (s, r) => (c :: s, r)
  | c :: rest =>
    if c.toNat < 0x20 then .error .controlCharacter
    else (readString rest).map fun (s, r) => (c :: s, r)
termination_by cs.length
decreasing_by all_goals (simp only [List.length_cons, List.length_drop]; omega)

/-- The length of an escape after its backslash; surrogates need no partner here. -/
def escapeLength (cs : List Char) : Except Error Nat :=
  match cs with
  | [] => .error (.ended .string)
  | 'u' :: rest => (fourDigits rest).map fun _ => 5
  | c :: _ => if c ∈ ['"', '\\', '/', 'b', 'f', 'n', 'r', 't'] then .ok 1 else .error .invalidEscape

def stringLength (cs : List Char) : Except Error Nat :=
  match cs with
  | [] => .error (.ended .string)
  | '"' :: _ => .ok 1
  | '\\' :: rest =>
    match escapeLength rest with
    | .error e => .error e
    | .ok taken => (stringLength (rest.drop taken)).map (· + taken + 1)
  | c :: rest =>
    if c.toNat < 0x20 then .error .controlCharacter else (stringLength rest).map (· + 1)
termination_by cs.length
decreasing_by all_goals (simp only [List.length_cons, List.length_drop]; omega)

/-! ### Numbers -/

/-- A number that was read: whole numbers of at most 64 bits are exact, all others are rounded. -/
inductive Number where
  | integer (n : Int)
  | float (value : Float)

def Number.found : Number → Found
  | .integer n => .integer n
  | .float value => .float (Decimal.text value)

def spanDigits : List Char → List Nat × List Char
  | [] => ([], [])
  | c :: cs =>
    match decimalValue? c with
    | none => ([], c :: cs)
    | some d => (d :: (spanDigits cs).1, (spanDigits cs).2)

/--
The digits of a significand are taken as long as it fits in 64 bits; from the first digit on that
does not fit, digits are only counted.
-/
structure Significand where
  value : Nat
  taken : Nat
  left : Nat

def Significand.push (s : Significand) (d : Nat) : Significand :=
  if s.left = 0 && 10 * s.value + d < UInt64.size then ⟨10 * s.value + d, s.taken + 1, 0⟩
  else ⟨s.value, s.taken, s.left + 1⟩

def Significand.ofDigits (value : Nat) (ds : List Nat) : Significand :=
  ds.foldl Significand.push ⟨value, 0, 0⟩

/--
`significand * 10 ^ exponent` in floating point, by one multiplication or division for exponents of
up to 308 and by division in several steps below.
-/
def scaled (value : Float) (exponent : Int) : Nat → Except Error Float
  | 0 => .ok value
  | steps + 1 =>
    if exponent.natAbs ≤ 308 then
      let power := Float.ofScientific 1 false exponent.natAbs
      if exponent < 0 then .ok (value / power)
      else if (value * power).isInf then .error .numberOutOfRange
      else .ok (value * power)
    else if value == 0.0 then .ok value
    else if 0 ≤ exponent then .error .numberOutOfRange
    else scaled (value / Float.ofScientific 1 false 308) (exponent + 308) steps

/--
A floating point number from its parts. Four steps are enough to bring any significand to zero.
-/
def floatOfParts (negative : Bool) (significand : Nat) (exponent : Int) : Except Error Float :=
  (scaled (UInt64.ofNat significand).toFloat exponent 4).map fun f => if negative then -f else f

/-- The value of exponent digits, or none if it does not fit in 32 bits with a sign. -/
def exponentValue? (ds : List Nat) : Option Nat :=
  ds.foldl
    (fun acc d => acc.bind fun n =>
      let next := 10 * n + d
      if (next : Int) ≤ Int32.maxValue.toInt then some next else none)
    (some 0)

def readExponent (negative : Bool) (significand : Nat) (start : Int) (cs : List Char) :
    Except Error (Number × List Char) :=
  let (down, cs) :=
    match cs with
    | '+' :: rest => (false, rest)
    | '-' :: rest => (true, rest)
    | cs => (false, cs)
  match cs with
  | [] => .error (.ended .value)
  | c :: _ =>
    if (decimalValue? c).isNone then .error .invalidNumber
    else
      let (ds, rest) := spanDigits cs
      match exponentValue? ds with
      | some e =>
        (floatOfParts negative significand (if down then start - e else start + e)).map
          fun f => (.float f, rest)
      | none =>
        if significand ≠ 0 && !down then .error .numberOutOfRange
        else .ok (.float (if negative then -0.0 else 0.0), rest)

/-- The rest of a number after its decimal point; `start` is the exponent before it. -/
def readFraction (negative : Bool) (significand : Nat) (start : Int) (cs : List Char) :
    Except Error (Number × List Char) :=
  let (ds, rest) := spanDigits cs
  let s := Significand.ofDigits significand ds
  -- A fraction whose first digit no longer fits counts as having digits.
  if ds.isEmpty then
    .error (if cs.isEmpty then .ended .value else .invalidNumber)
  else
    let exponent := start - s.taken
    match rest with
    | 'e' :: more => readExponent negative s.value exponent more
    | 'E' :: more => readExponent negative s.value exponent more
    | _ => (floatOfParts negative s.value exponent).map fun f => (.float f, rest)

/-- A number without a fraction or an exponent. A minus zero is no whole number. -/
def wholeNumber (negative : Bool) (s : Significand) : Except Error Number :=
  if s.left ≠ 0 then (floatOfParts negative s.value s.left).map .float
  else if !negative then .ok (.integer s.value)
  else if s.value = 0 || -(s.value : Int) < Int64.minValue.toInt then
    .ok (.float (-(UInt64.ofNat s.value).toFloat))
  else .ok (.integer (-s.value))

def readUnsigned (negative : Bool) (cs : List Char) : Except Error (Number × List Char) :=
  match cs with
  | [] => .error (.ended .value)
  | c :: after =>
    match spanDigits cs with
    | ([], _) => .error .invalidNumber
    | (ds, rest) =>
      if c = '0' && ((after.head?.bind decimalValue?).isSome) then .error .invalidNumber
      else
        let s := Significand.ofDigits 0 ds
        match rest with
        | '.' :: more => readFraction negative s.value s.left more
        | 'e' :: more => readExponent negative s.value s.left more
        | 'E' :: more => readExponent negative s.value s.left more
        | _ => (wholeNumber negative s).map fun n => (n, rest)

def readNumber (cs : List Char) : Except Error (Number × List Char) :=
  match cs with
  | '-' :: rest => readUnsigned true rest
  | cs => readUnsigned false cs

def digitsLength (cs : List Char) : Nat := (spanDigits cs).1.length

def exponentLength (cs : List Char) : Except Error Nat :=
  let afterLetter (rest : List Char) : Except Error Nat :=
    let sign := match rest with
      | '+' :: _ => 1
      | '-' :: _ => 1
      | _ => 0
    let digits := digitsLength (rest.drop sign)
    if digits = 0 then .error .invalidNumber else .ok (1 + sign + digits)
  match cs with
  | 'e' :: rest => afterLetter rest
  | 'E' :: rest => afterLetter rest
  | _ => .ok 0

def unsignedLength (cs : List Char) : Except Error Nat :=
  let whole := digitsLength cs
  if whole = 0 || (cs.head? = some '0' && 1 < whole) then .error .invalidNumber
  else
    match cs.drop whole with
    | '.' :: rest =>
      let fraction := digitsLength rest
      if fraction = 0 then .error .invalidNumber
      else (exponentLength (rest.drop fraction)).map (whole + 1 + fraction + ·)
    | rest => (exponentLength rest).map (whole + ·)

end Registrar.Json
