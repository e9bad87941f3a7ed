import Registrar.Text.Digit

/-!
Numbers below `2 ^ 32` in decimal: an optional plus sign and one or more digits, leading zeros
allowed.
-/

namespace Registrar.Text

inductive NumeralError where
  | empty
  | invalidDigit
  | tooLarge
  deriving Repr, DecidableEq

def NumeralError.message : NumeralError → String
  | .empty => "cannot parse integer from empty string"
  | .invalidDigit => "invalid digit found in string"
  | .tooLarge => "number too large to fit in target type"

/--
Reads digits after those that make up `n`, from the left. The number is too large from the digit
on that takes it past the limit, whatever follows that digit.
-/
def readDigits (n : Nat) : List Char → Except NumeralError Nat
  | [] => .ok n
  | c :: cs =>
    match decimalValue? c with
    | none => .error .invalidDigit
    | some d => if 10 * n + d < UInt32.size then readDigits (10 * n + d) cs else .error .tooLarge

def readNumeral (cs : List Char) : Except NumeralError UInt32 :=
  match cs with
  | [] => .error .empty
  | ['+'] => .error .invalidDigit
  | '+' :: cs => (readDigits 0 cs).map UInt32.ofNat
  | cs => (readDigits 0 cs).map UInt32.ofNat

def numeral (n : UInt32) : String :=
  String.ofList (Nat.toDigits 10 n.toNat)

end Registrar.Text
