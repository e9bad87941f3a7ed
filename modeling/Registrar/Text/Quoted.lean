import Registrar.Text.Digit
import Registrar.Text.Invisible

/-!
Texts quoted for a reader of messages: in double quotes, with everything that would not show
written as an escape.
-/

namespace Registrar.Text

def hexDigits (n : Nat) : List Char :=
  (Nat.toDigits 16 n)

/--
One character of a quoted text. Six characters have an escape of their own, an invisible one is
written by its code point, and every other one, an apostrophe included, stands for itself.
-/
def quoteChar (c : Char) : List Char :=
  match c with
  | '\x00' => ['\\', '0']
  | '\t' => ['\\', 't']
  | '\r' => ['\\', 'r']
  | '\n' => ['\\', 'n']
  | '"' => ['\\', '"']
  | '\\' => ['\\', '\\']
  | c => if isInvisible c then ['\\', 'u', '{'] ++ hexDigits c.toNat ++ ['}'] else [c]

def quote (s : String) : String :=
  String.ofList ('"' :: s.toList.flatMap quoteChar ++ ['"'])

end Registrar.Text
