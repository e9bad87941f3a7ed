import Registrar.Text.Quoted
import Registrar.Uuid.Reading

/-!
What can be wrong with a text that should be the document of some type.
-/

namespace Registrar.Json

inductive Part where
  | value
  | string
  | list
  | object
  deriving Repr, DecidableEq

inductive Found where
  | integer (n : Int)
  | float (digits : String)
  | boolean (b : Bool)
  | string (s : String)
  | null
  | map
  | sequence
  deriving Repr, DecidableEq

inductive Error where
  | ended (part : Part)
  | expectedValue
  | expectedIdent
  | expectedColon
  | expectedCommaOrBracket
  | expectedCommaOrBrace
  | keyNotString
  | trailingComma
  | trailingCharacters
  | invalidNumber
  | numberOutOfRange
  | invalidEscape
  | controlCharacter
  | loneSurrogate
  | unpairedSurrogate
  | invalidType (found : Found) (expected : String)
  | invalidValue (n : Int) (expected : String)
  | invalidLength (found : Nat) (expected : String)
  | missingField (name : String)
  | duplicateField (name : String)
  | unknownVariant (name : String) (known : List String)
  | uuid (error : Uuid.Error)
  deriving Repr, DecidableEq

def Part.name : Part → String
  | .value => "a value"
  | .string => "a string"
  | .list => "a list"
  | .object => "an object"

def Found.name : Found → String
  | .integer n => s!"integer `{n}`"
  | .float digits => s!"floating point `{digits}`"
  | .boolean b => s!"boolean `{b}`"
  | .string s => "string " ++ Text.quote s
  | .null => "null"
  | .map => "map"
  | .sequence => "sequence"

def oneOf (known : List String) : String :=
  let ticked := known.map fun name => s!"`{name}`"
  match ticked with
  | [] => "there are no variants"
  | [a] => s!"expected {a}"
  | [a, b] => s!"expected {a} or {b}"
  | many => "expected one of " ++ String.intercalate ", " many

def Error.message : Error → String
  | .ended part => "EOF while parsing " ++ part.name
  | .expectedValue => "expected value"
  | .expectedIdent => "expected ident"
  | .expectedColon => "expected `:`"
  | .expectedCommaOrBracket => "expected `,` or `]`"
  | .expectedCommaOrBrace => "expected `,` or `\x7d`"
  | .keyNotString => "key must be a string"
  | .trailingComma => "trailing comma"
  | .trailingCharacters => "trailing characters"
  | .invalidNumber => "invalid number"
  | .numberOutOfRange => "number out of range"
  | .invalidEscape => "invalid escape"
  | .controlCharacter => "control character (\\u0000-\\u001F) found while parsing a string"
  | .loneSurrogate => "lone leading surrogate in hex escape"
  | .unpairedSurrogate => "unexpected end of hex escape"
  | .invalidType found expected => s!"invalid type: {found.name}, expected {expected}"
  | .invalidValue n expected => s!"invalid value: integer `{n}`, expected {expected}"
  | .invalidLength found expected => s!"invalid length {found}, expected {expected}"
  | .missingField name => s!"missing field `{name}`"
  | .duplicateField name => s!"duplicate field `{name}`"
  | .unknownVariant name known => s!"unknown variant `{name}`, " ++ oneOf known
  | .uuid error => "UUID parsing failed: " ++ error.message

end Registrar.Json
