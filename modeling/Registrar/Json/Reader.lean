import Registrar.Json.Basic
import Registrar.Json.Skip

/-!
Reading a text as a document of a given type, from left to right, so that the first problem is the
one that is reported.

A reader gives the document in its full form: the members of an object in the order of its type's
fields, with the values that stand for absent ones.
-/

namespace Registrar.Json

/-- Reads one value at the head of a text, and gives the text after it. -/
abbrev Reader := List Char → Except Error (Json × List Char)

/-- The report on a value of the wrong kind. The text starts with no white space. -/
def wrongKind (expected : String) (cs : List Char) : Error :=
  let report (found : Found) : Error := .invalidType found expected
  let word (letters : List Char) (rest : List Char) (found : Found) : Error :=
    match readWord letters rest with
    | .error e => e
    | .ok _ => report found
  match cs with
  | [] => .ended .value
  | 'n' :: rest => word ['u', 'l', 'l'] rest .null
  | 't' :: rest => word ['r', 'u', 'e'] rest (.boolean true)
  | 'f' :: rest => word ['a', 'l', 's', 'e'] rest (.boolean false)
  | '"' :: rest =>
    match readString rest with
    | .error e => e
    | .ok (s, _) => report (.string (String.ofList s))
  | '[' :: _ => report .sequence
  | '{' :: _ => report .map
  | c :: rest =>
    if c = '-' || (Text.decimalValue? c).isSome then
      match readNumber (c :: rest) with
      | .error e => e
      | .ok (n, _) => report n.found
    else .expectedValue

namespace Reader

def integer (expected : String) (low high : Int) : Reader := fun cs =>
  match skipBlanks cs with
  | [] => .error (.ended .value)
  | c :: rest =>
    if c = '-' || (Text.decimalValue? c).isSome then
      match readNumber (c :: rest) with
      | .error e => .error e
      | .ok (.float value, _) => .error (.invalidType (Number.float value).found expected)
      | .ok (.integer n, after) =>
        if low ≤ n ∧ n ≤ high then .ok (.number n, after) else .error (.invalidValue n expected)
    else .error (wrongKind expected (c :: rest))

def u8 : Reader := integer "u8" 0 (UInt8.size - 1)

def u32 : Reader := integer "u32" 0 (UInt32.size - 1)

def i64 : Reader := integer "i64" Int64.minValue.toInt Int64.maxValue.toInt

def boolean : Reader := fun cs =>
  match skipBlanks cs with
  | 't' :: rest => (readWord ['r', 'u', 'e'] rest).map fun after => (.bool true, after)
  | 'f' :: rest => (readWord ['a', 'l', 's', 'e'] rest).map fun after => (.bool false, after)
  | cs => .error (wrongKind "a boolean" cs)

/-- A string whose characters are checked and brought into their written form by `accept`. -/
def text (expected : String) (accept : List Char → Except Error (List Char)) : Reader := fun cs =>
  match skipBlanks cs with
  | '"' :: rest =>
    match readString rest with
    | .error e => .error e
    | .ok (s, after) => (accept s).map fun t => (.string (String.ofList t), after)
  | cs => .error (wrongKind expected cs)

def string : Reader := text "a string" .ok

def path : Reader := text "path string" .ok

/-- An identifier in any of its spellings; the document holds the one with hyphens. -/
def uuid : Reader :=
  text "a formatted UUID string" fun s =>
    match Uuid.read s with
    | .error e => .error (.uuid e)
    | .ok u => .ok u.chars

def nullable (value : Reader) : Reader := fun cs =>
  match skipBlanks cs with
  | 'n' :: rest => (readWord ['u', 'l', 'l'] rest).map fun after => (.null, after)
  | cs => value cs

/-! ### Lists -/

def nextElement (first : Bool) (cs : List Char) : Except Error (Option (List Char)) :=
  match skipBlanks cs with
  | [] => .error (.ended .list)
  | ']' :: _ => .ok none
  | c :: rest =>
    if first then .ok (some (c :: rest))
    else if c = ',' then
      match skipBlanks rest with
      | [] => .error (.ended .value)
      | ']' :: _ => .error .trailingComma
      | after => .ok (some after)
    else .error .expectedCommaOrBracket

/-- The end of a list of which no more elements are wanted. -/
def closeList (cs : List Char) : Except Error (List Char) :=
  match skipBlanks cs with
  | [] => .error (.ended .list)
  | ']' :: rest => .ok rest
  | ',' :: rest =>
    match skipBlanks rest with
    | ']' :: _ => .error .trailingComma
    | _ => .error .trailingCharacters
  | _ => .error .trailingCharacters

/-- All elements up to the closing bracket; `fuel` bounds their number. -/
def elements (item : Reader) : Nat → Bool → List Char → Except Error (List Json × List Char)
  | 0, _, _ => .error (.ended .list)
  | fuel + 1, first, cs =>
    match nextElement first cs with
    | .error e => .error e
    | .ok none => .ok ([], cs)
    | .ok (some start) =>
      match item start with
      | .error e => .error e
      | .ok (j, after) => (elements item fuel false after).map fun (js, rest) => (j :: js, rest)

def list (item : Reader) : Reader := fun cs =>
  match skipBlanks cs with
  | '[' :: rest =>
    match elements item (rest.length + 1) true rest with
    | .error e => .error e
    | .ok (js, after) => (closeList after).map fun after => (.array js, after)
  | cs => .error (wrongKind "a sequence" cs)

/-- The elements of a list of fixed length, of which `done` have been read and `left` are due. -/
def fixedElements (item : Reader) (expected : String) (done : Nat) :
    Nat → List Char → Except Error (List Json × List Char)
  | 0, cs => .ok ([], cs)
  | left + 1, cs =>
    match nextElement (done = 0) cs with
    | .error e => .error e
    | .ok none => .error (.invalidLength done expected)
    | .ok (some start) =>
      match item start with
      | .error e => .error e
      | .ok (j, after) =>
        (fixedElements item expected (done + 1) left after).map fun (js, rest) => (j :: js, rest)

def fixedList (item : Reader) (length : Nat) : Reader := fun cs =>
  let expected := s!"an array of length {length}"
  match skipBlanks cs with
  | '[' :: rest =>
    match fixedElements item expected 0 length rest with
    | .error e => .error e
    | .ok (js, after) => (closeList after).map fun after => (.array js, after)
  | cs => .error (wrongKind expected cs)

def bytes : Reader := list u8

/-! ### Choices -/

def variantName (names : List String) : Reader :=
  text "variant identifier" fun s =>
    if String.ofList s ∈ names then .ok s else .error (.unknownVariant (String.ofList s) names)

def colon (cs : List Char) : Except Error (List Char) :=
  match skipBlanks cs with
  | [] => .error (.ended .object)
  | ':' :: rest => .ok rest
  | _ => .error .expectedColon

def unit (cs : List Char) : Except Error (List Char) :=
  match skipBlanks cs with
  | 'n' :: rest => readWord ['u', 'l', 'l'] rest
  | cs => .error (wrongKind "unit" cs)

def memberVariant (names : List String) : Reader := fun cs =>
  match skipBlanks cs with
  | [] => .error (.ended .object)
  | '"' :: rest => variantName names ('"' :: rest)
  | '}' :: _ => .error .expectedValue
  | _ => .error .keyNotString

/-- One of several names, as a string or as the only member of an object whose value is `null`. -/
def choice (names : List String) : Reader := fun cs =>
  match skipBlanks cs with
  | [] => .error (.ended .value)
  | '"' :: rest => variantName names ('"' :: rest)
  | '{' :: rest =>
    match memberVariant names rest with
    | .error e => .error e
    | .ok (name, after) =>
      match (colon after).bind unit with
      | .error e => .error e
      | .ok after =>
        match skipBlanks after with
        | [] => .error (.ended .object)
        | '}' :: after => .ok (name, after)
        | _ => .error .expectedValue
  | _ => .error .expectedValue

/-! ### Records -/

structure Field where
  name : String
  value : Reader
  absent : Option Json

def required (name : String) (value : Reader) : Field := ⟨name, value, none⟩

def optional (name : String) (value : Reader) (absent : Json) : Field := ⟨name, value, some absent⟩

def recordWords (name : String) (fields : List Field) : String :=
  let count := fields.length
  s!"struct {name} with {count} element" ++ (if count = 1 then "" else "s")

def nextName (first : Bool) (cs : List Char) : Except Error (Option (List Char)) :=
  match skipBlanks cs with
  | [] => .error (.ended .object)
  | '}' :: _ => .ok none
  | c :: rest =>
    if first then
      if c = '"' then .ok (some rest) else .error .keyNotString
    else if c = ',' then
      match skipBlanks rest with
      | [] => .error (.ended .value)
      | '"' :: after => .ok (some after)
      | '}' :: _ => .error .trailingComma
      | _ => .error .keyNotString
    else .error .expectedCommaOrBrace

/--
The members up to the closing brace, in the order of the text, after those already `found`. Members
that are no fields are passed over. `fuel` bounds their number.
-/
def members (fields : List Field) :
    Nat → Bool → List (String × Json) → List Char → Except Error (List (String × Json) × List Char)
  | 0, _, _, _ => .error (.ended .object)
  | fuel + 1, first, found, cs =>
    match nextName first cs with
    | .error e => .error e
    | .ok none => .ok (found, cs)
    | .ok (some start) =>
      match readString start with
      | .error e => .error e
      | .ok (chars, after) =>
        let name := String.ofList chars
        match fields.find? (·.name = name) with
        | none =>
          match (colon after).bind (skipValue []) with
          | .error e => .error e
          | .ok after => members fields fuel false found after
        | some field =>
          if (found.lookup name).isSome then .error (.duplicateField name)
          else
            match (colon after).bind field.value with
            | .error e => .error e
            | .ok (j, after) => members fields fuel false (found ++ [(name, j)]) after

/-- The members of a record in the order of its fields, absent ones filled in. -/
def complete (found : List (String × Json)) : List Field → Except Error (List (String × Json))
  | [] => .ok []
  | field :: fields =>
    match (found.lookup field.name).or field.absent with
    | none => .error (.missingField field.name)
    | some j => (complete found fields).map ((field.name, j) :: ·)

/-- The fields of a record that is written as a list, of which `done` have been read. -/
def positional (expected : String) (done : Nat) :
    List Field → List Char → Except Error (List (String × Json) × List Char)
  | [], cs => .ok ([], cs)
  | field :: fields, cs =>
    match nextElement (done = 0) cs with
    | .error e => .error e
    | .ok none =>
      match field.absent with
      | none => .error (.invalidLength done expected)
      | some j =>
        (positional expected (done + 1) fields cs).map fun (ms, rest) => ((field.name, j) :: ms, rest)
    | .ok (some start) =>
      match field.value start with
      | .error e => .error e
      | .ok (j, after) =>
        (positional expected (done + 1) fields after).map
          fun (ms, rest) => ((field.name, j) :: ms, rest)

/-- A record: an object, or a list of its fields in their order. -/
def record (name : String) (fields : List Field) : Reader := fun cs =>
  match skipBlanks cs with
  | '[' :: rest =>
    match positional (recordWords name fields) 0 fields rest with
    | .error e => .error e
    | .ok (ms, after) => (closeList after).map fun after => (.object ms, after)
  | '{' :: rest =>
    match members fields (rest.length + 1) true [] rest with
    | .error e => .error e
    | .ok (found, after) =>
      match complete found fields with
      | .error e => .error e
      | .ok ms => .ok (.object ms, (skipBlanks after).drop 1)
  | cs => .error (wrongKind ("struct " ++ name) cs)

def whole (value : Reader) (s : String) : Except Error Json :=
  match value s.toList with
  | .error e => .error e
  | .ok (j, after) => if (skipBlanks after).isEmpty then .ok j else .error .trailingCharacters

end Reader

end Registrar.Json
