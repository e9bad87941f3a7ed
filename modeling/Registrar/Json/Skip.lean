import Registrar.Json.Scanner

/-!
Passing over a value that nobody asked for. Values may be nested to any depth, and the surrogates in
their strings need not come in pairs.
-/

namespace Registrar.Json

inductive Frame where
  | list
  | object

def Frame.part : Frame → Part
  | .list => .list
  | .object => .object

/-- The length of a value that is neither list nor object, without its first character `c`. -/
def scalarLength (c : Char) (rest : List Char) : Except Error Nat :=
  match c with
  | 'n' => (readWord ['u', 'l', 'l'] rest).map fun _ => 3
  | 't' => (readWord ['r', 'u', 'e'] rest).map fun _ => 3
  | 'f' => (readWord ['a', 'l', 's', 'e'] rest).map fun _ => 4
  | '-' => unsignedLength rest
  | '"' => stringLength rest
  | c =>
    if (Text.decimalValue? c).isSome then (unsignedLength (c :: rest)).map (· - 1)
    else .error .expectedValue

/-- The length of a member's name up to its colon, with the white space before both. -/
def nameLength (cs : List Char) : Except Error Nat :=
  match skipBlanks cs with
  | [] => .error (.ended .object)
  | '"' :: rest =>
    match stringLength rest with
    | .error e => .error e
    | .ok n =>
      match skipBlanks (rest.drop n) with
      | [] => .error (.ended .object)
      | ':' :: after => .ok (cs.length - after.length)
      | _ => .error .expectedColon
  | _ => .error .keyNotString

structure Next (cs : List Char) where
  char : Char
  rest : List Char
  length_rest_lt : rest.length < cs.length

def next? (cs : List Char) : Option (Next cs) :=
  match h : skipBlanks cs with
  | [] => none
  | c :: rest => some ⟨c, rest, length_lt_of_skipBlanks h⟩

mutual

/-- Passes over a value that stands in the given frames, and over all that follows it in them. -/
def skipValue (frames : List Frame) (cs : List Char) : Except Error (List Char) :=
  match next? cs with
  | none => .error (.ended .value)
  | some ⟨c, rest, _⟩ =>
    if c = '[' then
      match next? rest with
      | none => .error (.ended .list)
      | some ⟨first, after, _⟩ =>
        if first = ']' then skipRest frames after else skipValue (.list :: frames) rest
    else if c = '{' then
      match next? rest with
      | none => .error (.ended .object)
      | some ⟨first, after, _⟩ =>
        if first = '}' then skipRest frames after
        else
          match nameLength rest with
          | .error e => .error e
          | .ok n => skipValue (.object :: frames) (rest.drop n)
    else
      match scalarLength c rest with
      | .error e => .error e
      | .ok n => skipRest frames (rest.drop n)
termination_by cs.length
decreasing_by all_goals (try rw [List.length_drop]); omega

/-- Passes over what follows a value in the given frames, up to the end of the outermost. -/
def skipRest (frames : List Frame) (cs : List Char) : Except Error (List Char) :=
  match frames with
  | [] => .ok cs
  | frame :: outer =>
    match next? cs with
    | none => .error (.ended frame.part)
    | some ⟨c, rest, _⟩ =>
      match frame with
      | .list =>
        if c = ',' then skipValue (.list :: outer) rest
        else if c = ']' then skipRest outer rest
        else .error .expectedCommaOrBracket
      | .object =>
        if c = ',' then
          match nameLength rest with
          | .error e => .error e
          | .ok n => skipValue (.object :: outer) (rest.drop n)
        else if c = '}' then skipRest outer rest
        else .error .expectedCommaOrBrace
termination_by cs.length
decreasing_by all_goals (try rw [List.length_drop]); omega

end

end Registrar.Json
