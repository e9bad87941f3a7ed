import Registrar.Bytes.Basic

/-!
Texts as bytes in UTF-8.
-/

namespace Registrar.Text

def byteLength (cs : List Char) : Nat :=
  cs.foldl (fun n c => n + c.utf8Size) 0

def encodeUtf8 (s : String) : Bytes :=
  s.toUTF8.toList

def decodeUtf8? (bytes : Bytes) : Option String :=
  String.fromUTF8? ⟨bytes.toArray⟩

/-! ### Text with gaps -/

/-- A character of which some bytes have been read. -/
structure Unfinished where
  value : Nat
  /-- how many bytes are due -/
  due : Nat
  /-- the range of the next of them -/
  low : Nat
  high : Nat

/--
What a byte begins that is the first of several. The range of the next one leaves out what could be
said in fewer bytes, the surrogates, and all beyond the last code point.
-/
def Unfinished.ofByte? (b : UInt8) : Option Unfinished :=
  let n := b.toNat
  if 0xc2 ≤ n && n ≤ 0xdf then some ⟨n % 32, 1, 0x80, 0xbf⟩
  else if 0xe0 ≤ n && n ≤ 0xef then
    some ⟨n % 16, 2, if n = 0xe0 then 0xa0 else 0x80, if n = 0xed then 0x9f else 0xbf⟩
  else if 0xf0 ≤ n && n ≤ 0xf4 then
    some ⟨n % 8, 3, if n = 0xf0 then 0x90 else 0x80, if n = 0xf4 then 0x8f else 0xbf⟩
  else none

/-- What stands for bytes that are no part of a text. -/
def gap : Char := '\uFFFD'

def firstByte (b : UInt8) : List Char × Option Unfinished :=
  if b.toNat < 0x80 then ([Char.ofNat b.toNat], none)
  else
    match Unfinished.ofByte? b with
    | some u => ([], some u)
    | none => ([gap], none)

/-- One more byte. If it does not fit, what was unfinished is a gap, and the byte starts anew. -/
def nextByte (u : Unfinished) (b : UInt8) : List Char × Option Unfinished :=
  if u.low ≤ b.toNat && b.toNat ≤ u.high then
    let value := 64 * u.value + b.toNat % 64
    if u.due ≤ 1 then ([Char.ofNat value], none)
    else ([], some ⟨value, u.due - 1, 0x80, 0xbf⟩)
  else
    let (cs, begun) := firstByte b
    (gap :: cs, begun)

def lossyChars (begun : Option Unfinished) : Bytes → List Char
  | [] => if begun.isSome then [gap] else []
  | b :: bytes =>
    let (cs, begun) :=
      match begun with
      | none => firstByte b
      | some u => nextByte u b
    cs ++ lossyChars begun bytes

/-- The text that bytes spell, with a gap for each stretch that spells none. -/
def decodeLossy (bytes : Bytes) : String :=
  String.ofList (lossyChars none bytes)

end Registrar.Text
