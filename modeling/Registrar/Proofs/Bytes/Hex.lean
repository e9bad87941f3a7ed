import Registrar.Bytes.Hex
import Registrar.Proofs.Uuid.Spelling

/-!
The texts that are read as bytes are exactly the even numbers of hexadecimal digits, and bytes are
written as the digits that they are read from, in lower case.
-/

namespace Registrar

open Text

namespace Text

/-- A hexadecimal digit in either case. -/
def IsHexDigit (c : Char) : Prop :=
  ('0' ≤ c ∧ c ≤ '9') ∨ ('A' ≤ c ∧ c ≤ 'F') ∨ ('a' ≤ c ∧ c ≤ 'f')

theorem isHexDigit_iff {c : Char} : IsHexDigit c ↔ (hexValue? c).isSome := by
  have hcodes : IsHexDigit c ↔ (48 ≤ c.toNat ∧ c.toNat ≤ 57) ∨ (65 ≤ c.toNat ∧ c.toNat ≤ 70) ∨
      (97 ≤ c.toNat ∧ c.toNat ≤ 102) := Iff.rfl
  rw [hcodes]
  grind [hexValue?]

end Text

namespace Hex

variable {cs : List Char} {bytes : Bytes} {n : Nat}

theorem length_digits (bytes : Bytes) : (digits bytes).length = 2 * bytes.length := by
  induction bytes with
  | nil => rfl
  | cons b bytes ih =>
    rw [digits, List.length_cons, List.length_cons, ih, List.length_cons]
    omega

/-- A byte is known by its two halves. -/
theorem ofNat_eq_iff {x y : Nat} (hx : x < 16) (hy : y < 16) {b : UInt8} :
    UInt8.ofNat (16 * x + y) = b ↔ x = b.toNat / 16 ∧ y = b.toNat % 16 := by
  have hlt : 16 * x + y < 256 := by omega
  rw [← UInt8.toNat_inj, UInt8.toNat_ofNat_of_lt' hlt]
  omega

theorem ofDigits?_cons_cons {a b : Char} {rest : List Char} {c : UInt8} :
    ofDigits? (a :: b :: rest) = some (c :: bytes) ↔
      hexValue? a = some (c.toNat / 16) ∧ hexValue? b = some (c.toNat % 16) ∧
        ofDigits? rest = some bytes := by
  rw [ofDigits?]
  cases ha : hexValue? a with
  | none => simp
  | some x =>
    cases hb : hexValue? b with
    | none => simp
    | some y =>
      simp only [Option.map_eq_some_iff, List.cons.injEq, Option.some.injEq,
        ofNat_eq_iff (hexValue?_lt ha) (hexValue?_lt hb)]
      constructor
      · rintro ⟨found, hfound, ⟨hx, hy⟩, rfl⟩
        exact ⟨hx, hy, hfound⟩
      · rintro ⟨hx, hy, hfound⟩
        exact ⟨bytes, hfound, ⟨hx, hy⟩, rfl⟩

/-- Bytes are read from the digits that they are written with, in either case. -/
theorem ofDigits?_eq_some_iff :
    ofDigits? cs = some bytes ↔ cs.map Char.toLower = digits bytes := by
  -- One byte is two digits, so a single digit that is left over is refused on both sides.
  induction bytes generalizing cs with
  | nil =>
    rcases cs with _ | ⟨a, _ | ⟨b, rest⟩⟩
    · simp [ofDigits?, digits]
    · simp [ofDigits?, digits]
    · cases ha : hexValue? a <;> cases hb : hexValue? b <;> simp [ofDigits?, digits, ha, hb]
  | cons c bytes ih =>
    have hbyte := c.toNat_lt
    rcases cs with _ | ⟨a, _ | ⟨b, rest⟩⟩
    · simp [ofDigits?, digits]
    · simp [ofDigits?, digits]
    · rw [ofDigits?_cons_cons, ih, hexValue?_eq_some_iff (by omega),
        hexValue?_eq_some_iff (by omega), digits, List.map_cons, List.map_cons, List.cons.injEq,
        List.cons.injEq]

theorem exists_of_mem_digits {c : Char} (hc : c ∈ digits bytes) : ∃ n < 16, c = hexDigit n := by
  induction bytes with
  | nil => cases hc
  | cons b bytes ih =>
    have hbyte := b.toNat_lt
    rw [digits, List.mem_cons, List.mem_cons] at hc
    rcases hc with rfl | rfl | hc
    · exact ⟨_, by omega, rfl⟩
    · exact ⟨_, by omega, rfl⟩
    · exact ih hc

theorem exists_ofDigits? (hlength : cs.length = 2 * n) (hdigits : ∀ c ∈ cs, IsHexDigit c) :
    ∃ bytes, ofDigits? cs = some bytes := by
  induction n generalizing cs with
  | zero =>
    obtain rfl := List.length_eq_zero_iff.1 hlength
    exact ⟨[], rfl⟩
  | succ n ih =>
    rcases cs with _ | ⟨a, _ | ⟨b, rest⟩⟩
    · cases hlength
    · simp at hlength
      omega
    · obtain ⟨ha, htail⟩ := List.forall_mem_cons.1 hdigits
      obtain ⟨hb, hrest⟩ := List.forall_mem_cons.1 htail
      obtain ⟨x, hx⟩ := Option.isSome_iff_exists.1 (isHexDigit_iff.1 ha)
      obtain ⟨y, hy⟩ := Option.isSome_iff_exists.1 (isHexDigit_iff.1 hb)
      obtain ⟨bytes, hbytes⟩ := ih (by simpa [Nat.mul_add] using hlength) hrest
      exact ⟨UInt8.ofNat (16 * x + y) :: bytes, by rw [ofDigits?, hx, hy, hbytes]; rfl⟩

/-- Exactly an even number of hexadecimal digits is read, as half as many bytes. -/
theorem exists_ofDigits?_iff : (∃ bytes, ofDigits? cs = some bytes ∧ bytes.length = n) ↔
    cs.length = 2 * n ∧ ∀ c ∈ cs, IsHexDigit c := by
  constructor
  · rintro ⟨bytes, hbytes, rfl⟩
    rw [ofDigits?_eq_some_iff] at hbytes
    refine ⟨by rw [← length_digits, ← hbytes, List.length_map], fun c hc => ?_⟩
    obtain ⟨n, hn, hlower⟩ := exists_of_mem_digits (hbytes ▸ List.mem_map_of_mem hc)
    rw [isHexDigit_iff, (hexValue?_eq_some_iff hn).2 hlower]
    rfl
  · rintro ⟨hlength, hdigits⟩
    obtain ⟨bytes, hbytes⟩ := exists_ofDigits? hlength hdigits
    have hwritten := congrArg List.length (ofDigits?_eq_some_iff.1 hbytes)
    rw [List.length_map, length_digits] at hwritten
    exact ⟨bytes, hbytes, by omega⟩

end Hex

end Registrar
