import Registrar.Json.Basic
import Registrar.Json.Scanner
import Registrar.Proofs.Text.Decimal

/-!
The tokens of a written document are read back one by one: a number or a string at the head of a
text gives its value and leaves the rest, whatever may follow a value there.
-/

namespace Registrar.Json

open Text

/-- What may stand after a value: nothing, or a character that separates or closes. -/
def Closes : List Char → Prop
  | [] => True
  | c :: _ => c = ',' ∨ c = ']' ∨ c = '}'

theorem skipBlanks_cons {c : Char} (hc : isBlank c = false) (cs : List Char) :
    skipBlanks (c :: cs) = c :: cs := by
  simp [skipBlanks, hc]

/-! ### Numbers -/

theorem decimalValue?_head_of_closes {rest : List Char} (h : Closes rest) :
    rest.head?.bind decimalValue? = none := by
  cases rest with
  | nil => rfl
  | cons c cs => rcases h with rfl | rfl | rfl <;> rfl

theorem spanDigits_append {ds rest : List Char} (hd : ∀ c ∈ ds, c.isDigit = true)
    (hr : rest.head?.bind decimalValue? = none) :
    spanDigits (ds ++ rest) = (ds.map fun c => c.toNat - 48, rest) := by
  induction ds with
  | nil =>
    cases rest with
    | nil => rfl
    | cons c cs =>
      have hc : decimalValue? c = none := hr
      simp [spanDigits, hc]
  | cons c ds ih =>
    have hc := decimalValue?_of_isDigit (hd c List.mem_cons_self)
    have htail := ih fun c' hc' => hd c' (List.mem_cons_of_mem c hc')
    simp [spanDigits, hc, htail]

theorem Significand.push_of_lt {v taken d : Nat} (h : 10 * v + d < UInt64.size) :
    Significand.push ⟨v, taken, 0⟩ d = ⟨10 * v + d, taken + 1, 0⟩ := by
  simp [Significand.push, h]

/-- The digits of a number of at most 64 bits are all taken. -/
theorem Significand.ofDigits_toDigits {n : Nat} (hn : n < UInt64.size) :
    ∃ taken, Significand.ofDigits 0 ((Nat.toDigits 10 n).map fun c => c.toNat - 48)
      = ⟨n, taken, 0⟩ := by
  induction n using Nat.base_induction 10 (by decide) with
  | single d hd =>
    refine ⟨1, ?_⟩
    rw [Nat.toDigits_of_lt_base hd, List.map_singleton, Nat.toNat_digitChar_sub_48_of_lt_ten hd]
    have h : Significand.push ⟨0, 0, 0⟩ d = ⟨10 * 0 + d, 0 + 1, 0⟩ :=
      Significand.push_of_lt (by omega)
    simpa [Significand.ofDigits] using h
  | digit m d hd hm ih =>
    obtain ⟨taken, htaken⟩ := ih (by omega)
    refine ⟨taken + 1, ?_⟩
    rw [← Nat.toDigits_append_toDigits (by decide) hm hd, Nat.toDigits_of_lt_base hd,
      List.map_append, List.map_singleton, Nat.toNat_digitChar_sub_48_of_lt_ten hd]
    rw [Significand.ofDigits] at htaken ⊢
    rw [List.foldl_append, htaken]
    exact Significand.push_of_lt hn

/-- No number but zero is written with a zero in front. -/
theorem head?_toDigits_ne_zero {n : Nat} (hn : 0 < n) : (Nat.toDigits 10 n).head? ≠ some '0' := by
  induction n using Nat.base_induction 10 (by decide) with
  | single d hd =>
    rw [Nat.toDigits_of_lt_base hd]
    revert d
    decide
  | digit m d hd hm ih =>
    rw [← Nat.toDigits_append_toDigits (by decide) hm hd]
    cases hds : Nat.toDigits 10 m with
    | nil => exact absurd hds Nat.toDigits_ne_nil
    | cons c ds =>
      rw [hds] at ih
      exact ih hm

theorem readUnsigned_toDigits {n : Nat} (hn : n < UInt64.size) (negative : Bool)
    {rest : List Char} (hr : Closes rest) :
    ∃ taken, readUnsigned negative (Nat.toDigits 10 n ++ rest)
      = (wholeNumber negative ⟨n, taken, 0⟩).map fun value => (value, rest) := by
  obtain ⟨taken, htaken⟩ := Significand.ofDigits_toDigits hn
  refine ⟨taken, ?_⟩
  have hdigit : ∀ c ∈ Nat.toDigits 10 n, c.isDigit = true := fun c hc =>
    Nat.isDigit_of_mem_toDigits (by decide) (by decide) hc
  have hspan := spanDigits_append hdigit (decimalValue?_head_of_closes hr)
  cases hcs : Nat.toDigits 10 n with
  | nil => exact absurd hcs Nat.toDigits_ne_nil
  | cons c cs =>
    have hzero : (c = '0' && (((cs ++ rest).head?).bind decimalValue?).isSome) = false := by
      by_cases hpos : 0 < n
      · have hhead := head?_toDigits_ne_zero hpos
        rw [hcs] at hhead
        have hc : c ≠ '0' := fun h => hhead (by rw [h]; rfl)
        simp [hc]
      · obtain rfl : n = 0 := by omega
        rw [Nat.toDigits_zero] at hcs
        obtain ⟨rfl, rfl⟩ := List.cons.inj hcs
        simp [decimalValue?_head_of_closes hr]
    rw [hcs] at hspan htaken
    simp only [List.map_cons, List.cons_append] at hspan htaken ⊢
    simp only [readUnsigned, hspan, hzero, htaken]
    cases rest with
    | nil => rfl
    | cons x xs => rcases hr with rfl | rfl | rfl <;> rfl

/-- A whole number that fits in 64 bits, with or without a sign, is read exactly. -/
theorem readNumber_renderNumber {n : Int} (hlow : Int64.minValue.toInt ≤ n)
    (hhigh : n < UInt64.size) {rest : List Char} (hr : Closes rest) :
    readNumber (renderNumber n ++ rest) = .ok (.integer n, rest) := by
  by_cases hneg : n < 0
  · obtain ⟨taken, h⟩ := readUnsigned_toDigits (n := n.natAbs)
      (by simp at hlow; simp [UInt64.size]; omega) true hr
    rw [renderNumber, if_pos hneg, List.cons_append, readNumber, h]
    have habs : (n.natAbs : Int) = -n := by omega
    have hpos : n.natAbs ≠ 0 := by omega
    have hmin : ¬ n < Int64.minValue.toInt := Int.not_lt.2 hlow
    rw [wholeNumber, habs, Int.neg_neg]
    simp only [hpos, hmin, ne_eq, not_true_eq_false, if_false, decide_false, Bool.or_false,
      Bool.not_true, Bool.false_eq_true]
    rfl
  · obtain ⟨taken, h⟩ := readUnsigned_toDigits (n := n.natAbs) (by omega) false hr
    rw [renderNumber, if_neg hneg]
    have habs : (n.natAbs : Int) = n := by omega
    rw [readNumber.eq_2, h]
    · simp [wholeNumber, habs, Except.map]
    · intro cs hcs
      have hmem : '-' ∈ Nat.toDigits 10 n.natAbs := by
        cases hds : Nat.toDigits 10 n.natAbs with
        | nil => exact absurd hds Nat.toDigits_ne_nil
        | cons c ds =>
          rw [hds, List.cons_append] at hcs
          exact (List.cons.inj hcs).1 ▸ List.mem_cons_self
      exact absurd (Nat.isDigit_of_mem_toDigits (by decide) (by decide) hmem) (by decide)

/-! ### Strings -/

theorem fourDigits_hexDigit {n : Nat} (hn : n < 256) (rest : List Char) :
    fourDigits ('0' :: '0' :: hexDigit (n / 16) :: hexDigit (n % 16) :: rest) = .ok n := by
  have hhigh := hexValue?_hexDigit (n := n / 16) (by omega)
  have hlow := hexValue?_hexDigit (n := n % 16) (by omega)
  have hzero : hexValue? '0' = some 0 := rfl
  have hsize (c : Char) : 1 ≤ c.utf8Size := c.utf8Size_pos
  have hlength : ¬ byteLength ['0', '0', hexDigit (n / 16), hexDigit (n % 16)] < 4 := by
    have h1 := hsize (hexDigit (n / 16))
    have h2 := hsize (hexDigit (n % 16))
    have h0 : Char.utf8Size '0' = 1 := rfl
    simp only [byteLength, List.foldl_cons, List.foldl_nil, h0]
    omega
  have hvalue : ((0 * 16 + 0) * 16 + n / 16) * 16 + n % 16 = n := by omega
  simp only [fourDigits, List.take_succ_cons, List.take_zero, hlength, if_false, List.mapM_cons,
    List.mapM_nil, hzero, hhigh, hlow]
  exact congrArg Except.ok hvalue

/-- Each character of a string is read from what was written for it. -/
theorem readString_escapeChar (c : Char) (rest : List Char) :
    readString (escapeChar c ++ rest)
      = (readString rest).map fun (s, after) => (c :: s, after) := by
  unfold escapeChar
  split
  case h_8 =>
    split
    case isTrue hsmall =>
      have hfour := fourDigits_hexDigit (n := c.toNat) (by omega) rest
      have hchar : Char.ofNat c.toNat = c := Char.ofNat_toNat c
      have hsurrogate : ¬ (0xdc00 ≤ c.toNat ∧ c.toNat ≤ 0xdfff) := by omega
      have hlead : ¬ (0xd800 ≤ c.toNat ∧ c.toNat ≤ 0xdbff) := by omega
      simp [readString, readEscape, hfour, hchar, hsurrogate, hlead]
    case isFalse hplain =>
      rw [List.singleton_append, readString, if_neg hplain]
      all_goals assumption
  all_goals simp [readString, readEscape]

theorem readString_flatMap_escapeChar (s rest : List Char) :
    readString (s.flatMap escapeChar ++ '"' :: rest) = .ok (s, rest) := by
  induction s with
  | nil => simp [readString]
  | cons c s ih =>
    rw [List.flatMap_cons, List.append_assoc, readString_escapeChar, ih]
    rfl

end Registrar.Json
