import Mathlib.Data.List.Basic
import Registrar.Text.Numeral

/-!
Which texts are numerals, and what they are read as.

A digit that takes the number past the limit ends the reading. Nothing is lost by that, since the
digits after it only make the number larger.
-/

namespace Registrar.Text

theorem decimalValue?_of_isDigit {c : Char} (hc : c.isDigit = true) :
    decimalValue? c = some (c.toNat - 48) := by
  have h : 48 ≤ c.toNat ∧ c.toNat ≤ 57 := Char.isDigit_iff_toNat.1 hc
  simp [decimalValue?, h]

theorem decimalValue?_eq_none_iff {c : Char} : decimalValue? c = none ↔ c.isDigit = false := by
  rw [← Bool.not_eq_true, Char.isDigit_iff_toNat, decimalValue?]
  simp

/-! ### Numerals below `2 ^ 32` -/

theorem le_ofDigitChars (cs : List Char) (n : Nat) : n ≤ Nat.ofDigitChars 10 cs n := by
  induction cs generalizing n with
  | nil => exact Nat.le_refl n
  | cons c cs ih =>
    rw [Nat.ofDigitChars_cons]
    exact Nat.le_trans (by omega) (ih _)

theorem readDigits_eq_ok_iff {n m : Nat} {cs : List Char} (hn : n < UInt32.size) :
    readDigits n cs = .ok m ↔
      (∀ c ∈ cs, c.isDigit = true) ∧ Nat.ofDigitChars 10 cs n = m ∧ m < UInt32.size := by
  induction cs generalizing n with
  | nil =>
    simp only [readDigits, Except.ok.injEq, Nat.ofDigitChars_nil, List.not_mem_nil, false_implies,
      implies_true, true_and]
    exact ⟨fun h => ⟨h, h ▸ hn⟩, fun h => h.1⟩
  | cons c cs ih =>
    rw [readDigits, List.forall_mem_cons, Nat.ofDigitChars_cons]
    by_cases hc : c.isDigit = true
    · rw [decimalValue?_of_isDigit hc]
      dsimp only
      by_cases hlt : 10 * n + (c.toNat - 48) < UInt32.size
      · rw [if_pos hlt, ih hlt]
        simp [hc]
      · have hle := le_ofDigitChars cs (10 * n + (c.toNat - 48))
        rw [if_neg hlt]
        simp only [reduceCtorEq, false_iff, not_and]
        rintro - rfl hsize
        exact hlt (Nat.lt_of_le_of_lt hle hsize)
    · rw [decimalValue?_eq_none_iff.2 (Bool.not_eq_true _ ▸ hc)]
      simp [hc]

/-- A text is an optional plus sign and one or more digits, and these have a certain value. -/
def Spells (cs : List Char) (n : UInt32) : Prop :=
  ∃ ds, (cs = ds ∨ cs = '+' :: ds) ∧ ds ≠ [] ∧ (∀ c ∈ ds, c.isDigit = true) ∧
    Nat.ofDigitChars 10 ds 0 = n.toNat

theorem map_readDigits_eq_ok_iff {ds : List Char} {n : UInt32} :
    (readDigits 0 ds).map UInt32.ofNat = .ok n ↔
      (∀ c ∈ ds, c.isDigit = true) ∧ Nat.ofDigitChars 10 ds 0 = n.toNat := by
  have hread {m : Nat} : readDigits 0 ds = .ok m ↔
      (∀ c ∈ ds, c.isDigit = true) ∧ Nat.ofDigitChars 10 ds 0 = m ∧ m < UInt32.size :=
    readDigits_eq_ok_iff (by decide)
  constructor
  · intro h
    cases hdigits : readDigits 0 ds with
    | error e =>
      rw [hdigits] at h
      cases h
    | ok m =>
      obtain ⟨hall, hvalue, hsize⟩ := hread.1 hdigits
      rw [hdigits] at h
      cases h
      exact ⟨hall, by rw [hvalue, UInt32.toNat_ofNat_of_lt' hsize]⟩
  · rintro ⟨hall, hvalue⟩
    rw [hread.2 ⟨hall, hvalue, n.toNat_lt⟩, Except.map, UInt32.ofNat_toNat]

theorem readNumeral_eq_ok_iff {cs : List Char} {n : UInt32} :
    readNumeral cs = .ok n ↔ Spells cs n := by
  have hplus : ('+' : Char).isDigit = false := rfl
  constructor
  · intro h
    rw [readNumeral.eq_def] at h
    split at h
    · cases h
    · cases h
    · rename_i ds hds
      obtain ⟨hall, hvalue⟩ := map_readDigits_eq_ok_iff.1 h
      exact ⟨ds, Or.inr rfl, fun hnil => hds (by rw [hnil]), hall, hvalue⟩
    · rename_i hnil _ _
      obtain ⟨hall, hvalue⟩ := map_readDigits_eq_ok_iff.1 h
      exact ⟨cs, Or.inl rfl, hnil, hall, hvalue⟩
  · rintro ⟨ds, rfl | rfl, hne, hdigits⟩
    · have hhead : ∀ cs', cs ≠ '+' :: cs' := by
        rintro cs' rfl
        have := hdigits.1 '+' List.mem_cons_self
        rw [hplus] at this
        cases this
      rw [readNumeral.eq_4 _ hne (hhead []) hhead]
      exact map_readDigits_eq_ok_iff.2 hdigits
    · rw [readNumeral.eq_3 _ hne]
      exact map_readDigits_eq_ok_iff.2 hdigits

/-- A numeral that was written is read back as the number it was written for. -/
theorem readNumeral_toList_numeral (n : UInt32) : readNumeral (numeral n).toList = .ok n := by
  rw [readNumeral_eq_ok_iff, numeral, String.toList_ofList]
  exact ⟨_, Or.inl rfl, Nat.toDigits_ne_nil,
    fun c hc => Nat.isDigit_of_mem_toDigits (by decide) (by decide) hc,
    Nat.ofDigitChars_toDigits (by decide) (by decide)⟩

end Registrar.Text
