import Registrar.Uuid.Reading

/-!
The texts that are read as an identifier are exactly its four spellings.
-/

namespace Registrar

namespace Text

theorem toNat_toLower (c : Char) :
    c.toLower.toNat = if 65 ≤ c.toNat ∧ c.toNat ≤ 90 then c.toNat + 32 else c.toNat := by
  have hval : c.val.toNat = c.toNat := rfl
  have hcapital : (c.val ≥ 'A'.val ∧ c.val ≤ 'Z'.val) ↔ (65 ≤ c.toNat ∧ c.toNat ≤ 90) := by
    simp only [ge_iff_le, UInt32.le_iff_toNat_le, hval]
    rfl
  unfold Char.toLower
  by_cases h : c.val ≥ 'A'.val ∧ c.val ≤ 'Z'.val
  · rw [dif_pos h, if_pos (hcapital.1 h)]
    have hle := (hcapital.1 h).2
    show (c.val + ('a'.val - 'A'.val)).toNat = c.toNat + 32
    rw [UInt32.toNat_add, hval]
    have h32 : ('a'.val - 'A'.val).toNat = 32 := rfl
    omega
  · rw [dif_neg h, if_neg (mt hcapital.2 h)]

theorem toNat_hexDigit {n : Nat} (hn : n < 16) :
    (hexDigit n).toNat = if n < 10 then 48 + n else 87 + n := by
  revert n
  decide

/-- A digit in either case is one that is the written digit in lower case. -/
theorem hexValue?_eq_some_iff {c : Char} {n : Nat} (hn : n < 16) :
    hexValue? c = some n ↔ c.toLower = hexDigit n := by
  rw [← Char.toNat_inj, toNat_toLower, toNat_hexDigit hn]
  simp only [hexValue?, Bool.and_eq_true, decide_eq_true_eq]
  grind

theorem hexValue?_lt {c : Char} {n : Nat} (h : hexValue? c = some n) : n < 16 := by
  grind [hexValue?]

theorem toLower_eq_hyphen_iff {c : Char} : c.toLower = '-' ↔ c = '-' := by
  rw [← Char.toNat_inj, ← Char.toNat_inj, toNat_toLower]
  have hhyphen : '-'.toNat = 45 := rfl
  split <;> omega

end Text

namespace Uuid

open Text

/--
The four spellings of an identifier. Its digits, and the prefix of the fourth, may be in either
case.
-/
inductive Spells (u : Uuid) : List Char → Prop
  | plain {cs} (h : cs.map Char.toLower = u.digits.map fun d => hexDigit d.val) : Spells u cs
  | grouped {cs} (h : cs.map Char.toLower = u.chars) : Spells u cs
  | braced {cs} (h : cs.map Char.toLower = u.chars) : Spells u ('{' :: (cs ++ ['}']))
  | urn {start cs} (hstart : start.map Char.toLower = "urn:uuid:".toList)
      (h : cs.map Char.toLower = u.chars) : Spells u (start ++ cs)

theorem length_chars (u : Uuid) : u.chars.length = 36 := by
  have hu := u.length_digits
  simp [chars, hyphenate, hu]

theorem ungroup?_groups {a b c d e : List Char} (ha : a.length = 8) (hb : b.length = 4)
    (hc : c.length = 4) (hd : d.length = 4) :
    ungroup? (a ++ '-' :: b ++ '-' :: c ++ '-' :: d ++ '-' :: e)
      = some (a ++ b ++ c ++ d ++ e) := by
  simp (disch := omega) [ungroup?, List.getElem?_append, List.drop_append, List.drop_of_length_le,
    ha, hb, hc, hd]
  exact ⟨rfl, rfl, rfl, rfl⟩

theorem ungroup?_hyphenate {ds : List Char} (hds : ds.length = 32) :
    ungroup? (hyphenate ds) = some ds := by
  have hgroups := ungroup?_groups (a := ds.take 8) (b := (ds.drop 8).take 4)
    (c := (ds.drop 12).take 4) (d := (ds.drop 16).take 4) (e := ds.drop 20)
    (by simp [hds]) (by simp [hds]) (by simp [hds]) (by simp [hds])
  have hrest (n m : Nat) : (ds.drop n).take m ++ ds.drop (n + m) = ds.drop n := by
    rw [← List.drop_drop, List.take_append_drop]
  rw [hyphenate, hgroups]
  simp only [List.append_assoc, hrest 16 4, hrest 12 4, hrest 8 4, List.take_append_drop]

variable {u : Uuid} {cs g : List Char}

theorem digit?_eq_some_iff {c : Char} {d : Fin 16} :
    digit? c = some d ↔ c.toLower = hexDigit d.val := by
  rw [← hexValue?_eq_some_iff d.isLt, digit?, Option.map_eq_some_iff]
  constructor
  · rintro ⟨n, hn, rfl⟩
    have hlt := hexValue?_lt hn
    rw [hn, Fin.val_ofNat, Nat.mod_eq_of_lt hlt]
  · intro h
    exact ⟨d.val, h, Fin.ofNat_val_eq_self d⟩

theorem digit?_hexDigit (d : Fin 16) : digit? (hexDigit d.val) = some d := by
  rw [digit?, hexValue?_hexDigit d.isLt]
  simp

theorem mapM_digit?_eq_some_iff {ds : List (Fin 16)} :
    cs.mapM digit? = some ds ↔ cs.map Char.toLower = ds.map fun d => hexDigit d.val := by
  induction cs generalizing ds with
  | nil => cases ds <;> simp
  | cons c cs ih =>
    cases ds with
    | nil => cases hc : digit? c <;> cases hcs : cs.mapM digit? <;> simp [hc, hcs]
    | cons d ds =>
      rw [List.map_cons, List.map_cons, List.cons.injEq, ← ih, ← digit?_eq_some_iff]
      cases hc : digit? c <;> cases hcs : cs.mapM digit? <;> simp [hc, hcs]

theorem ofDigits?_eq_some_iff :
    ofDigits? cs = some u ↔ cs.map Char.toLower = u.digits.map fun d => hexDigit d.val := by
  rw [← mapM_digit?_eq_some_iff, ofDigits?]
  cases hcs : cs.mapM digit? with
  | none => simp
  | some ds =>
    by_cases hds : ds.length = 32
    · simp only [dif_pos hds, Option.some.injEq]
      constructor
      · rintro rfl
        rfl
      · rintro rfl
        rfl
    · simp only [dif_neg hds, Option.some.injEq, reduceCtorEq, false_iff]
      rintro rfl
      exact hds u.length_digits

/-! ### The form in groups -/

theorem length_of_grouped (h : cs.map Char.toLower = u.chars) : cs.length = 36 := by
  rw [← List.length_map Char.toLower, h, u.length_chars]

theorem map_toLower_hyphenate (g : List Char) :
    (hyphenate g).map Char.toLower = hyphenate (g.map Char.toLower) := by
  have hhyphen : '-'.toLower = '-' := rfl
  simp [hyphenate, List.map_take, List.map_drop, hhyphen]

theorem ungroup?_map_toLower :
    ungroup? (cs.map Char.toLower) = (ungroup? cs).map (List.map Char.toLower) := by
  have hplace (i : Nat) : (cs.map Char.toLower)[i]? = some '-' ↔ cs[i]? = some '-' := by
    cases hi : cs[i]? <;> simp [hi, toLower_eq_hyphen_iff]
  simp only [ungroup?, hplace]
  split
  · simp [List.map_take, List.map_drop]
  · rfl

theorem hyphenate_groups {a b c d e : List Char} (ha : a.length = 8) (hb : b.length = 4)
    (hc : c.length = 4) (hd : d.length = 4) :
    hyphenate (a ++ b ++ c ++ d ++ e)
      = a ++ '-' :: b ++ '-' :: c ++ '-' :: d ++ '-' :: e := by
  simp (disch := omega) [hyphenate, List.drop_append, List.drop_of_length_le, ha, hb, hc]

theorem eq_take_append_of_getElem? {n : Nat} {c : Char} (h : cs[n]? = some c) :
    cs = cs.take n ++ c :: cs.drop (n + 1) := by
  obtain ⟨hn, rfl⟩ := List.getElem?_eq_some_iff.1 h
  rw [← List.drop_eq_getElem_cons hn, List.take_append_drop]

theorem eq_hyphenate_of_ungroup? (hcs : cs.length = 36) (h : ungroup? cs = some g) :
    cs = hyphenate g := by
  rw [ungroup?] at h
  split at h
  case isFalse => cases h
  case isTrue hhyphens =>
    cases h
    simp only [List.all_cons, List.all_nil, Bool.and_true, Bool.and_eq_true,
      decide_eq_true_eq] at hhyphens
    obtain ⟨h8, h13, h18, h23⟩ := hhyphens
    have hlater {n m : Nat} (hm : cs[n + m]? = some '-') :
        cs.drop n = (cs.drop n).take m ++ '-' :: cs.drop (n + m + 1) := by
      rw [← List.getElem?_drop] at hm
      have hsplit := eq_take_append_of_getElem? hm
      rwa [List.drop_drop, ← Nat.add_assoc] at hsplit
    rw [hyphenate_groups (by simp; omega) (by simp; omega) (by simp; omega) (by simp; omega)]
    have h9 : cs.drop 9 = (cs.drop 9).take 4 ++ '-' :: cs.drop 14 := hlater h13
    have h14 : cs.drop 14 = (cs.drop 14).take 4 ++ '-' :: cs.drop 19 := hlater h18
    have h19 : cs.drop 19 = (cs.drop 19).take 4 ++ '-' :: cs.drop 24 := hlater h23
    calc
      cs = cs.take 8 ++ '-' :: cs.drop 9 := eq_take_append_of_getElem? h8
      _ = cs.take 8 ++ '-' :: ((cs.drop 9).take 4 ++ '-' :: ((cs.drop 14).take 4
          ++ '-' :: ((cs.drop 19).take 4 ++ '-' :: cs.drop 24))) := by rw [← h19, ← h14, ← h9]
      _ = _ := by simp only [List.append_assoc, List.cons_append]

theorem grouped_iff (hcs : cs.length = 36) :
    (ungroup? cs).bind ofDigits? = some u ↔ cs.map Char.toLower = u.chars := by
  constructor
  · intro h
    obtain ⟨g, hg, hu⟩ := Option.bind_eq_some_iff.1 h
    rw [eq_hyphenate_of_ungroup? hcs hg, map_toLower_hyphenate, ofDigits?_eq_some_iff.1 hu]
    rfl
  · intro h
    have hungroup : ungroup? u.chars = some (u.digits.map fun d => hexDigit d.val) :=
      ungroup?_hyphenate (by simp [u.length_digits])
    rw [← h, ungroup?_map_toLower] at hungroup
    obtain ⟨g, hg, hdigits⟩ := Option.map_eq_some_iff.1 hungroup
    rw [hg, Option.bind_some, ofDigits?_eq_some_iff, hdigits]

/-! ### All spellings -/

theorem braced?_eq_some_iff (hcs : 2 ≤ cs.length) :
    braced? cs = some g ↔ cs = '{' :: (g ++ ['}']) := by
  constructor
  · intro h
    rw [braced?] at h
    split at h
    · rename_i hends
      cases h
      simp only [Bool.and_eq_true, decide_eq_true_eq] at hends
      obtain ⟨hhead, hlast⟩ := hends
      cases cs with
      | nil => cases hhead
      | cons c rest =>
        obtain rfl : c = '{' := by simpa using hhead
        have hrest : rest ≠ [] := by
          rintro rfl
          simp at hcs
        rw [List.getLast?_cons_of_ne_nil hrest] at hlast
        obtain ⟨inner, rfl⟩ := List.getLast?_eq_some_iff.1 hlast
        simp
    · cases h
  · rintro rfl
    have hlast : ('{' :: (g ++ ['}'])).getLast? = some '}' := by
      rw [← List.cons_append, List.getLast?_concat]
    simp [braced?, hlast]

theorem length_of_urn {start : List Char} (h : start.map Char.toLower = "urn:uuid:".toList) :
    start.length = 9 := by
  rw [← List.length_map Char.toLower, h]
  rfl

theorem afterUrn?_eq_some_iff :
    afterUrn? cs = some g ↔
      ∃ start, start.map Char.toLower = "urn:uuid:".toList ∧ cs = start ++ g := by
  constructor
  · intro h
    rw [afterUrn?] at h
    split at h
    · rename_i hstart
      cases h
      exact ⟨cs.take 9, hstart, (List.take_append_drop 9 cs).symm⟩
    · cases h
  · rintro ⟨start, hstart, rfl⟩
    have hlength := length_of_urn hstart
    rw [afterUrn?, List.take_left' hlength, List.drop_left' hlength, if_pos hstart]

/-- A text is read as an identifier if and only if it spells it. -/
theorem spelled?_eq_some_iff : spelled? cs = some u ↔ u.Spells cs := by
  constructor
  · intro h
    rw [spelled?] at h
    split at h
    · exact .plain (ofDigits?_eq_some_iff.1 h)
    · obtain ⟨g, hg, hu⟩ := Option.bind_eq_some_iff.1 h
      split at hg
      · cases hg
        exact .grouped ((grouped_iff ‹_›).1 hu)
      · split at hg
        · rename_i h38
          obtain rfl := (braced?_eq_some_iff (by omega)).1 hg
          exact .braced ((grouped_iff (by simpa using h38)).1 hu)
        · split at hg
          · rename_i h45
            obtain ⟨start, hstart, rfl⟩ := afterUrn?_eq_some_iff.1 hg
            rw [List.length_append, length_of_urn hstart] at h45
            exact .urn hstart ((grouped_iff (by omega)).1 hu)
          · cases hg
  · intro h
    cases h with
    | plain h =>
      have hlength : cs.length = 32 := by
        rw [← List.length_map Char.toLower, h, List.length_map, u.length_digits]
      rw [spelled?, if_pos hlength, ofDigits?_eq_some_iff, h]
    | grouped h =>
      have hlength := length_of_grouped h
      simp [spelled?, hlength, (grouped_iff hlength).2 h]
    | @braced g h =>
      have hlength := length_of_grouped h
      have hbraced : braced? ('{' :: (g ++ ['}'])) = some g := (braced?_eq_some_iff (by simp)).2 rfl
      simp [spelled?, hlength, hbraced, (grouped_iff hlength).2 h]
    | @urn start g hstart h =>
      have hlength := length_of_grouped h
      have hurn : afterUrn? (start ++ g) = some g := afterUrn?_eq_some_iff.2 ⟨start, hstart, rfl⟩
      simp [spelled?, hlength, length_of_urn hstart, hurn, (grouped_iff hlength).2 h]

theorem map_toLower_chars (u : Uuid) : u.chars.map Char.toLower = u.chars := by
  have hdigits : (u.digits.map fun d => hexDigit d.val).map Char.toLower =
      u.digits.map fun d => hexDigit d.val := by
    rw [List.map_map]
    apply List.map_congr_left
    intro d _
    exact digit?_eq_some_iff.1 (digit?_hexDigit d)
  rw [chars, map_toLower_hyphenate, hdigits]

theorem spelled?_chars (u : Uuid) : spelled? u.chars = some u :=
  spelled?_eq_some_iff.2 (.grouped u.map_toLower_chars)

theorem chars_inj {v : Uuid} (h : u.chars = v.chars) : u = v := by
  have hu := u.spelled?_chars
  rw [h, v.spelled?_chars] at hu
  exact (Option.some.inj hu).symm

theorem Spells.length_mem (h : u.Spells cs) : cs.length ∈ [32, 36, 38, 45] := by
  cases h with
  | plain h =>
    rw [← List.length_map Char.toLower, h, List.length_map, u.length_digits]
    decide
  | grouped h => simp [length_of_grouped h]
  | braced h => simp [length_of_grouped h]
  | urn hstart h => simp [length_of_grouped h, length_of_urn hstart]

theorem read_eq_ok_iff : Uuid.read cs = .ok u ↔ u.Spells cs := by
  rw [← spelled?_eq_some_iff, Uuid.read]
  cases spelled? cs <;> simp

end Uuid

end Registrar
