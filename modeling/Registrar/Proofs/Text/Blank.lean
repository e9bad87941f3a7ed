import Registrar.Text.Blank

/-!
What it means to take the white space from both ends of a text.
-/

namespace Registrar.Text

/--
`body` is what is left of a text when white space is taken from both its ends, as much as there is.
-/
structure Trims (cs body : List Char) : Prop where
  around : ∃ before after, cs = before ++ body ++ after ∧ (∀ c ∈ before, isBlank c) ∧
    ∀ c ∈ after, isBlank c
  head : ∀ c, body.head? = some c → isBlank c = false
  last : ∀ c, body.getLast? = some c → isBlank c = false

theorem dropWhile_eq_iff {p : Char → Bool} {cs rest : List Char} :
    cs.dropWhile p = rest ↔
      (∃ before, cs = before ++ rest ∧ ∀ c ∈ before, p c) ∧
        ∀ c, rest.head? = some c → p c = false := by
  constructor
  · rintro rfl
    refine ⟨⟨cs.takeWhile p, List.takeWhile_append_dropWhile.symm, ?_⟩, ?_⟩
    · intro c hc
      exact List.all_eq_true.1 List.all_takeWhile c hc
    · intro c hc
      have hhead := List.head?_dropWhile_not p cs
      rwa [hc] at hhead
  · rintro ⟨⟨before, rfl, hbefore⟩, hhead⟩
    rw [List.dropWhile_append_of_pos hbefore]
    cases rest with
    | nil => rfl
    | cons c rest => rw [List.dropWhile_cons_of_neg (by simp [hhead c rfl])]

theorem trims_trim (cs : List Char) : Trims cs (trim cs) := by
  obtain ⟨⟨before, hcs, hbefore⟩, hhead⟩ := dropWhile_eq_iff.1 (Eq.refl (cs.dropWhile isBlank))
  obtain ⟨⟨after, hrest, hafter⟩, hlast⟩ :=
    dropWhile_eq_iff.1 (Eq.refl ((cs.dropWhile isBlank).reverse.dropWhile isBlank))
  have hbody : cs.dropWhile isBlank = trim cs ++ after.reverse := by
    rw [← List.reverse_reverse (cs.dropWhile isBlank), hrest, List.reverse_append]
    rfl
  refine ⟨⟨before, after.reverse, ?_, hbefore, ?_⟩, ?_, ?_⟩
  · rw [List.append_assoc, ← hbody, ← hcs]
  · intro c hc
    exact hafter c (List.mem_reverse.1 hc)
  · intro c hc
    apply hhead
    rw [hbody, List.head?_append, hc, Option.some_or]
  · intro c hc
    apply hlast
    rwa [trim, List.getLast?_reverse] at hc

theorem Trims.eq_trim {cs body : List Char} (h : Trims cs body) : trim cs = body := by
  obtain ⟨⟨before, after, rfl, hbefore, hafter⟩, hhead, hlast⟩ := h
  rw [trim, List.append_assoc, List.dropWhile_append_of_pos hbefore]
  cases body with
  | nil =>
    have hnone : after.dropWhile isBlank = [] :=
      dropWhile_eq_iff.2 ⟨⟨after, (List.append_nil after).symm, hafter⟩, by simp⟩
    rw [List.nil_append, hnone]
    rfl
  | cons c body =>
    rw [List.cons_append, List.dropWhile_cons_of_neg (by simp [hhead c rfl]), ← List.cons_append,
      List.reverse_append, List.reverse_eq_iff, dropWhile_eq_iff]
    refine ⟨⟨after.reverse, rfl, ?_⟩, ?_⟩
    · intro c hc
      exact hafter c (List.mem_reverse.1 hc)
    · intro c hc
      apply hlast
      rwa [List.head?_reverse] at hc

theorem trim_eq_self {cs : List Char} (h : ∀ c ∈ cs, isBlank c = false) : trim cs = cs := by
  refine Trims.eq_trim ⟨⟨[], [], by simp, by simp, by simp⟩, ?_, ?_⟩
  · intro c hc
    exact h c (List.mem_of_head? hc)
  · intro c hc
    exact h c (List.mem_of_getLast? hc)

theorem trim_eq_iff {cs body : List Char} : trim cs = body ↔ Trims cs body := by
  constructor
  · rintro rfl
    exact trims_trim cs
  · exact Trims.eq_trim

end Registrar.Text
