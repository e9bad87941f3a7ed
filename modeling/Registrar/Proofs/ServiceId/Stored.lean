import Mathlib.Data.List.DropRight
import Registrar.Proofs.ServiceId

/-!
Two readers of identifiers: the one for a role, and the one for storage, where the mark tells the
role.

The one for storage takes the mark off first and leaves the rest to the other, which takes white
space and one more mark off. So there are texts that are read from storage and for no role: those
where white space or a second mark comes after the mark.
-/

namespace Registrar

open Text

/-! ### White space after a mark -/

theorem Text.trim_of_head {cs : List Char} (h : ∀ c, cs.head? = some c → isBlank c = false) :
    trim cs = cs.rdropWhile isBlank := by
  have hnone : cs.dropWhile isBlank = cs := dropWhile_eq_iff.2 ⟨⟨[], rfl, by simp⟩, h⟩
  rw [trim, hnone]
  rfl

namespace ServiceId

variable {role : Role} {raw other : String} {id : ServiceId} {cs rest : List Char}

/-- The mark stops the search for white space from the end. -/
theorem trim_mark_append (rest : List Char) :
    trim (mark ++ rest) = mark ++ rest.rdropWhile isBlank := by
  have hhead : ∀ c, (mark ++ rest).head? = some c → isBlank c = false := by
    intro c hc
    obtain rfl : 'P' = c := Option.some.inj hc
    rfl
  rw [trim_of_head hhead, List.rdropWhile, List.reverse_append, List.dropWhile_append]
  -- The search passes the whole rest, or ends within it.
  split
  · rename_i hempty
    have hrest : rest.rdropWhile isBlank = [] := by
      rw [List.rdropWhile, List.isEmpty_iff.1 hempty, List.reverse_nil]
    rw [hrest]
    rfl
  · rw [List.reverse_append, List.reverse_reverse]
    rfl

/-! ### Texts that are marked loosely -/

/-- After the mark of a text comes white space, or a second mark. -/
inductive LooselyMarked : List Char → Prop
  | spaced {c : Char} (after : List Char) (h : isBlank c) : LooselyMarked (mark ++ c :: after)
  | twice (after : List Char) : LooselyMarked (mark ++ (mark ++ after))

theorem bare_mark_append (rest : List Char) :
    bare .secondary (mark ++ rest) = rest.rdropWhile isBlank := by
  rw [bare, trim_mark_append, afterMark?_eq_some_iff.2 rfl, Option.getD_some]

/-- Behind a mark that is not a loose one nothing is taken off but white space at the end. -/
theorem bare_of_not_looselyMarked (h : ¬ LooselyMarked (mark ++ rest)) :
    bare .secondary rest = rest.rdropWhile isBlank := by
  have htrim : trim rest = rest.rdropWhile isBlank := by
    apply trim_of_head
    intro c hc
    obtain ⟨rest', rfl⟩ := List.head?_eq_some_iff.1 hc
    by_contra hblank
    exact h (.spaced rest' (by simpa using hblank))
  have hmark : ¬ mark <+: rest.rdropWhile isBlank := by
    intro hmark
    obtain ⟨rest', rfl⟩ := hmark.trans (List.rdropWhile_prefix isBlank rest)
    exact h (.twice rest')
  rw [bare, htrim, afterMark?_eq_none_iff.2 hmark, Option.getD_none]

end ServiceId

/-! ### The characters of a spelling -/

theorem Text.isBlank_eq_false {c : Char} (hlow : 33 ≤ c.toNat) (hhigh : c.toNat ≤ 126) :
    isBlank c = false := by
  grind [isBlank]

theorem Text.isBlank_toLower (c : Char) : isBlank c.toLower = isBlank c := by
  have htoLower := toNat_toLower c
  split at htoLower
  · rw [isBlank_eq_false (by omega) (by omega), isBlank_eq_false (by omega) (by omega)]
  · simp only [isBlank, htoLower]

namespace Uuid

variable {u : Uuid} {cs : List Char} {c : Char}

theorem of_mem_digits {ds : List (Fin 16)} (hc : c ∈ ds.map fun d => hexDigit d.val) :
    isBlank c = false ∧ c ≠ 'p' := by
  have hdigit : ∀ d : Fin 16, isBlank (hexDigit d.val) = false ∧ hexDigit d.val ≠ 'p' := by decide
  obtain ⟨d, -, rfl⟩ := List.mem_map.1 hc
  exact hdigit d

theorem of_mem_chars (hc : c ∈ u.chars) : isBlank c = false ∧ c ≠ 'p' := by
  rcases mem_hyphenate hc with hc | rfl
  · exact of_mem_digits hc
  · decide

/-- A spelling holds neither white space nor the letter that a mark starts with. -/
theorem Spells.of_mem (h : u.Spells cs) (hc : c ∈ cs) : isBlank c = false ∧ c ≠ 'P' := by
  have hlower {cs' : List Char} (hc : c ∈ cs')
      (h : ∀ c' ∈ cs'.map Char.toLower, isBlank c' = false ∧ c' ≠ 'p') :
      isBlank c = false ∧ c ≠ 'P' := by
    obtain ⟨hblank, hp⟩ := h c.toLower (List.mem_map_of_mem hc)
    refine ⟨(isBlank_toLower c).symm.trans hblank, ?_⟩
    rintro rfl
    exact hp rfl
  cases h with
  | plain h => exact hlower hc fun _ hc' => of_mem_digits (h ▸ hc')
  | grouped h => exact hlower hc fun _ hc' => of_mem_chars (h ▸ hc')
  | @braced cs h =>
    rcases List.mem_cons.1 hc with rfl | hc
    · decide
    · rcases List.mem_append.1 hc with hc | hc
      · exact hlower hc fun _ hc' => of_mem_chars (h ▸ hc')
      · obtain rfl := List.mem_singleton.1 hc
        decide
  | urn hstart h =>
    rcases List.mem_append.1 hc with hc | hc
    · have hprefix : ∀ c' ∈ "urn:uuid:".toList, isBlank c' = false ∧ c' ≠ 'p' := by simp [isBlank]
      exact hlower hc fun c' hc' => hprefix c' (hstart ▸ hc')
    · exact hlower hc fun _ hc' => of_mem_chars (h ▸ hc')

theorem Spells.exists_head (h : u.Spells cs) :
    ∃ c, cs.head? = some c ∧ isBlank c = false ∧ c ≠ 'P' := by
  cases cs with
  | nil => exact absurd h.length_mem (by decide)
  | cons c cs => exact ⟨c, rfl, h.of_mem List.mem_cons_self⟩

end Uuid

namespace ServiceId

variable {role : Role} {raw other : String} {id : ServiceId} {rest : List Char}

/-! ### Which texts both read -/

theorem read_eq_ok_congr (h : bare role raw.toList = bare role other.toList) :
    read role raw = .ok id ↔ read role other = .ok id := by
  rw [read, read, h]
  cases Uuid.read (bare role other.toList) with
  | error cause => simp
  | ok u => rfl

theorem spells_bare (h : read role raw = .ok id) : id.uuid.Spells (bare role raw.toList) := by
  obtain ⟨-, -, body, cs, htrims, hunmarked, hspells⟩ := read_eq_ok_iff.1 h
  rw [← htrims.eq_trim] at hunmarked
  rwa [bare_eq_iff.2 hunmarked]

/-- A role that reads a text with a mark takes the mark off, and nothing else in front. -/
theorem of_read_mark_append (hraw : raw.toList = mark ++ rest) (h : read role raw = .ok id) :
    role = .secondary ∧ ∃ c, rest.head? = some c ∧ isBlank c = false ∧ c ≠ 'P' := by
  have hspells := spells_bare h
  rw [hraw] at hspells
  obtain ⟨c, hhead, hblank, hp⟩ := hspells.exists_head
  cases role with
  | primary =>
    rw [bare, trim_mark_append] at hhead
    exact absurd (Option.some.inj hhead).symm hp
  | secondary =>
    rw [bare_mark_append] at hhead
    refine ⟨rfl, c, ?_, hblank, hp⟩
    obtain ⟨after, hafter⟩ := List.rdropWhile_prefix isBlank rest
    rw [← hafter, List.head?_append, hhead, Option.some_or]

/-- A text that is marked loosely is refused for either role. -/
theorem exists_error_of_looselyMarked (h : LooselyMarked raw.toList) (role : Role) :
    ∃ e, read role raw = .error e := by
  cases hread : read role raw with
  | error e => exact ⟨e, rfl⟩
  | ok id =>
    generalize hraw : raw.toList = cs at h
    cases h with
    | spaced after hblank =>
      obtain ⟨-, c, hc, hnot, -⟩ := of_read_mark_append hraw hread
      cases hc
      rw [hblank] at hnot
      cases hnot
    | twice after =>
      obtain ⟨-, c, hc, -, hp⟩ := of_read_mark_append hraw hread
      exact absurd (Option.some.inj hc).symm hp

theorem ofString_of_mark_append (hraw : raw.toList = mark ++ rest) :
    ofString raw = read .secondary (String.ofList rest) := by
  rw [ofString, afterMark?_eq_some_iff.2 hraw]

theorem ofString_of_not_marked (hraw : ¬ mark <+: raw.toList) :
    ofString raw = read .primary raw := by
  rw [ofString, afterMark?_eq_none_iff.2 hraw]

/-- Behind a mark that is not a loose one both readers find the same. -/
theorem ofString_eq_ok_iff_of_mark_append (hraw : raw.toList = mark ++ rest)
    (hloose : ¬ LooselyMarked raw.toList) :
    ofString raw = .ok id ↔ read .secondary raw = .ok id := by
  rw [ofString_of_mark_append hraw]
  rw [hraw] at hloose
  apply read_eq_ok_congr
  rw [String.toList_ofList, hraw, bare_mark_append, bare_of_not_looselyMarked hloose]

/--
What is read from storage is read by its role from the same text, unless the text is marked loosely;
then neither role reads it. The other way round, what a role reads is read from storage unless it
belongs to the secondary role and the text has no mark at its very start.
-/
theorem readers_agree_iff (raw : String) (id : ServiceId) :
    (ofString raw = .ok id → (read id.role raw = .ok id ↔ ¬ LooselyMarked raw.toList)) ∧
    (LooselyMarked raw.toList → ∀ role, ∃ e, read role raw = .error e) ∧
    (read id.role raw = .ok id →
      (ofString raw = .ok id ↔ id.role = .primary ∨ mark <+: raw.toList)) := by
  have hrefused (role : Role) (hread : read role raw = .ok id) : ¬ LooselyMarked raw.toList := by
    intro hloose
    obtain ⟨e, he⟩ := exists_error_of_looselyMarked hloose role
    rw [hread] at he
    cases he
  refine ⟨fun hstored => ⟨hrefused id.role, fun hloose => ?_⟩, exists_error_of_looselyMarked,
    fun hread => ?_⟩
  · by_cases hmark : mark <+: raw.toList
    · obtain ⟨rest, hraw⟩ := hmark
      have hrole : id.role = .secondary := by
        rw [ofString_of_mark_append hraw.symm] at hstored
        exact (of_read_eq_ok hstored).1
      rw [hrole]
      exact (ofString_eq_ok_iff_of_mark_append hraw.symm hloose).1 hstored
    · rw [ofString_of_not_marked hmark] at hstored
      rwa [(of_read_eq_ok hstored).1]
  · by_cases hmark : mark <+: raw.toList
    · obtain ⟨rest, hraw⟩ := hmark
      have hrole := (of_read_mark_append hraw.symm hread).1
      rw [hrole] at hread
      exact iff_of_true
        ((ofString_eq_ok_iff_of_mark_append hraw.symm (hrefused _ hread)).2 hread)
        (Or.inr ⟨rest, hraw⟩)
    · rw [ofString_of_not_marked hmark]
      constructor
      · intro hprimary
        exact Or.inl (of_read_eq_ok hprimary).1
      · rintro (hrole | hmarked)
        · rwa [hrole] at hread
        · exact absurd hmarked hmark

theorem readers_agree_iff_spaced :
    ∃ id : ServiceId, id.toString = "PNI:22222222-2222-2222-2222-222222222222" ∧
      ofString "PNI: 22222222-2222-2222-2222-222222222222" = .ok id ∧
      read id.role "PNI: 22222222-2222-2222-2222-222222222222" ≠ .ok id := by
  let id : ServiceId := ⟨.secondary, ⟨List.replicate 32 2, rfl⟩⟩
  have hstored : ofString "PNI: 22222222-2222-2222-2222-222222222222" = .ok id := rfl
  refine ⟨id, rfl, hstored, fun hread => ?_⟩
  obtain ⟨hagree, -⟩ := readers_agree_iff "PNI: 22222222-2222-2222-2222-222222222222" id
  exact (hagree hstored).1 hread (.spaced (c := ' ') _ rfl)

/-- A second mark is taken off where a text is read from storage, and for no role. -/
theorem not_read_marked_twice :
    ∃ id : ServiceId, id.toString = "PNI:22222222-2222-2222-2222-222222222222" ∧
      ofString "PNI:PNI:22222222-2222-2222-2222-222222222222" = .ok id ∧
      read id.role "PNI:PNI:22222222-2222-2222-2222-222222222222" =
        .error (.invalid .secondary "PNI:PNI:22222222-2222-2222-2222-222222222222"
          (.character 'P' 0)) :=
  ⟨⟨.secondary, ⟨List.replicate 32 2, rfl⟩⟩, rfl, rfl, rfl⟩

end ServiceId

end Registrar
