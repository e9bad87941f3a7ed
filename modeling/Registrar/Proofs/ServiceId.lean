import Registrar.Proofs.Text.Blank
import Registrar.Proofs.Uuid.Spelling
import Registrar.Recipient

/-!
Identifiers and profile keys in their stored form are read back as they were.
-/

namespace Registrar

namespace Uuid

open Text

theorem isBlank_hexDigit (d : Fin 16) : isBlank (hexDigit d.val) = false := by
  revert d
  decide

theorem mem_hyphenate {ds : List Char} {c : Char} (hc : c ∈ hyphenate ds) : c ∈ ds ∨ c = '-' := by
  simp only [hyphenate, List.mem_append, List.mem_cons] at hc
  rcases hc with (((hc | rfl | hc) | rfl | hc) | rfl | hc) | rfl | hc
  · exact Or.inl (List.mem_of_mem_take hc)
  · exact Or.inr rfl
  · exact Or.inl (List.mem_of_mem_drop (List.mem_of_mem_take hc))
  · exact Or.inr rfl
  · exact Or.inl (List.mem_of_mem_drop (List.mem_of_mem_take hc))
  · exact Or.inr rfl
  · exact Or.inl (List.mem_of_mem_drop (List.mem_of_mem_take hc))
  · exact Or.inr rfl
  · exact Or.inl (List.mem_of_mem_drop hc)

theorem isBlank_of_mem_chars {u : Uuid} {c : Char} (hc : c ∈ u.chars) : isBlank c = false := by
  rcases mem_hyphenate hc with hc | rfl
  · obtain ⟨d, _, rfl⟩ := List.mem_map.1 hc
    exact isBlank_hexDigit d
  · rfl

theorem trim_chars (u : Uuid) : trim u.chars = u.chars :=
  trim_eq_self fun _ hc => isBlank_of_mem_chars hc

theorem hexDigit_ne_mark (d : Fin 16) : hexDigit d.val ≠ 'P' := by
  revert d
  decide

theorem not_mark_isPrefixOf_chars (u : Uuid) : ServiceId.mark.isPrefixOf u.chars = false := by
  cases hcs : u.chars with
  | nil => rfl
  | cons c cs =>
    have hc : c ≠ 'P' := by
      rintro rfl
      rcases mem_hyphenate (hcs ▸ List.mem_cons_self : 'P' ∈ u.chars) with hmem | hmem
      · obtain ⟨d, _, hd⟩ := List.mem_map.1 hmem
        exact hexDigit_ne_mark d hd
      · exact absurd hmem (by decide)
    simp [ServiceId.mark, List.isPrefixOf, Ne.symm hc]

theorem read_chars (u : Uuid) : Uuid.read u.chars = .ok u := by
  rw [Uuid.read, u.spelled?_chars]

end Uuid

namespace ServiceId

theorem read_chars (role : Role) {u : Uuid} (hu : u.isNil = false) :
    read role (String.ofList u.chars) = .ok ⟨role, u⟩ := by
  have hbare : bare role u.chars = u.chars := by
    cases role with
    | primary => exact u.trim_chars
    | secondary => simp [bare, u.trim_chars, afterMark?, u.not_mark_isPrefixOf_chars]
  simp [read, String.toList_ofList, hbare, u.read_chars, hu]

theorem ofString_toString {id : ServiceId} (hid : id.uuid.isNil = false) :
    ofString id.toString = .ok id := by
  obtain ⟨role, u⟩ := id
  cases role with
  | primary =>
    have hmark : afterMark? u.chars = none := by
      simp [afterMark?, u.not_mark_isPrefixOf_chars]
    simp only [ofString, toString, Uuid.toString, String.toList_ofList, hmark]
    exact read_chars .primary hid
  | secondary =>
    have hmark : afterMark? (mark ++ u.chars) = some u.chars := by
      simp [afterMark?, mark]
    simp only [ofString, toString, String.toList_ofList, hmark]
    exact read_chars .secondary hid

/-- Only identifiers that are not nil are read. -/
theorem of_read_eq_ok {role : Role} {raw : String} {id : ServiceId} (h : read role raw = .ok id) :
    id.role = role ∧ id.uuid.isNil = false := by
  unfold read at h
  split at h
  · cases h
  · split at h
    · cases h
    · rename_i hnil
      cases h
      exact ⟨rfl, by simpa using hnil⟩

/-! ### Which texts are read -/

/-- What a text leaves for a role: one mark before a secondary identifier does not count. -/
inductive Unmarked : Role → List Char → List Char → Prop
  | primary (cs) : Unmarked .primary cs cs
  | marked (cs) : Unmarked .secondary (mark ++ cs) cs
  | plain {cs} (h : ¬ mark <+: cs) : Unmarked .secondary cs cs

/--
A text names an identifier of a role: within white space and after the mark that the secondary role
allows, it spells the identifier, which is not nil.
-/
structure Names (role : Role) (raw : String) (id : ServiceId) : Prop where
  role_eq : id.role = role
  not_nil : id.uuid.isNil = false
  spelled : ∃ body cs, Text.Trims raw.toList body ∧ Unmarked role body cs ∧ id.uuid.Spells cs

variable {role : Role} {raw : String} {id other : ServiceId} {cs rest : List Char}

theorem afterMark?_eq_some_iff : afterMark? cs = some rest ↔ cs = mark ++ rest := by
  constructor
  · intro h
    rw [afterMark?] at h
    split at h
    · rename_i hmark
      cases h
      obtain ⟨rest, rfl⟩ := List.isPrefixOf_iff_prefix.1 hmark
      rw [List.drop_left]
    · cases h
  · rintro rfl
    rw [afterMark?, if_pos (List.isPrefixOf_iff_prefix.2 (List.prefix_append mark rest)),
      List.drop_left]

theorem afterMark?_eq_none_iff : afterMark? cs = none ↔ ¬ mark <+: cs := by
  rw [afterMark?]
  split
  · rename_i hmark
    simp [List.isPrefixOf_iff_prefix.1 hmark]
  · rename_i hmark
    simpa [List.isPrefixOf_iff_prefix] using hmark

theorem bare_eq_iff : bare role cs = rest ↔ Unmarked role (Text.trim cs) rest := by
  cases role with
  | primary =>
    constructor
    · rintro rfl
      exact .primary _
    · intro h
      cases h
      rfl
  | secondary =>
    rw [bare]
    cases hmark : afterMark? (Text.trim cs) with
    | none =>
      have hplain := afterMark?_eq_none_iff.1 hmark
      constructor
      · rintro rfl
        exact .plain hplain
      · intro h
        generalize Text.trim cs = body at h hplain
        cases h with
        | marked rest => exact absurd (List.prefix_append mark rest) hplain
        | plain _ => rfl
    | some after =>
      have hbody := afterMark?_eq_some_iff.1 hmark
      rw [hbody]
      constructor
      · rintro rfl
        exact .marked _
      · intro h
        generalize hmarked : mark ++ after = body at h
        cases h with
        | marked rest => exact List.append_cancel_left hmarked
        | plain hplain => exact absurd ⟨after, hmarked⟩ hplain

theorem read_eq_ok_iff : read role raw = .ok id ↔ Names role raw id := by
  have hread : read role raw = .ok id ↔
      id.role = role ∧ id.uuid.isNil = false ∧ id.uuid.Spells (bare role raw.toList) := by
    rw [← Uuid.read_eq_ok_iff, read]
    cases Uuid.read (bare role raw.toList) with
    | error cause => simp
    | ok u =>
      obtain ⟨idRole, idUuid⟩ := id
      dsimp only
      by_cases hnil : u.isNil = true
      · rw [if_pos hnil]
        constructor
        · rintro ⟨⟩
        · rintro ⟨-, hu, hspelled⟩
          cases hspelled
          exact absurd hnil (by simp [hu])
      · rw [if_neg hnil]
        constructor
        · rintro ⟨⟩
          exact ⟨rfl, by simpa using hnil, rfl⟩
        · rintro ⟨rfl, -, hspelled⟩
          cases hspelled
          rfl
  rw [hread]
  constructor
  · rintro ⟨hrole, hnil, hspells⟩
    exact ⟨hrole, hnil, _, _, Text.trims_trim raw.toList, bare_eq_iff.1 rfl, hspells⟩
  · rintro ⟨hrole, hnil, body, cs, htrims, hunmarked, hspells⟩
    rw [← htrims.eq_trim] at hunmarked
    rw [bare_eq_iff.2 hunmarked]
    exact ⟨hrole, hnil, hspells⟩

/-! ### The form in storage -/

theorem toList_toString (id : ServiceId) :
    id.toString.toList = match id.role with
      | .primary => id.uuid.chars
      | .secondary => mark ++ id.uuid.chars := by
  obtain ⟨role, u⟩ := id
  cases role <;> simp [toString, Uuid.toString]

theorem toString_inj : id.toString = other.toString ↔ id = other := by
  constructor
  · intro h
    have hchars := congrArg String.toList h
    rw [toList_toString, toList_toString] at hchars
    obtain ⟨role, u⟩ := id
    obtain ⟨role', u'⟩ := other
    have hu := u.length_chars
    have hu' := u'.length_chars
    cases role <;> cases role' <;> dsimp only at hchars
    · rw [Uuid.chars_inj hchars]
    · rw [hchars] at hu
      simp [mark, hu'] at hu
    · rw [← hchars] at hu'
      simp [mark, hu] at hu'
    · rw [Uuid.chars_inj (List.append_cancel_left hchars)]
  · rintro rfl
    rfl

theorem isNil_of_ofString_eq_ok (h : ofString raw = .ok id) : id.uuid.isNil = false := by
  rw [ofString] at h
  split at h <;> exact (of_read_eq_ok h).2

theorem trim_toString (id : ServiceId) : Text.trim id.toString.toList = id.toString.toList := by
  have hmark : ∀ c ∈ mark, Text.isBlank c = false := by simp [mark, Text.isBlank]
  apply Text.trim_eq_self
  intro c hc
  rw [toList_toString] at hc
  split at hc
  · exact Uuid.isBlank_of_mem_chars hc
  · rcases List.mem_append.1 hc with hc | hc
    · exact hmark c hc
    · exact Uuid.isBlank_of_mem_chars hc

/-- The role of an identifier reads its form in storage, too. -/
theorem read_toString (hid : id.uuid.isNil = false) : read id.role id.toString = .ok id := by
  rw [read_eq_ok_iff]
  refine ⟨rfl, hid, _, _, Text.trim_eq_iff.1 id.trim_toString, ?_,
    .grouped id.uuid.map_toLower_chars⟩
  rw [toList_toString]
  obtain ⟨role, u⟩ := id
  cases role with
  | primary => exact .primary _
  | secondary => exact .marked _

/-- With the mark in front a text is too long for an identifier without a frame. -/
theorem exists_error_of_read_primary (u : Uuid) :
    ∃ e, read .primary (toString ⟨.secondary, u⟩) = .error e := by
  cases hread : read .primary (toString ⟨.secondary, u⟩) with
  | error e => exact ⟨e, rfl⟩
  | ok id =>
    obtain ⟨-, -, body, cs, htrims, hunmarked, hspells⟩ := read_eq_ok_iff.1 hread
    have hbody := htrims.eq_trim
    rw [trim_toString, toList_toString] at hbody
    dsimp only at hbody
    subst hbody
    have hlength : (mark ++ u.chars).length = 40 := by simp [mark, u.length_chars]
    cases hunmarked
    have hmem := hspells.length_mem
    rw [hlength] at hmem
    exact absurd hmem (by decide)

theorem error_iff_not_names : (∃ e, read role raw = .error e) ↔ ∀ id, ¬ Names role raw id := by
  constructor
  · rintro ⟨e, he⟩ id hnames
    rw [read_eq_ok_iff.2 hnames] at he
    cases he
  · intro hnone
    cases hread : read role raw with
    | ok id => exact absurd (read_eq_ok_iff.1 hread) (hnone id)
    | error e => exact ⟨e, rfl⟩

/--
A text is read for a role as the identifier that it names, and otherwise the response counts as
malformed. The form in storage tells identifiers apart, is read back unless the identifier is nil,
and is read for the role of the identifier; for the primary role, that of a secondary one is
refused.
-/
theorem reads_exactly_what_names_it (role : Role) (raw : String) (id other : ServiceId) :
    (read role raw = .ok id ↔ Names role raw id) ∧
    ((∀ named, ¬ Names role raw named) ↔
      ∃ detail, (read role raw).mapError Error.failure = .error (.malformedResponse detail)) ∧
    (id.toString = other.toString ↔ id = other) ∧
    (ofString id.toString = .ok id ↔ id.uuid.isNil = false) ∧
    (read id.role id.toString = .ok id ↔ id.uuid.isNil = false) ∧
    ∃ e, read .primary (toString ⟨.secondary, id.uuid⟩) = .error e := by
  refine ⟨read_eq_ok_iff, ?_, toString_inj, ?_, ?_, exists_error_of_read_primary id.uuid⟩
  · rw [← error_iff_not_names]
    cases read role raw with
    | ok found =>
      constructor
      · rintro ⟨e, h⟩
        cases h
      · rintro ⟨detail, h⟩
        cases h
    | error e => exact ⟨fun _ => ⟨_, rfl⟩, fun _ => ⟨e, rfl⟩⟩
  · exact ⟨isNil_of_ofString_eq_ok, ofString_toString⟩
  · exact ⟨fun h => (of_read_eq_ok h).2, read_toString⟩

end ServiceId

theorem readStored_toString {id : ServiceId} (hid : id.uuid.isNil = false) :
    readStored (some id.toString) = some id := by
  simp [readStored, ServiceId.ofString_toString hid, Except.toOption]

theorem ProfileKey.ofHex?_toHex (key : ProfileKey) : ProfileKey.ofHex? key.toHex = some key := by
  simp [ofHex?, toHex, Hex.decode?_encode, ofBytes?, key.length_bytes]

end Registrar
