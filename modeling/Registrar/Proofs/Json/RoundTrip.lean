import Mathlib.Data.List.Forall2
import Registrar.Json.Format
import Registrar.Proofs.Json.Tokens

/-!
Documents that were written are read back.

`Reads r j` says that the reader `r` gives back `j` from its text, wherever a value may stand. It is
proved once for each way to build a reader, so the round trip of a type follows from its fields.
-/

namespace Registrar.Json

open Text

def Reads (r : Reader) (j : Json) : Prop :=
  ∀ rest, Closes rest → r (j.render ++ rest) = .ok (j, rest)

/-- The first character of a written value neither is white space nor closes a list. -/
theorem render_eq_cons (j : Json) :
    ∃ c cs, j.render = c :: cs ∧ isBlank c = false ∧ c ≠ ']' := by
  cases j with
  | null => exact ⟨_, _, rfl, rfl, by decide⟩
  | bool b => cases b <;> exact ⟨_, _, rfl, rfl, by decide⟩
  | number n =>
    rw [render, renderNumber]
    split
    · exact ⟨_, _, rfl, rfl, by decide⟩
    · cases hds : Nat.toDigits 10 n.natAbs with
      | nil => exact absurd hds Nat.toDigits_ne_nil
      | cons c cs =>
        have hc : c.isDigit = true :=
          Nat.isDigit_of_mem_toDigits (by decide) (by decide) (hds ▸ List.mem_cons_self)
        refine ⟨c, cs, rfl, ?_, ?_⟩
        · have hdigit := Char.isDigit_iff_toNat.1 hc
          cases hblank : isBlank c with
          | false => rfl
          | true =>
            simp only [isBlank, Bool.or_eq_true, decide_eq_true_eq] at hblank
            rcases hblank with ((rfl | rfl) | rfl) | rfl <;> exact absurd hc (by decide)
        · rintro rfl
          exact absurd hc (by decide)
  | string s => exact ⟨_, _, by rw [render, renderString], rfl, by decide⟩
  | array items => exact ⟨_, _, by rw [render], rfl, by decide⟩
  | object members => exact ⟨_, _, by rw [render], rfl, by decide⟩

theorem skipBlanks_render (j : Json) (rest : List Char) :
    skipBlanks (j.render ++ rest) = j.render ++ rest := by
  obtain ⟨c, cs, hj, hc, _⟩ := render_eq_cons j
  rw [hj, List.cons_append, skipBlanks_cons hc]

namespace Reads

theorem integer {expected : String} {low high n : Int} (hn : low ≤ n ∧ n ≤ high)
    (hlow : Int64.minValue.toInt ≤ low) (hhigh : high < UInt64.size) :
    Reads (Reader.integer expected low high) (.number n) := by
  intro rest hr
  have hread := readNumber_renderNumber (n := n) (by omega) (by omega) hr
  have hskip := skipBlanks_render (.number n) rest
  have hhead : ∃ c cs, renderNumber n = c :: cs ∧
      (c = '-' || (decimalValue? c).isSome) = true := by
    rw [renderNumber]
    split
    · exact ⟨_, _, rfl, rfl⟩
    · cases hds : Nat.toDigits 10 n.natAbs with
      | nil => exact absurd hds Nat.toDigits_ne_nil
      | cons c cs =>
        have hc : c.isDigit = true :=
          Nat.isDigit_of_mem_toDigits (by decide) (by decide) (hds ▸ List.mem_cons_self)
        exact ⟨c, cs, rfl, by simp [decimalValue?_of_isDigit hc]⟩
  obtain ⟨c, cs, hcs, hc⟩ := hhead
  rw [render, hcs] at hskip ⊢
  rw [hcs] at hread
  rw [List.cons_append] at hskip hread ⊢
  simp only [Reader.integer, hskip, hc, hread, hn, and_self, if_true]

theorem text {expected : String} {accept : List Char → Except Error (List Char)} {s : String}
    (h : accept s.toList = .ok s.toList) : Reads (Reader.text expected accept) (.string s) := by
  intro rest _
  have hskip := skipBlanks_render (.string s) rest
  rw [render, renderString] at hskip ⊢
  have hstring := readString_flatMap_escapeChar s.toList rest
  simp only [List.cons_append, List.append_assoc, List.nil_append] at hskip hstring ⊢
  simp only [Reader.text, hskip, hstring, h, Except.map, String.ofList_toList]

theorem boolean (b : Bool) : Reads Reader.boolean (.bool b) := by
  intro rest _
  have hskip := skipBlanks_render (.bool b) rest
  cases b with
  | false =>
    simp only [render, List.cons_append, List.nil_append] at hskip ⊢
    simp [Reader.boolean, hskip, readWord, Except.map]
  | true =>
    simp only [render, List.cons_append, List.nil_append] at hskip ⊢
    simp [Reader.boolean, hskip, readWord, Except.map]

/-- One of several names is written as a string. -/
theorem choice {names : List String} {name : String} (h : name ∈ names) :
    Reads (Reader.choice names) (.string name) := by
  intro rest hrest
  have hname : Reads (Reader.variantName names) (.string name) :=
    text (by rw [if_pos (by rwa [String.ofList_toList])])
  have hread := hname rest hrest
  have hskip := skipBlanks_render (.string name) rest
  rw [render, renderString, List.cons_append] at hskip hread ⊢
  simp only [Reader.choice, hskip, hread]

/-! ### Values that may be absent -/

theorem null (value : Reader) : Reads (Reader.nullable value) .null := by
  intro rest _
  have hskip := skipBlanks_render .null rest
  simp only [render, List.cons_append, List.nil_append] at hskip ⊢
  simp [Reader.nullable, hskip, readWord, Except.map]

theorem nullable {value : Reader} {j : Json} (h : Reads value j) (hj : j.render.head? ≠ some 'n') :
    Reads (Reader.nullable value) j := by
  intro rest hrest
  have hskip := skipBlanks_render j rest
  have hread := h rest hrest
  obtain ⟨c, cs, hcs, -, -⟩ := render_eq_cons j
  rw [hcs] at hj hskip hread ⊢
  have hc : c ≠ 'n' := fun heq => hj (congrArg some heq)
  rw [List.cons_append] at hskip hread ⊢
  rw [Reader.nullable, hskip]
  split
  · rename_i heq
    exact absurd (List.cons.inj heq).1 hc
  · exact hread

theorem ofOption {α : Type} {value : Reader} {write : α → Json} (h : ∀ a, Reads value (write a))
    (hwrite : ∀ a, (write a).render.head? ≠ some 'n') (o : Option α) :
    Reads (Reader.nullable value) (ofOption write o) := by
  cases o with
  | none => exact null value
  | some a => exact nullable (h a) (hwrite a)

/-! ### Lists -/

/-- What stands after the elements before `items` in a list. -/
def tailText : List Json → List Char
  | [] => []
  | j :: items => ',' :: renderItems (j :: items)

theorem renderItems_cons (j : Json) (items : List Json) :
    renderItems (j :: items) = j.render ++ tailText items := by
  cases items with
  | nil => simp [renderItems, tailText]
  | cons k items => rw [renderItems, tailText]

theorem closes_tailText (items : List Json) (rest : List Char) :
    Closes (tailText items ++ ']' :: rest) := by
  cases items with
  | nil => exact Or.inr (Or.inl rfl)
  | cons j items => exact Or.inl rfl

theorem length_le_length_renderItems (items : List Json) :
    items.length ≤ (renderItems items).length := by
  induction items with
  | nil => exact Nat.zero_le _
  | cons j items ih =>
    obtain ⟨c, cs, hj, _, _⟩ := render_eq_cons j
    cases items with
    | nil => simp [renderItems, hj]
    | cons k items =>
      rw [renderItems]
      simp only [List.length_cons, List.length_append, hj] at ih ⊢
      omega

theorem nextElement_first (j : Json) (rest : List Char) :
    Reader.nextElement true (j.render ++ rest) = .ok (some (j.render ++ rest)) := by
  obtain ⟨c, cs, hj, hc, hbracket⟩ := render_eq_cons j
  rw [hj, List.cons_append, Reader.nextElement, skipBlanks_cons hc]
  simp

theorem nextElement_later (j : Json) (rest : List Char) :
    Reader.nextElement false (',' :: (j.render ++ rest)) = .ok (some (j.render ++ rest)) := by
  obtain ⟨c, cs, hj, hc, hbracket⟩ := render_eq_cons j
  have hcomma : skipBlanks (',' :: c :: (cs ++ rest)) = ',' :: c :: (cs ++ rest) :=
    skipBlanks_cons rfl _
  rw [hj, List.cons_append]
  simp [Reader.nextElement, hcomma, skipBlanks_cons hc, hbracket]

theorem elements_tailText {item : Reader} {items : List Json} (h : ∀ j ∈ items, Reads item j)
    {fuel : Nat} (hfuel : items.length < fuel) (rest : List Char) :
    Reader.elements item fuel false (tailText items ++ ']' :: rest)
      = .ok (items, ']' :: rest) := by
  induction items generalizing fuel with
  | nil =>
    obtain ⟨fuel, rfl⟩ := Nat.exists_eq_succ_of_ne_zero (by omega : fuel ≠ 0)
    have hskip : skipBlanks (']' :: rest) = ']' :: rest := skipBlanks_cons rfl rest
    simp [tailText, Reader.elements, Reader.nextElement, hskip]
  | cons j items ih =>
    obtain ⟨fuel, rfl⟩ := Nat.exists_eq_succ_of_ne_zero (by omega : fuel ≠ 0)
    have hj := h j List.mem_cons_self _ (closes_tailText items rest)
    have hitems := ih (fun k hk => h k (List.mem_cons_of_mem j hk))
      (by simpa using hfuel)
    rw [tailText, renderItems_cons, List.cons_append, List.append_assoc, Reader.elements,
      nextElement_later]
    simp only [hj, hitems, Except.map]

theorem closeList_cons (rest : List Char) : Reader.closeList (']' :: rest) = .ok rest := by
  have hskip : skipBlanks (']' :: rest) = ']' :: rest := skipBlanks_cons rfl rest
  simp [Reader.closeList, hskip]

theorem list {item : Reader} {items : List Json} (h : ∀ j ∈ items, Reads item j) :
    Reads (Reader.list item) (.array items) := by
  intro rest _
  have hskip : skipBlanks ('[' :: (renderItems items ++ ']' :: rest))
      = '[' :: (renderItems items ++ ']' :: rest) := skipBlanks_cons rfl _
  have hlength := length_le_length_renderItems items
  have helements : Reader.elements item ((renderItems items ++ ']' :: rest).length + 1) true
      (renderItems items ++ ']' :: rest) = .ok (items, ']' :: rest) := by
    cases items with
    | nil =>
      have hskip : skipBlanks (']' :: rest) = ']' :: rest := skipBlanks_cons rfl rest
      simp [renderItems, Reader.elements, Reader.nextElement, hskip]
    | cons j items =>
      have hj := h j List.mem_cons_self _ (closes_tailText items rest)
      have hfuel : items.length < (renderItems (j :: items) ++ ']' :: rest).length := by
        simp only [List.length_cons, List.length_append] at hlength ⊢
        omega
      have hitems := elements_tailText (fun k hk => h k (List.mem_cons_of_mem j hk)) hfuel rest
      rw [Reader.elements]
      rw [renderItems_cons, List.append_assoc] at hitems ⊢
      rw [nextElement_first]
      simp only [hj, hitems, Except.map]
  rw [render, List.cons_append, List.append_assoc, List.singleton_append]
  simp only [Reader.list, hskip, helements, closeList_cons, Except.map]

theorem fixedElements_tailText {item : Reader} (expected : String) {items : List Json}
    (h : ∀ j ∈ items, Reads item j) {done : Nat} (hdone : 0 < done) (rest : List Char) :
    Reader.fixedElements item expected done items.length (tailText items ++ ']' :: rest)
      = .ok (items, ']' :: rest) := by
  induction items generalizing done with
  | nil => rfl
  | cons j items ih =>
    have hj := h j List.mem_cons_self _ (closes_tailText items rest)
    have hitems := ih (fun k hk => h k (List.mem_cons_of_mem j hk)) (Nat.succ_pos done)
    have hfirst : decide (done = 0) = false := decide_eq_false (by omega)
    rw [tailText, renderItems_cons, List.cons_append, List.append_assoc, List.length_cons,
      Reader.fixedElements, hfirst, nextElement_later]
    simp only [hj, hitems, Except.map]

theorem fixedList {item : Reader} {items : List Json} (h : ∀ j ∈ items, Reads item j) :
    Reads (Reader.fixedList item items.length) (.array items) := by
  intro rest _
  have hskip : skipBlanks ('[' :: (renderItems items ++ ']' :: rest))
      = '[' :: (renderItems items ++ ']' :: rest) := skipBlanks_cons rfl _
  have helements (expected : String) : Reader.fixedElements item expected 0 items.length
      (renderItems items ++ ']' :: rest) = .ok (items, ']' :: rest) := by
    cases items with
    | nil => rfl
    | cons j items =>
      have hj := h j List.mem_cons_self _ (closes_tailText items rest)
      have hitems := fixedElements_tailText expected
        (fun k hk => h k (List.mem_cons_of_mem j hk)) Nat.one_pos rest
      rw [renderItems_cons, List.append_assoc, List.length_cons, Reader.fixedElements,
        decide_eq_true rfl, nextElement_first]
      simp only [hj, hitems, Except.map]
  rw [render, List.cons_append, List.append_assoc, List.singleton_append]
  simp only [Reader.fixedList, hskip, helements, closeList_cons, Except.map]

/-! ### Records -/

/-- What stands after the members before `ms` in an object. -/
def laterMembers : List (String × Json) → List Char
  | [] => []
  | m :: ms => ',' :: renderMembers (m :: ms)

theorem renderMembers_cons (name : String) (j : Json) (ms : List (String × Json)) :
    renderMembers ((name, j) :: ms)
      = renderString name ++ ':' :: (j.render ++ laterMembers ms) := by
  cases ms with
  | nil => simp [renderMembers, laterMembers]
  | cons m ms => rw [renderMembers, laterMembers]

theorem closes_laterMembers (ms : List (String × Json)) (rest : List Char) :
    Closes (laterMembers ms ++ '}' :: rest) := by
  cases ms with
  | nil => exact Or.inr (Or.inr rfl)
  | cons m ms => exact Or.inl rfl

theorem length_le_length_renderMembers (ms : List (String × Json)) :
    ms.length ≤ (renderMembers ms).length := by
  induction ms with
  | nil => exact Nat.zero_le _
  | cons m ms ih =>
    obtain ⟨name, j⟩ := m
    rw [renderMembers_cons]
    cases ms with
    | nil => simp [renderString]
    | cons m ms =>
      simp only [laterMembers, List.length_cons, List.length_append] at ih ⊢
      omega

theorem colon_cons (cs : List Char) : Reader.colon (':' :: cs) = .ok cs := by
  have hskip : skipBlanks (':' :: cs) = ':' :: cs := skipBlanks_cons rfl cs
  simp [Reader.colon, hskip]

theorem lookup_eq_none_of_not_mem {ms : List (String × Json)} {name : String}
    (h : name ∉ ms.map Prod.fst) : ms.lookup name = none := by
  rw [List.lookup_eq_none_iff]
  intro m hm
  have hne : name ≠ m.1 := fun heq => h (heq ▸ List.mem_map_of_mem hm)
  simpa using hne

/-- One member of a record, after the quote that opens its name. -/
theorem members_step {fields : List Reader.Field} {field : Reader.Field} {name : String} {j : Json}
    (hfield : fields.find? (·.name = name) = some field) (hj : Reads field.value j)
    {found : List (String × Json)} (hnew : name ∉ found.map Prod.fst) {first : Bool} {fuel : Nat}
    {cs : List Char} (ms : List (String × Json)) (rest : List Char)
    (hnext : Reader.nextName first cs = .ok (some (name.toList.flatMap escapeChar
      ++ '"' :: ':' :: (j.render ++ (laterMembers ms ++ '}' :: rest))))) :
    Reader.members fields (fuel + 1) first found cs
      = Reader.members fields fuel false (found ++ [(name, j)]) (laterMembers ms ++ '}' :: rest) := by
  have hname := readString_flatMap_escapeChar name.toList
    (':' :: (j.render ++ (laterMembers ms ++ '}' :: rest)))
  have hvalue := hj _ (closes_laterMembers ms rest)
  have hlookup := lookup_eq_none_of_not_mem hnew
  rw [Reader.members]
  simp only [hnext, hname, String.ofList_toList, hfield, hlookup, Option.isSome_none,
    Bool.false_eq_true, if_false, colon_cons, Except.bind, hvalue]

theorem members_laterMembers {fields : List Reader.Field} {ms found : List (String × Json)}
    (h : ∀ m ∈ ms, ∃ field, fields.find? (·.name = m.1) = some field ∧ Reads field.value m.2)
    (hnodup : ((found ++ ms).map Prod.fst).Nodup) {fuel : Nat} (hfuel : ms.length < fuel)
    (rest : List Char) :
    Reader.members fields fuel false found (laterMembers ms ++ '}' :: rest)
      = .ok (found ++ ms, '}' :: rest) := by
  induction ms generalizing found fuel with
  | nil =>
    obtain ⟨fuel, rfl⟩ := Nat.exists_eq_succ_of_ne_zero (by omega : fuel ≠ 0)
    have hskip : skipBlanks ('}' :: rest) = '}' :: rest := skipBlanks_cons rfl rest
    simp [laterMembers, Reader.members, Reader.nextName, hskip]
  | cons m ms ih =>
    obtain ⟨fuel, rfl⟩ := Nat.exists_eq_succ_of_ne_zero (by omega : fuel ≠ 0)
    obtain ⟨name, j⟩ := m
    obtain ⟨field, hfield, hj⟩ := h (name, j) List.mem_cons_self
    have hnew : name ∉ found.map Prod.fst := by
      rw [List.map_append, List.nodup_append] at hnodup
      intro hmem
      exact hnodup.2.2 name hmem name List.mem_cons_self rfl
    have hcomma (cs : List Char) : skipBlanks (',' :: cs) = ',' :: cs := skipBlanks_cons rfl cs
    have hquote (cs : List Char) : skipBlanks ('"' :: cs) = '"' :: cs := skipBlanks_cons rfl cs
    rw [members_step hfield hj hnew ms rest]
    · have hassoc : found ++ (name, j) :: ms = (found ++ [(name, j)]) ++ ms := by simp
      rw [hassoc] at hnodup ⊢
      exact ih (fun m hm => h m (List.mem_cons_of_mem _ hm)) hnodup (by simpa using hfuel)
    · rw [laterMembers, renderMembers_cons, renderString]
      simp [Reader.nextName, hcomma, hquote]

/-- The members are the values of the fields, in their order. -/
def Fits (fields : List Reader.Field) (ms : List (String × Json)) : Prop :=
  List.Forall₂ (fun field m => field.name = m.1 ∧ Reads field.value m.2) fields ms

theorem Fits.exists_field {fields : List Reader.Field} {ms : List (String × Json)}
    (h : Fits fields ms) (hnodup : (ms.map Prod.fst).Nodup) {m : String × Json} (hm : m ∈ ms) :
    ∃ field, fields.find? (·.name = m.1) = some field ∧ Reads field.value m.2 := by
  induction h with
  | nil => exact absurd hm List.not_mem_nil
  | @cons field first fields ms hfirst _ ih =>
    rw [List.map_cons, List.nodup_cons] at hnodup
    rcases List.mem_cons.1 hm with rfl | hm
    · exact ⟨field, by simp [hfirst.1], hfirst.2⟩
    · obtain ⟨other, hother, hreads⟩ := ih hnodup.2 hm
      have hne : field.name ≠ m.1 := fun heq =>
        hnodup.1 (hfirst.1 ▸ heq ▸ List.mem_map_of_mem hm)
      exact ⟨other, by simp [hne, hother], hreads⟩

theorem lookup_eq_some_of_mem {ms : List (String × Json)} (hnodup : (ms.map Prod.fst).Nodup)
    {m : String × Json} (hm : m ∈ ms) : ms.lookup m.1 = some m.2 := by
  induction ms with
  | nil => exact absurd hm List.not_mem_nil
  | cons first ms ih =>
    obtain ⟨name, value⟩ := first
    rw [List.map_cons, List.nodup_cons] at hnodup
    rcases List.mem_cons.1 hm with rfl | hm
    · exact List.lookup_cons_self
    · have hne : (m.1 == name) = false :=
        beq_eq_false_iff_ne.2 fun heq => hnodup.1 (List.mem_map.2 ⟨m, hm, heq⟩)
      simp only [List.lookup_cons, hne, ih hnodup.2 hm]

theorem Fits.complete {fields : List Reader.Field} {ms found : List (String × Json)}
    (h : Fits fields ms) (hfound : ∀ m ∈ ms, found.lookup m.1 = some m.2) :
    Reader.complete found fields = .ok ms := by
  induction h with
  | nil => rfl
  | @cons field first fields ms hfirst _ ih =>
    have hhead := hfound first List.mem_cons_self
    have htail := ih fun m hm => hfound m (List.mem_cons_of_mem first hm)
    simp only [Reader.complete, hfirst.1, hhead, htail]
    rfl

theorem record {name : String} {fields : List Reader.Field} {ms : List (String × Json)}
    (hfits : Fits fields ms) (hnodup : (ms.map Prod.fst).Nodup) :
    Reads (Reader.record name fields) (.object ms) := by
  have h := fun m (hm : m ∈ ms) => hfits.exists_field hnodup hm
  have hcomplete := hfits.complete fun m hm => lookup_eq_some_of_mem hnodup hm
  intro rest _
  have hskip : skipBlanks ('{' :: (renderMembers ms ++ '}' :: rest))
      = '{' :: (renderMembers ms ++ '}' :: rest) := skipBlanks_cons rfl _
  have hend : skipBlanks ('}' :: rest) = '}' :: rest := skipBlanks_cons rfl rest
  have hlength := length_le_length_renderMembers ms
  have hmembers : Reader.members fields ((renderMembers ms ++ '}' :: rest).length + 1) true []
      (renderMembers ms ++ '}' :: rest) = .ok (ms, '}' :: rest) := by
    cases ms with
    | nil => simp [renderMembers, Reader.members, Reader.nextName, hend]
    | cons m ms =>
      obtain ⟨name, j⟩ := m
      obtain ⟨field, hfield, hj⟩ := h (name, j) List.mem_cons_self
      have hquote (cs : List Char) : skipBlanks ('"' :: cs) = '"' :: cs := skipBlanks_cons rfl cs
      rw [members_step hfield hj List.not_mem_nil ms rest]
      · have hfuel : ms.length < (renderMembers ((name, j) :: ms) ++ '}' :: rest).length := by
          simp only [List.length_cons, List.length_append] at hlength ⊢
          omega
        have hlater := fun m hm => h m (List.mem_cons_of_mem _ hm)
        exact members_laterMembers hlater hnodup hfuel rest
      · rw [renderMembers_cons, renderString]
        simp [Reader.nextName, hquote]
  rw [render, List.cons_append, List.append_assoc, List.singleton_append]
  simp only [Reader.record, hskip, hmembers, hcomplete, hend, List.drop_succ_cons, List.drop_zero]

end Reads

/-! ### Types -/

/-- A type whose values are read back from their documents. -/
structure RoundTrips (α : Type) [Format α] : Prop where
  reads (a : α) : Reads (Format.reader α) (Format.toJson a)
  ofJson?_toJson (a : α) : Format.ofJson? (Format.toJson a) = some a

theorem RoundTrips.decode_encode {α : Type} [Format α] (h : RoundTrips α) (a : α) :
    decode α (encode a) = .ok a := by
  have hread := h.reads a [] trivial
  rw [List.append_nil] at hread
  simp [decode, encode, Reader.whole, hread, skipBlanks, h.ofJson?_toJson a]

/-- One member of a record is found, its value is read, and the others are read after it. -/
theorem member_eq_some {α β : Type} {member : Option Json} {read : Json → Option α}
    {rest : α → Option β} {j : Json} {a : α} {b : β} (hmember : member = some j)
    (hread : read j = some a) (hrest : rest a = some b) :
    (member >>= fun j => read j >>= rest) = some b := by
  rw [hmember, Option.bind_eq_bind, Option.bind_some, hread]
  exact hrest

theorem RoundTrips.reads_list {α : Type} [Format α] (h : RoundTrips α) (as : List α) :
    Reads (Reader.list (Format.reader α)) (ofList as) := by
  apply Reads.list
  intro j hj
  obtain ⟨a, _, rfl⟩ := List.mem_map.1 hj
  exact h.reads a

theorem RoundTrips.toList?_ofList {α : Type} [Format α] (h : RoundTrips α) (as : List α) :
    toList? (ofList as) = some as := by
  induction as with
  | nil => rfl
  | cons a as ih =>
    simp only [toList?, ofList, List.map_cons, List.mapM_cons, h.ofJson?_toJson] at ih ⊢
    simp [ih]

theorem toUInt32?_ofUInt32 (n : UInt32) : toUInt32? (ofUInt32 n) = some n := by
  have hn := n.toNat_lt
  simp [toUInt32?, ofUInt32, UInt32.size]
  omega

theorem toInt64?_ofInt64 (n : Int64) : toInt64? (ofInt64 n) = some n := by
  have hlow := n.minValue_le_toInt
  have hhigh := n.toInt_le
  simp only [toInt64?, ofInt64, hlow, hhigh, and_self, if_true, Int64.ofInt_toInt]

theorem toByte?_ofByte (b : UInt8) : toByte? (ofByte b) = some b := by
  have hb := b.toNat_lt
  simp [toByte?, ofByte, UInt8.size]
  omega

theorem toBytes?_ofBytes (bytes : Bytes) : toBytes? (ofBytes bytes) = some bytes := by
  induction bytes with
  | nil => rfl
  | cons b bytes ih =>
    simp only [toBytes?, ofBytes, List.map_cons, List.mapM_cons, toByte?_ofByte] at ih ⊢
    simp [ih]

theorem reads_u32 (n : UInt32) : Reads Reader.u32 (ofUInt32 n) := by
  have hn := n.toNat_lt
  refine Reads.integer ⟨by omega, ?_⟩ (by decide) (by decide)
  simp [UInt32.size]
  omega

theorem reads_i64 (n : Int64) : Reads Reader.i64 (ofInt64 n) :=
  Reads.integer ⟨n.minValue_le_toInt, n.toInt_le⟩ (by decide) (by decide)

theorem reads_u8 (b : UInt8) : Reads Reader.u8 (ofByte b) := by
  have hb := b.toNat_lt
  refine Reads.integer ⟨by omega, ?_⟩ (by decide) (by decide)
  simp [UInt8.size]
  omega

theorem reads_of_mem_bytes {bytes : Bytes} {j : Json} (hj : j ∈ bytes.map ofByte) :
    Reads Reader.u8 j := by
  obtain ⟨b, _, rfl⟩ := List.mem_map.1 hj
  exact reads_u8 b

theorem reads_bytes (bytes : Bytes) : Reads Reader.bytes (ofBytes bytes) :=
  Reads.list fun _ hj => reads_of_mem_bytes hj

end Registrar.Json
