import Registrar.Proofs.Bytes.Hex
import Registrar.Proofs.Registration.KnownKey

/-!
Profile keys as text.

A key is read from sixty-four hexadecimal digits in either case, and from nothing else. In a row of
the directory every other text stands for no key, and spoils nothing else in the row.
-/

namespace Registrar

open Database Text

namespace ProfileKey

variable {s : String} {key : ProfileKey}

/-- A text of sixty-four hexadecimal digits, in either case. -/
structure Spelling (s : String) : Prop where
  length : s.toList.length = 64
  digits : ∀ c ∈ s.toList, IsHexDigit c

theorem ofBytes?_eq_some_iff {bytes : Bytes} : ofBytes? bytes = some key ↔ bytes = key.bytes := by
  rw [ofBytes?]
  split
  · rw [Option.some.injEq, ProfileKey.ext_iff]
  · rename_i hlength
    refine iff_of_false (Option.some_ne_none key).symm ?_
    rintro rfl
    exact hlength key.length_bytes

theorem toList_toLower (s : String) : s.toLower.toList = s.toList.map Char.toLower :=
  String.toList_map

/-- A key is read from the text that it is written as, in either case. -/
theorem ofHex?_eq_some_iff : ofHex? s = some key ↔ s.toLower = key.toHex := by
  have hlower : s.toLower = key.toHex ↔ s.toList.map Char.toLower = Hex.digits key.bytes := by
    rw [String.ext_iff, toList_toLower, toHex, Hex.encode, String.toList_ofList]
  simp only [hlower, ← Hex.ofDigits?_eq_some_iff, ofHex?, Hex.decode?, Option.bind_eq_some_iff,
    ofBytes?_eq_some_iff, exists_eq_right]

theorem isSome_ofHex?_iff : (ofHex? s).isSome ↔ Spelling s := by
  have hdigits : (ofHex? s).isSome ↔
      ∃ bytes, Hex.ofDigits? s.toList = some bytes ∧ bytes.length = 32 := by
    rw [Option.isSome_iff_exists]
    simp only [ofHex?, Hex.decode?, Option.bind_eq_some_iff, ofBytes?_eq_some_iff]
    constructor
    · rintro ⟨key, bytes, hbytes, rfl⟩
      exact ⟨key.bytes, hbytes, key.length_bytes⟩
    · rintro ⟨bytes, hbytes, hlength⟩
      exact ⟨⟨bytes, hlength⟩, bytes, hbytes, rfl⟩
  rw [hdigits, Hex.exists_ofDigits?_iff]
  exact ⟨fun h => ⟨h.1, h.2⟩, fun h => ⟨h.length, h.digits⟩⟩

theorem ofHex?_eq_none (h : ¬ Spelling s) : ofHex? s = none := by
  rwa [← isSome_ofHex?_iff, Option.not_isSome_iff_eq_none] at h

/-! ### Rows with other texts -/

section

variable {d : Device} {t : RecipientRows} {row : RecipientRow} {i : Int} {e164 : String}

theorem keyAt_eq_of_find? (hrow : (t.rows.find? fun row => row.id = i) = some row) :
    t.keyAt i = row.profileKey.bind ofHex? := by
  rw [RecipientRows.keyAt, hrow]
  rfl

/-- A phone number without a key gets a fresh one, and the database stays as it is. -/
theorem profileKey_of_keyOf_eq_none (houtages : d.outages = [])
    (ht : d.database.recipients = some t) (hnone : t.keyOf e164 = none) :
    Device.profileKey e164 d =
      .ok (draw d.entropy).1 { d with entropy := (draw d.entropy).2 } := by
  rw [Device.profileKey, act_bind_eq, knownProfileKey_eq houtages ht, hnone]
  rfl

end

/--
Keys are read from sixty-four hexadecimal digits, which are those that the key is written with, in
either case. A row that has any other text for a key is shown without one, and apart from that as it
would be with any text or none; and its phone number counts as one for which no key is known.
-/
theorem reads_exactly_its_digits :
    (∀ key : ProfileKey, ofHex? key.toHex = some key) ∧
    (∀ s, (ofHex? s).isSome ↔ Spelling s) ∧
    (∀ s key, ofHex? s = some key → key.toHex = s.toLower) ∧
    ∀ (d : Device) (t : RecipientRows) (i : Int) (row : RecipientRow) (text : String),
      d.outages = [] → d.database.recipients = some t →
      (t.rows.find? fun row => row.id = i) = some row →
      row.profileKey = some text → ¬ Spelling text →
      (∃ r, Device.consult (recipient i) d = .ok (some r) d ∧ r.profileKey = none ∧
        ∀ other, Recipient.ofRow { row with profileKey := other } =
          { r with profileKey := other.bind ofHex? }) ∧
      ∀ e164, t.find .e164 e164 = some i →
        Device.knownProfileKey e164 d = .ok none d ∧
        Device.profileKey e164 d =
          .ok (draw d.entropy).1 { d with entropy := (draw d.entropy).2 } := by
  refine ⟨ofHex?_toHex, fun _ => isSome_ofHex?_iff, fun _ _ h => (ofHex?_eq_some_iff.1 h).symm, ?_⟩
  intro d t i row text houtages ht hrow htext hspelling
  have hnone : row.profileKey.bind ofHex? = none := by
    rw [htext, Option.bind_some, ofHex?_eq_none hspelling]
  constructor
  · have hrecord : d.database.Answers (recipient i) (some (Recipient.ofRow row)) := by
      rw [Answers, recipient_eq ht, hrow]
      rfl
    exact ⟨Recipient.ofRow row, consult_eq houtages hrecord, hnone, fun _ => rfl⟩
  · intro e164 hphone
    have hkey : t.keyOf e164 = none := by
      rw [RecipientRows.keyOf, hphone, Option.bind_some, keyAt_eq_of_find? hrow, hnone]
    refine ⟨?_, profileKey_of_keyOf_eq_none houtages ht hkey⟩
    rw [knownProfileKey_eq houtages ht, hkey]

end ProfileKey

namespace Sample

/-- Sixty-four bytes of text, but the last two are one character and no digits. -/
def spoiledText : String := "07070707070707070707070707070707070707070707070707070707070707é"

theorem not_spelling_spoiledText : ¬ ProfileKey.Spelling spoiledText := by
  intro h
  have hdigit := isHexDigit_iff.1 (h.digits 'é' (by decide +kernel))
  cases hdigit

def spoiledRow : RecipientRow :=
  { id := 1, e164 := some "+15550100", registered := 1, profileKey := some spoiledText }

def spoiled : Device :=
  let d := Device.fresh ⟨fun _ => 0, 0⟩
  { d with database := { d.database with recipients := some ⟨[spoiledRow], 1⟩ } }

end Sample

theorem ProfileKey.reads_exactly_its_digits_spoiled :
    ∃ r, Device.consult (recipient 1) Sample.spoiled = .ok (some r) Sample.spoiled ∧
      r.profileKey = none ∧ r.registered = true ∧
      Device.knownProfileKey "+15550100" Sample.spoiled = .ok none Sample.spoiled := by
  obtain ⟨-, -, -, hspoiled⟩ := reads_exactly_its_digits
  obtain ⟨⟨r, hrecord, hnone, hfields⟩, hphone⟩ :=
    hspoiled Sample.spoiled ⟨[Sample.spoiledRow], 1⟩ 1 Sample.spoiledRow Sample.spoiledText
      rfl rfl rfl rfl Sample.not_spelling_spoiledText
  have hregistered : r.registered = true := (congrArg Recipient.registered (hfields none)).symm
  exact ⟨r, hrecord, hnone, hregistered, (hphone "+15550100" (by decide +kernel)).1⟩

end Registrar
