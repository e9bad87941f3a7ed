import Registrar.Proofs.Registration.Issuing

/-!
What the ledgers point at.

A record is stored before a pointer is set to it, so wherever an attempt stops, the pointers that
are set lead somewhere. And as the last resort of a bundle shares its id with no other key of any
bundle, the record it leads to stays a last resort, whichever bundles are stored afterwards.
-/

namespace Registrar

open Database Registration

/-- What the ledger of a role points at is there, and is what it is taken for. -/
structure Database.Leads (db : Database) (role : Role) : Prop where
  signed : ∃ found, db.Answers (answerLedger role (.pointer .activeSigned)) found ∧
    ∀ n ∈ found, ∃ key : SignedPrekey, key.id = n ∧
      db.Answers (answerKeys role (.signed n)) (some key)
  lastResort : ∃ found, db.Answers (answerLedger role (.pointer .lastResort)) found ∧
    ∀ n ∈ found, ∃ key : KyberPrekey, key.id = n ∧
      db.Answers (answerKeys role (.kyber n)) (some key) ∧
      db.Answers (answerKeys role (.isLastResort n)) true

/-- An attempt brings along bundles that are among those that were made. -/
def Deed.DrawsOn (made : List (PerRole Bundle)) : Deed → Prop
  | generate _ _ => True
  | register a _ => ∀ role, ∃ b ∈ made, a.enrolment.bundles.get role = b.get role

/-- Every attempt of a run brings along bundles that were made before it. -/
def Stocked (suite : Suite) : List (PerRole Bundle) → Device → List Deed → Prop
  | _, _, [] => True
  | made, d, x :: xs => x.DrawsOn made ∧ Stocked suite (made ++ x.made suite d) (x.leave suite d) xs

/-! ### Changes that rest on others -/

/-- A text in a place of a ledger names a record that some changes store. -/
def Ledger.Slot.BackedBy (cs : List Change) (role : Role) (text : String) : Ledger.Slot → Prop
  | .pointer .activeSigned => ∃ key, .signed role key ∈ cs ∧ text = Text.numeral key.id
  | .pointer .lastResort => ∃ key, .kyber role key true ∈ cs ∧ text = Text.numeral key.id
  | _ => True

/-- A pointer is set to what some changes store, and the encapsulation keys are those of bundles. -/
def Change.BackedBy (made : List (PerRole Bundle)) (cs : List Change) : Change → Prop
  | .texts ws => OfAccount ws
  | .ledger role name value => ∃ slot : Ledger.Slot, name = slot.name ∧ slot.BackedBy cs role value
  | .kyber role key true => ∃ b ∈ made, key = (b.get role).lastResort
  | .kyber role key false => ∃ b ∈ made, key ∈ (b.get role).kyber
  | _ => True

/-- Each change of a list is backed by those before it. -/
def Preceded (made : List (PerRole Bundle)) : List Change → List Change → Prop
  | _, [] => True
  | seen, c :: cs => c.BackedBy made seen ∧ Preceded made (seen ++ [c]) cs

section

variable {made made' : List (PerRole Bundle)} {seen cs cs' : List Change} {role : Role}

theorem Change.BackedBy.mono {c : Change} (h : c.BackedBy made cs) (hmade : made ⊆ made')
    (hcs : cs ⊆ cs') : c.BackedBy made' cs' := by
  cases c with
  | texts ws => exact h
  | ledger role name value =>
    obtain ⟨slot, hname, hslot⟩ := h
    refine ⟨slot, hname, ?_⟩
    rcases slot with space | (_ | _) | _
    · trivial
    · obtain ⟨key, hkey, htext⟩ := hslot
      exact ⟨key, hcs hkey, htext⟩
    · obtain ⟨key, hkey, htext⟩ := hslot
      exact ⟨key, hcs hkey, htext⟩
    · trivial
  | kyber role key lastResort =>
    cases lastResort <;>
      · obtain ⟨b, hb, hkey⟩ := h
        exact ⟨b, hmade hb, hkey⟩
  | _ => trivial

theorem preceded_append : Preceded made seen (cs ++ cs') ↔
    Preceded made seen cs ∧ Preceded made (seen ++ cs) cs' := by
  induction cs generalizing seen with
  | nil => simp [Preceded]
  | cons c cs ih => simp [Preceded, ih, and_assoc]

theorem Preceded.initial (h : Preceded made seen cs') (hpre : cs <+: cs') :
    Preceded made seen cs := by
  obtain ⟨rest, rfl⟩ := hpre
  exact (preceded_append.1 h).1

theorem Preceded.backedBy (h : Preceded made seen cs) : ∀ c ∈ cs, c.BackedBy made (seen ++ cs) := by
  intro c hc
  obtain ⟨before, after, rfl⟩ := List.append_of_mem hc
  have hbacked := (preceded_append.1 h).2.1
  apply hbacked.mono (List.Subset.refl _)
  simp

theorem preceded_of_forall (h : ∀ c ∈ cs, c.BackedBy made []) : Preceded made seen cs := by
  induction cs generalizing seen with
  | nil => trivial
  | cons c cs ih =>
    obtain ⟨hc, hcs⟩ := List.forall_mem_cons.1 h
    exact ⟨hc.mono (List.Subset.refl _) (List.nil_subset _), ih hcs⟩

theorem preceded_bundleChanges {b : PerRole Bundle} (hb : b ∈ made) (hlaid : (b.get role).Laid) :
    Preceded made seen (bundleChanges role (b.get role)) := by
  have honeTime : ∀ c ∈ (b.get role).oneTime.map (Change.oneTime role), c.BackedBy made [] := by
    intro c hc
    obtain ⟨key, -, rfl⟩ := List.mem_map.1 hc
    trivial
  have hkyber : ∀ c ∈ (b.get role).kyber.map (Change.kyber role · false), c.BackedBy made [] := by
    intro c hc
    obtain ⟨key, hkey, rfl⟩ := List.mem_map.1 hc
    exact ⟨b, hb, hkey⟩
  refine ⟨trivial, trivial, ⟨.pointer .activeSigned, rfl, (b.get role).signed, by simp, ?_⟩,
    preceded_append.2 ⟨preceded_of_forall honeTime, ⟨b, hb, rfl⟩,
      ⟨.pointer .lastResort, rfl, (b.get role).lastResort, by simp, ?_⟩,
      preceded_append.2 ⟨preceded_of_forall hkyber, ⟨.registered, rfl, trivial⟩, trivial⟩⟩⟩
  · rw [hlaid.signed]
  · rw [hlaid.lastResort]

theorem preceded_plan {suite : Suite} {now : Int64} {aci pni : ServiceId} {e : Enrolment}
    {self : Int} (hbundles : ∀ role, ∃ b ∈ made, e.bundles.get role = b.get role)
    (hlaid : ∀ b ∈ made, ∀ role, (b.get role).Laid) :
    Preceded made seen (plan suite now aci pni e self) := by
  have hbundle (role : Role) (seen : List Change) :
      Preceded made seen (bundleChanges role (e.bundles.get role)) := by
    obtain ⟨b, hb, heq⟩ := hbundles role
    rw [heq]
    exact preceded_bundleChanges hb (hlaid b hb role)
  have hserviceId (id : ServiceId) : (serviceIdChange id).BackedBy made [] :=
    List.forall_mem_singleton.2 ⟨.serviceId id.role, rfl⟩
  have hclaim : ∀ c ∈ claimChanges (e.ownEntry aci pni) self, c.BackedBy made [] := by
    intro c hc
    obtain ⟨step, -, rfl⟩ := List.mem_map.1 hc
    trivial
  have haccount : ∀ c ∈ accountChanges e, c.BackedBy made [] := by
    simp [accountChanges, Change.BackedBy, OfAccount]
  have hcommit : (Change.texts commitTexts).BackedBy made [] := by
    simp [Change.BackedBy, OfAccount, commitTexts]
  have hone {c : Change} {seen : List Change} (hc : c.BackedBy made []) : Preceded made seen [c] :=
    preceded_of_forall (List.forall_mem_singleton.2 hc)
  simp only [plan, preparing, preceded_append]
  -- Only within the bundles does one change rest on another.
  exact ⟨⟨hone (hserviceId aci), hone (hserviceId pni), ⟨hone trivial, hone trivial⟩, hone trivial,
    ⟨hbundle .primary _, hbundle .secondary _⟩, preceded_of_forall hclaim, hone trivial,
    preceded_of_forall haccount, hone trivial, hone trivial⟩, hone hcommit⟩

end

/-! ### Reading what changes have left -/

section

variable {made : List (PerRole Bundle)} {cs : List Change} {role : Role}

theorem exists_mem_of_slot? {slot : Ledger.Slot} {text : String}
    (h : (({} : Database).after cs).slot? role slot = some text) :
    ∃ c ∈ cs, (slotKey role slot, some text) ∈ c.textRows := by
  have hfind : (Table.lastWrite (slotKey role slot) (cs.flatMap Change.textRows)).getD none =
      some text := by
    rw [← h]
    exact (Table.find?_writeAll ∅ _ _).symm
  cases hlast : Table.lastWrite (slotKey role slot) (cs.flatMap Change.textRows) with
  | none =>
    rw [hlast] at hfind
    cases hfind
  | some v =>
    rw [hlast] at hfind
    obtain rfl : v = some text := hfind
    exact List.mem_flatMap.1 (Table.mem_of_lastWrite hlast)

theorem backedBy_of_slot? (hcs : ∀ c ∈ cs, c.BackedBy made cs) {slot : Ledger.Slot} {text : String}
    (h : (({} : Database).after cs).slot? role slot = some text) : slot.BackedBy cs role text := by
  obtain ⟨c, hc, hrow⟩ := exists_mem_of_slot? h
  have hbacked := hcs c hc
  cases c with
  | texts ws =>
    obtain ⟨entry, hentry⟩ := hbacked _ hrow
    exact absurd hentry.symm (key_ne_ledgerKey entry role _)
  | ledger role' name value =>
    obtain ⟨slot', rfl, hslot⟩ := hbacked
    obtain ⟨hkey, hvalue⟩ := Prod.mk.inj (List.mem_singleton.1 hrow)
    obtain ⟨rfl, rfl⟩ := slotKey_inj.1 hkey
    cases hvalue
    exact hslot
  | _ => cases hrow

theorem exists_row_of_mem {κ ν : Type} [DecidableEq κ] {f : Change → List (κ × Option ν)}
    {c : Change} {k : κ} {v : Option ν} (hc : c ∈ cs) (hrow : (k, v) ∈ f c) :
    ∃ v', ((∅ : Table κ ν).writeAll (cs.flatMap f)).find? k = v' ∧ ∃ c' ∈ cs, (k, v') ∈ f c' := by
  have hkey : k ∈ (cs.flatMap f).map Prod.fst :=
    List.mem_map_of_mem (List.mem_flatMap.2 ⟨c, hc, hrow⟩)
  obtain ⟨v', hv'⟩ := Option.isSome_iff_exists.1 (Table.lastWrite_isSome_iff.2 hkey)
  refine ⟨v', ?_, List.mem_flatMap.1 (Table.mem_of_lastWrite hv')⟩
  rw [Table.find?_writeAll, hv', Option.getD_some]

theorem exists_signed_of_mem {key : SignedPrekey} (h : .signed role key ∈ cs) :
    ∃ key' : SignedPrekey, key'.id = key.id ∧
      (({} : Database).after cs).Answers (answerKeys role (.signed key.id)) (some key') := by
  obtain ⟨v, hfind, c, -, hrow⟩ :=
    exists_row_of_mem (f := Change.signedRows) h (List.mem_singleton_self _)
  cases c with
  | signed role' key' =>
    obtain ⟨hkey, hv⟩ := Prod.mk.inj (List.mem_singleton.1 hrow)
    obtain ⟨rfl, hid⟩ := Prod.mk.inj hkey
    rw [hv, hid] at hfind
    rw [hid]
    exact ⟨key', rfl, answers_signed rfl hfind⟩
  | _ => cases hrow

theorem exists_kyber_of_mem {key : KyberPrekey} {lastResort : Bool}
    (h : .kyber role key lastResort ∈ cs) :
    ∃ key' lastResort', key'.id = key.id ∧ .kyber role key' lastResort' ∈ cs ∧
      (({} : Database).after cs).Answers (answerKeys role (.kyber key.id)) (some key') ∧
      (({} : Database).after cs).Answers (answerKeys role (.isLastResort key.id)) lastResort' := by
  obtain ⟨v, hfind, c, hc, hrow⟩ :=
    exists_row_of_mem (f := Change.kyberRows) h (List.mem_singleton_self _)
  cases c with
  | kyber role' key' lastResort' =>
    obtain ⟨hkey, hv⟩ := Prod.mk.inj (List.mem_singleton.1 hrow)
    obtain ⟨rfl, hid⟩ := Prod.mk.inj hkey
    rw [hv, hid] at hfind
    rw [hid]
    exact ⟨key', lastResort', rfl, hc, answers_kyber rfl hfind⟩
  | _ => cases hrow

/-- No key for one use of any bundle has the id of a last resort. -/
theorem id_ne_of_nodup (hnodup : (made.flatMap fun b => (b.get role).ids .kyber).Nodup)
    {b b' : PerRole Bundle} (hb : b ∈ made) (hb' : b' ∈ made) {key : KyberPrekey}
    (hkey : key ∈ (b'.get role).kyber) : key.id ≠ (b.get role).lastResort.id := by
  have hid : key.id ∈ (b'.get role).kyber.map KyberPrekey.id := List.mem_map_of_mem hkey
  obtain ⟨hone, htwo⟩ := List.nodup_flatMap.1 hnodup
  intro heq
  by_cases hsame : b = b'
  · subst hsame
    exact (List.nodup_cons.1 (hone b hb)).1 (heq ▸ hid)
  · have : Std.Symm (Function.onFun List.Disjoint fun b : PerRole Bundle =>
        (b.get role).ids .kyber) := ⟨fun _ _ h _ hid hid' => h hid' hid⟩
    have hdisjoint := htwo.forall hb hb' hsame
    exact hdisjoint List.mem_cons_self (List.mem_cons_of_mem _ (heq ▸ hid))

theorem leads_after (hcs : ∀ c ∈ cs, c.BackedBy made cs)
    (hnodup : (made.flatMap fun b => (b.get role).ids .kyber).Nodup) :
    (({} : Database).after cs).Leads role := by
  have hopen : (({} : Database).after cs).Open := open_empty.after cs
  have hanswers (p : Ledger.Pointer) {found : Option UInt32}
      (h : (({} : Database).after cs).slot? role (.pointer p) = found.map Text.numeral) :
      (({} : Database).after cs).Answers (answerLedger role (.pointer p)) found :=
    Query.mapError_eq_ok.2 (hopen.readNumber_eq role (.pointer p) h)
  constructor
  · cases htext : (({} : Database).after cs).slot? role (.pointer .activeSigned) with
    | none => exact ⟨none, hanswers .activeSigned htext, fun n hn => by cases hn⟩
    | some text =>
      obtain ⟨key, hkey, rfl⟩ := backedBy_of_slot? hcs htext
      refine ⟨some key.id, hanswers .activeSigned htext, fun n hn => ?_⟩
      cases hn
      exact exists_signed_of_mem hkey
  · cases htext : (({} : Database).after cs).slot? role (.pointer .lastResort) with
    | none => exact ⟨none, hanswers .lastResort htext, fun n hn => by cases hn⟩
    | some text =>
      obtain ⟨key, hkey, rfl⟩ := backedBy_of_slot? hcs htext
      refine ⟨some key.id, hanswers .lastResort htext, fun n hn => ?_⟩
      cases hn
      obtain ⟨key', lastResort, hid, hmem, hread, hmark⟩ := exists_kyber_of_mem hkey
      cases lastResort with
      | true => exact ⟨key', hid, hread, hmark⟩
      | false =>
        -- The row would have been overwritten by a key for one use, which has another id.
        obtain ⟨b, hb, rfl⟩ := hcs _ hkey
        obtain ⟨b', hb', hkey'⟩ := hcs _ hmem
        exact absurd hid (id_ne_of_nodup hnodup hb hb' hkey')

end

/-! ### Runs -/

/-- What the stored data of a device rests on, when some bundles were made for it. -/
structure Device.RestsOn (d : Device) (made : List (PerRole Bundle)) : Prop where
  ids : ∃ log, d.CountsTo log ∧ Orderly [] log ∧ ∀ role space,
    (made.flatMap fun b => (b.get role).ids space).Sublist (handedOut role space log)
  laid : ∀ b ∈ made, ∀ role, (b.get role).Laid
  changes : ∃ cs, d.database = ({} : Database).after cs ∧ ∀ c ∈ cs, c.BackedBy made cs

section

variable {suite : Suite} {d : Device} {made : List (PerRole Bundle)} {x : Deed} {xs : List Deed}

theorem restsOn_fresh (entropy : Entropy) : (Device.fresh entropy).RestsOn [] where
  ids := ⟨[], countsTo_fresh entropy, trivial, fun _ _ => List.Sublist.refl _⟩
  laid _ hb := by cases hb
  changes := ⟨[], (after_nil _).symm, fun c hc => by cases hc⟩

theorem laid_of_made {b : PerRole Bundle} (hb : b ∈ x.made suite d) (role : Role) :
    (b.get role).Laid := by
  cases x with
  | generate p c =>
    have hanswer := eq_ok_of_answerOf? (Option.mem_toList.1 hb)
    exact (made_of_generateBoth hanswer role).laid
  | register a c => cases hb

theorem Device.RestsOn.leads (h : d.RestsOn made) (role : Role) : d.database.Leads role := by
  obtain ⟨log, -, horderly, hsublist⟩ := h.ids
  obtain ⟨cs, hdatabase, hcs⟩ := h.changes
  rw [hdatabase]
  apply leads_after hcs
  have hgrows := (horderly.pairwise_handedOut role .kyber).sublist (hsublist role .kyber)
  exact hgrows.imp UInt32.ne_of_lt

theorem backedBy_leave (suite : Suite) (hmemory : d.memory = none)
    (hlaid : ∀ b ∈ made, ∀ role, (b.get role).Laid) (hx : x.DrawsOn made) :
    ∃ cs, (x.leave suite d).database = d.database.after cs ∧ ∀ c ∈ cs, c.BackedBy made cs := by
  cases x with
  | generate p c =>
    obtain ⟨cs, hcs, hreached⟩ := counted_generateBoth suite p c.now (d.under c)
    refine ⟨cs, (hreached.of_under hmemory).2, fun change hchange => ?_⟩
    obtain ⟨role, space, value, rfl⟩ := hcs change hchange
    exact ⟨.counter space, rfl, trivial⟩
  | register a c =>
    cases hids : confirmed a.response.confirmation with
    | error f =>
      rw [Deed.leave, leave_of_confirmed_error hids]
      exact ⟨[], (after_nil _).symm, fun change hchange => by cases hchange⟩
    | ok ids =>
      obtain ⟨done, hdone, d₁, events, hreached, hleave⟩ := exists_done_of_leave suite d c hids
      rw [Deed.leave, hleave]
      refine ⟨done, (hreached.of_under hmemory).2, ?_⟩
      have hpreceded : Preceded made [] done := (preceded_plan hx hlaid).initial hdone
      simpa using hpreceded.backedBy

theorem Device.RestsOn.leave (h : d.RestsOn made) (hx : x.DrawsOn made) :
    (x.leave suite d).RestsOn (made ++ x.made suite d) := by
  obtain ⟨log, hcounts, horderly, hsublist⟩ := h.ids
  obtain ⟨hleave, hmore⟩ := countsTo_leave suite hcounts (.deed x)
  obtain ⟨cs, hdatabase, hcs⟩ := h.changes
  obtain ⟨cs', hdatabase', hcs'⟩ := backedBy_leave suite hcounts.memory h.laid hx
  have hmade : made ⊆ made ++ x.made suite d := List.subset_append_left _ _
  refine ⟨⟨_, hleave, horderly.append (by simpa using hmore), fun role space => ?_⟩, ?_,
    cs ++ cs', ?_, ?_⟩
  · rw [List.flatMap_append, handedOut_append]
    exact (hsublist role space).append (sublist_made suite d (.deed x) role space)
  · intro b hb role
    rcases List.mem_append.1 hb with hb | hb
    · exact h.laid b hb role
    · exact laid_of_made hb role
  · rw [hdatabase', hdatabase, after_append]
  · intro c hc
    rcases List.mem_append.1 hc with hc | hc
    · exact (hcs c hc).mono hmade (List.subset_append_left _ _)
    · exact (hcs' c hc).mono hmade (List.subset_append_right _ _)

theorem Device.RestsOn.leads_having (h : d.RestsOn made) (hstocked : Stocked suite made d xs)
    (role : Role) : (d.having suite xs).database.Leads role := by
  induction xs generalizing d made with
  | nil => exact h.leads role
  | cons x xs ih => exact ih (h.leave hstocked.1) hstocked.2

end

/--
In a run from a fresh device in which every attempt brings along bundles that were made before it,
the pointers that are set lead to records, however the attempts end.
-/
theorem leads_of_stocked {suite : Suite} {entropy : Entropy} {deeds : List Deed}
    (h : Stocked suite [] (Device.fresh entropy) deeds) (role : Role) :
    ((Device.fresh entropy).having suite deeds).database.Leads role :=
  (restsOn_fresh entropy).leads_having h role

namespace Sample

theorem leave_generate :
    (Deed.generate provisioner calm).leave Suite.standard (.fresh entropy) = device := rfl

theorem made_later : (Deed.generate provisioner calm).made Suite.standard device = [later] := by
  rw [Deed.made]
  exact congrArg Option.toList answerOf?_later

/-- The disk is full when the pointer to the signed prekey is to be set. -/
def halfway : Circumstances := ⟨accepting, 0, [], List.replicate 7 none ++ [some .diskFull]⟩

/-- An account is registered with the newer bundles, and then the older ones are stored halfway. -/
def returned : List Deed :=
  [.generate provisioner calm, .generate provisioner calm, .register newer calm,
    .register attempt halfway]

theorem made_bundles_fresh :
    (Deed.generate provisioner calm).made Suite.standard (.fresh entropy) = [bundles] := by
  rw [Deed.made]
  exact congrArg Option.toList answerOf?_generateBoth

theorem stocked_returned : Stocked Suite.standard [] (.fresh entropy) returned := by
  rw [returned, Stocked, Stocked, Stocked, Stocked, Stocked, leave_generate, made_bundles_fresh,
    made_later]
  refine ⟨trivial, trivial, fun role => ⟨later, ?_, rfl⟩, fun role => ⟨bundles, ?_, rfl⟩, trivial⟩
  · exact List.mem_cons_of_mem _ List.mem_cons_self
  · exact List.mem_cons_self

end Sample

/-- The last resort is still that of the newer bundles. -/
theorem leads_of_stocked_returned :
    ∃ key : KyberPrekey, key.id = 3 ∧
      ((Device.fresh Sample.entropy).having Suite.standard Sample.returned).database.Answers
        (answerKeys .primary (.kyber 3)) (some key) ∧
      ((Device.fresh Sample.entropy).having Suite.standard Sample.returned).database.Answers
        (answerKeys .primary (.isLastResort 3)) true := by
  obtain ⟨found, hfound, hkey⟩ := (leads_of_stocked Sample.stocked_returned .primary).lastResort
  have hpointer : (answerLedger .primary (.pointer .lastResort)
      ((Device.fresh Sample.entropy).having Suite.standard Sample.returned).database).map Prod.fst =
        .ok (some 3) := by
    decide +kernel
  rw [hfound] at hpointer
  exact hkey 3 (Except.ok.inj hpointer)

end Registrar
