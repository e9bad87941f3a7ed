import Registrar.Proofs.Prekey.Counting
import Registrar.Proofs.Registration.Retry

/-!
What a registration leaves, row by row.

After a whole plan every row of it stands. It goes on standing while ids are handed out, and while
the same registration is made again, however far that comes: what is written then is there already.
-/

namespace Registrar

open Database Registration

/-! ### Rows that are there -/

section

variable {κ ν : Type} [DecidableEq κ]

/-- The row of a key in a table, if there is such a table. -/
def rowOf (t : Option (Table κ ν)) (k : κ) : Option ν := t.bind (·.find? k)

/-- A row is the one it was, or one that was written. -/
theorem rowOf_writeAll_cases (t : Option (Table κ ν)) (ws : List (κ × Option ν)) (k : κ) :
    rowOf (t.map (·.writeAll ws)) k = rowOf t k ∨
      (k, rowOf (t.map (·.writeAll ws)) k) ∈ ws := by
  cases t with
  | none => exact Or.inl rfl
  | some t =>
    have hfind : rowOf (some (t.writeAll ws)) k =
        (Table.lastWrite k ws).getD (rowOf (some t) k) := t.find?_writeAll ws k
    rw [Option.map_some, hfind]
    cases hlast : Table.lastWrite k ws with
    | none => exact Or.inl rfl
    | some written => exact Or.inr (Table.mem_of_lastWrite hlast)

/-- What some writes are to leave is found in a table. -/
def Shows (t : Option (Table κ ν)) (ws : List (κ × Option ν)) : Prop :=
  ∀ w ∈ ws, ∃ t', t = some t' ∧ t'.find? w.1 = w.2

variable {t : Option (Table κ ν)} {ws ws' : List (κ × Option ν)}

/-- Writes that are there already change nothing. -/
theorem Shows.writeAll_eq (h : Shows t ws) (hsub : ws' ⊆ ws) : t.map (·.writeAll ws') = t := by
  cases t with
  | none => rfl
  | some t =>
    rw [Option.map_some, Table.writeAll_eq_self]
    intro w hw
    obtain ⟨t', ht', hfind⟩ := h w (hsub hw)
    cases ht'
    exact hfind

theorem Shows.writeAll_other (h : Shows t ws) (hother : ∀ w ∈ ws, w.1 ∉ ws'.map Prod.fst) :
    Shows (t.map (·.writeAll ws')) ws := by
  intro w hw
  obtain ⟨t', rfl, hfind⟩ := h w hw
  exact ⟨_, rfl, by rw [Table.find?_writeAll_of_not_mem (hother w hw), hfind]⟩

namespace Change.Allowed

variable {db : Database} {c : Change}

theorem isSome_keyValues (hc : c.Allowed db) (hne : c.textRows ≠ []) :
    (db.keyValues.map KeyValues.values).isSome := by
  rw [Option.isSome_map]
  cases c with
  | texts ws =>
    obtain ⟨kv, hkv, -⟩ := hc
    rw [hkv, Option.isSome_some]
  | ledger role name value =>
    obtain ⟨kv, hkv, -⟩ := hc
    rw [hkv, Option.isSome_some]
  | _ => exact absurd rfl hne

theorem isSome_ownIdentities (hc : c.Allowed db) (hne : c.ownRows ≠ []) :
    db.ownIdentities.isSome := by
  cases c with
  | ownIdentity role key => exact hc
  | _ => exact absurd rfl hne

theorem isSome_signed (hc : c.Allowed db) (hne : c.signedRows ≠ []) : db.signed.isSome := by
  cases c with
  | signed role key => exact hc
  | _ => exact absurd rfl hne

theorem isSome_oneTime (hc : c.Allowed db) (hne : c.oneTimeRows ≠ []) : db.oneTime.isSome := by
  cases c with
  | oneTime role key => exact hc
  | _ => exact absurd rfl hne

theorem isSome_kyber (hc : c.Allowed db) (hne : c.kyberRows ≠ []) : db.kyber.isSome := by
  cases c with
  | kyber role key lastResort => exact hc
  | _ => exact absurd rfl hne

theorem isSome_identities (hc : c.Allowed db) (hne : c.identityRows ≠ []) :
    db.identities.isSome := by
  cases c with
  | identity role address record => exact hc
  | _ => exact absurd rfl hne

end Change.Allowed

/-- The rows of some changes are found after them, if none is written twice. -/
theorem shows_rows {db : Database} {cs : List Change} {f : Change → List (κ × Option ν)}
    (hallowed : ∀ c ∈ cs, c.Allowed db) (hf : ∀ c : Change, c.Allowed db → f c ≠ [] → t.isSome)
    (hnodup : ((cs.flatMap f).map Prod.fst).Nodup) :
    Shows (t.map (·.writeAll (cs.flatMap f))) (cs.flatMap f) := by
  intro w hw
  obtain ⟨c, hc, hwc⟩ := List.mem_flatMap.1 hw
  obtain ⟨t', rfl⟩ := Option.isSome_iff_exists.1 (hf c (hallowed c hc) (List.ne_nil_of_mem hwc))
  exact ⟨_, rfl, Table.find?_writeAll_of_mem hnodup hw⟩

end

/--
The rows of a registration are there. Only of the times of our own identities nothing is said.
-/
structure Standing (suite : Suite) (aci pni : ServiceId) (e : Enrolment) (id : Int)
    (db : Database) : Prop where
  texts : ∀ now, Shows (db.keyValues.map KeyValues.values)
    ((plan suite now aci pni e id).flatMap Change.textRows)
  own : ∀ now, Shows db.ownIdentities ((plan suite now aci pni e id).flatMap Change.ownRows)
  signed : ∀ now, Shows db.signed ((plan suite now aci pni e id).flatMap Change.signedRows)
  oneTime : ∀ now, Shows db.oneTime ((plan suite now aci pni e id).flatMap Change.oneTimeRows)
  kyber : ∀ now, Shows db.kyber ((plan suite now aci pni e id).flatMap Change.kyberRows)
  identities : ∃ t, db.identities = some t ∧ ∀ role, ∃ time, t.find? (role, toString id) =
    some (IdentityRow.ofRecord (selfRecord suite time (e.bundles.get role).identity))
  recipients : ∃ t, db.recipients = some t ∧ t.Underway (e.ownEntry aci pni) id ∧
    t.settle (e.ownEntry aci pni) id = t

/-! ### Every row is written once -/

theorem nodup_both {ν : Type} {ws ws' : List ((Role × UInt32) × Option ν)} {ids ids' : List UInt32}
    (hws : ws.map Prod.fst = ids.map (Role.primary, ·)) (hids : ids.Nodup)
    (hws' : ws'.map Prod.fst = ids'.map (Role.secondary, ·)) (hids' : ids'.Nodup) :
    ((ws ++ ws').map Prod.fst).Nodup := by
  rw [List.map_append, hws, hws', List.nodup_append]
  refine ⟨hids.map fun _ _ h => (Prod.mk.inj h).2, hids'.map fun _ _ h => (Prod.mk.inj h).2, ?_⟩
  intro k hk k' hk' heq
  obtain ⟨id, -, rfl⟩ := List.mem_map.1 hk
  obtain ⟨id', -, rfl⟩ := List.mem_map.1 hk'
  cases heq

section

variable {suite : Suite} {now : Int64} {aci pni : ServiceId} {e : Enrolment} {self : Int}

theorem nodup_textRows_plan (haci : aci.role = .primary) (hpni : pni.role = .secondary) :
    (((plan suite now aci pni e self).flatMap Change.textRows).map Prod.fst).Nodup := by
  have hkeys : ((plan suite now aci pni e self).flatMap Change.textRows).map Prod.fst =
      preparingKeys ++ marks.map Account.Entry.key := by
    rw [textRows_plan]
    simp only [preparingTexts, haci, hpni]
    rfl
  rw [hkeys]
  decide

theorem nodup_ownRows_plan :
    (((plan suite now aci pni e self).flatMap Change.ownRows).map Prod.fst).Nodup := by
  simp [ownRows_plan]

theorem nodup_signedRows_plan :
    (((plan suite now aci pni e self).flatMap Change.signedRows).map Prod.fst).Nodup := by
  simp [signedRows_plan]

theorem nodup_oneTimeRows_plan (hlaid : ∀ role, (e.bundles.get role).Laid) :
    (((plan suite now aci pni e self).flatMap Change.oneTimeRows).map Prod.fst).Nodup := by
  rw [oneTimeRows_plan, oneTimeRows_bundleChanges, oneTimeRows_bundleChanges]
  apply nodup_both _ (hlaid .primary).oneTime _ (hlaid .secondary).oneTime
  all_goals
    rw [List.map_map, List.map_map]
    rfl

theorem nodup_kyberRows_plan (hlaid : ∀ role, (e.bundles.get role).Laid) :
    (((plan suite now aci pni e self).flatMap Change.kyberRows).map Prod.fst).Nodup := by
  have hids (role : Role) : ((e.bundles.get role).lastResort.id ::
      (e.bundles.get role).kyber.map KyberPrekey.id).Nodup := by
    rw [(hlaid role).lastResort]
    exact List.nodup_cons.2 ⟨(hlaid role).lastResort_not_mem, (hlaid role).kyber⟩
  rw [kyberRows_plan, kyberRows_bundleChanges, kyberRows_bundleChanges]
  apply nodup_both _ (hids .primary) _ (hids .secondary)
  all_goals
    rw [List.map_cons, List.map_cons, List.map_map, List.map_map]
    rfl

theorem nodup_identityRows_plan :
    (((plan suite now aci pni e self).flatMap Change.identityRows).map Prod.fst).Nodup := by
  simp [identityRows_plan]

/-! ### After a plan -/

/-- The row that a plan saves for the identity of a role. -/
theorem find?_identityRows_plan {t : Table (Role × String) IdentityRow} (role : Role) :
    (t.writeAll ((plan suite now aci pni e self).flatMap Change.identityRows)).find?
        (role, toString self) =
      some (IdentityRow.ofRecord (selfRecord suite now (e.bundles.get role).identity)) := by
  rw [identityRows_plan, Table.find?_writeAll]
  cases role <;> simp [Table.lastWrite, PerRole.get]

theorem standing_after_plan {db : Database} (hsound : db.Sound)
    (hself : db.selfId (e.ownEntry aci pni) = self) (haci : aci.role = .primary)
    (hpni : pni.role = .secondary) (hlaid : ∀ role, (e.bundles.get role).Laid)
    (hallowed : ∀ c ∈ plan suite now aci pni e self, c.Allowed db) :
    Standing suite aci pni e self (db.after (plan suite now aci pni e self)) where
  texts now' := by
    have hrows : (plan suite now' aci pni e self).flatMap Change.textRows =
        (plan suite now aci pni e self).flatMap Change.textRows := by
      rw [textRows_plan, textRows_plan]
    rw [hrows, after, Option.map_map]
    have hshows := shows_rows hallowed (fun _ => Change.Allowed.isSome_keyValues)
      (nodup_textRows_plan haci hpni)
    rwa [Option.map_map] at hshows
  own now' := by
    rw [ownRows_plan, ← ownRows_plan self e suite now aci pni]
    exact shows_rows hallowed (fun _ => Change.Allowed.isSome_ownIdentities) nodup_ownRows_plan
  signed now' := by
    rw [signedRows_plan, ← signedRows_plan self e suite now aci pni]
    exact shows_rows hallowed (fun _ => Change.Allowed.isSome_signed) nodup_signedRows_plan
  oneTime now' := by
    rw [oneTimeRows_plan, ← oneTimeRows_plan self e suite now aci pni]
    exact shows_rows hallowed (fun _ => Change.Allowed.isSome_oneTime)
      (nodup_oneTimeRows_plan hlaid)
  kyber now' := by
    rw [kyberRows_plan, ← kyberRows_plan self e suite now aci pni]
    exact shows_rows hallowed (fun _ => Change.Allowed.isSome_kyber) (nodup_kyberRows_plan hlaid)
  identities := by
    have hidentities : db.identities.isSome :=
      hallowed (selfChange suite now self e .primary) (by simp [plan, preparing])
    obtain ⟨t, ht⟩ := Option.isSome_iff_exists.1 hidentities
    refine ⟨_, by rw [after, ht, Option.map_some], fun role => ⟨now, ?_⟩⟩
    exact find?_identityRows_plan role
  recipients := by
    have hrecipients : db.recipients.isSome :=
      hallowed (.claim (e.ownEntry aci pni) self .arrive)
        (by simp [plan, preparing, claimChanges, ClaimStep.all])
    obtain ⟨t, ht⟩ := Option.isSome_iff_exists.1 hrecipients
    obtain rfl := (Database.selfId_eq ht _).symm.trans hself
    have hvalid := hsound t ht
    exact ⟨_, recipients_after_plan ht, hvalid.underway_claimAll, hvalid.settle_claimAll⟩

/-! ### What a standing registration stands -/

theorem values_after (db : Database) (cs : List Change) :
    (db.after cs).keyValues.map KeyValues.values =
      (db.keyValues.map KeyValues.values).map (·.writeAll (cs.flatMap Change.textRows)) := by
  rw [after, Option.map_map, Option.map_map]
  rfl

/-- The registration may be made again, and stopped anywhere. -/
theorem Standing.after_of_prefix {db : Database} (h : Standing suite aci pni e self db)
    {done : List Change} (hdone : done <+: plan suite now aci pni e self) :
    Standing suite aci pni e self (db.after done) := by
  have hrows {α : Type} (f : Change → List α) :
      done.flatMap f ⊆ (plan suite now aci pni e self).flatMap f :=
    (prefix_flatMap hdone f).subset
  refine ⟨fun now' => ?_, fun now' => ?_, fun now' => ?_, fun now' => ?_, fun now' => ?_, ?_, ?_⟩
  · rw [values_after, (h.texts now).writeAll_eq (hrows _)]
    exact h.texts now'
  · rw [after, (h.own now).writeAll_eq (hrows _)]
    exact h.own now'
  · rw [after, (h.signed now).writeAll_eq (hrows _)]
    exact h.signed now'
  · rw [after, (h.oneTime now).writeAll_eq (hrows _)]
    exact h.oneTime now'
  · rw [after, (h.kyber now).writeAll_eq (hrows _)]
    exact h.kyber now'
  · obtain ⟨t, ht, hfind⟩ := h.identities
    refine ⟨_, by rw [after, ht, Option.map_some], fun role => ?_⟩
    obtain ⟨time, hold⟩ := hfind role
    rw [Table.find?_writeAll]
    cases hlast : Table.lastWrite (role, toString self) (done.flatMap Change.identityRows) with
    | none => exact ⟨time, hold⟩
    | some v =>
      -- Only the time of the new attempt can be different.
      have hmem := hrows Change.identityRows (Table.mem_of_lastWrite hlast)
      rw [identityRows_plan] at hmem
      refine ⟨now, ?_⟩
      cases role <;> simpa [PerRole.get] using hmem
  · obtain ⟨t, ht, hunderway, hsettled⟩ := h.recipients
    obtain ⟨steps, -, hsteps⟩ := exists_claimAll_of_prefix hdone t
    refine ⟨t, ?_, hunderway, hsettled⟩
    rw [after, ht, Option.map_some, hsteps, hunderway.claimAll_eq_self hsettled]

theorem mem_keys_of_plan {w : String × Option String}
    (hw : w ∈ (plan suite now aci pni e self).flatMap Change.textRows) :
    w.1 ∈ preparingKeys ++ marks.map Account.Entry.key := by
  rw [plan, List.flatMap_append] at hw
  rcases List.mem_append.1 hw with hw | hw
  · obtain ⟨c, hc, hwc⟩ := List.mem_flatMap.1 hw
    exact List.mem_append_left _ (mem_preparingKeys hc hwc)
  · have hmarks : [Change.texts commitTexts].flatMap Change.textRows = commitTexts := by simp
    rw [hmarks] at hw
    have hkey : w.1 ∈ commitTexts.map Prod.fst := List.mem_map_of_mem hw
    exact List.mem_append_right _ hkey

theorem counterKey_not_mem (role : Role) (space : Ledger.Space) :
    ledgerKey role (counterName space) ∉ preparingKeys ++ marks.map Account.Entry.key := by
  cases role <;> cases space <;> decide

theorem key_not_mem_of_counts {cs : List Change} (hcs : ∀ c ∈ cs, c.IsCount) {key : String}
    (hkey : key ∈ preparingKeys ++ marks.map Account.Entry.key) :
    key ∉ (cs.flatMap Change.textRows).map Prod.fst := by
  intro hmem
  obtain ⟨w, hw, rfl⟩ := List.mem_map.1 hmem
  obtain ⟨c, hc, hwc⟩ := List.mem_flatMap.1 hw
  obtain ⟨role, space, value, rfl⟩ := hcs c hc
  obtain rfl := List.mem_singleton.1 hwc
  exact counterKey_not_mem role space hkey

/-- Handing out ids changes nothing but texts. -/
theorem after_counts_eq {db : Database} {cs : List Change} (hcs : ∀ c ∈ cs, c.IsCount) :
    db.after cs = { db with keyValues := (db.after cs).keyValues } := by
  have hdirectory : ∀ t, cs.foldl Change.onDirectory t = t := by
    refine foldl_onDirectory_eq_self fun c hc t => ?_
    obtain ⟨role, space, value, rfl⟩ := hcs c hc
    rfl
  have hnone {α : Type} {f : Change → List α}
      (hf : ∀ role name value, f (.ledger role name value) = []) : cs.flatMap f = [] := by
    rw [List.flatMap_eq_nil_iff]
    intro c hc
    obtain ⟨role, space, value, rfl⟩ := hcs c hc
    exact hf _ _ _
  have hclears : cs.any Change.clears = false := by
    rw [List.any_eq_false]
    intro c hc
    obtain ⟨role, space, value, rfl⟩ := hcs c hc
    simp
  simp only [after, hnone (f := Change.ownRows) fun _ _ _ => rfl,
    hnone (f := Change.signedRows) fun _ _ _ => rfl,
    hnone (f := Change.oneTimeRows) fun _ _ _ => rfl,
    hnone (f := Change.kyberRows) fun _ _ _ => rfl,
    hnone (f := Change.identityRows) fun _ _ _ => rfl,
    hnone (f := Change.archived) fun _ _ _ => rfl, hdirectory, hclears]
  simp

/-- Ids may be handed out. -/
theorem Standing.after_counts {db : Database} (h : Standing suite aci pni e self db)
    {cs : List Change} (hcs : ∀ c ∈ cs, c.IsCount) :
    Standing suite aci pni e self (db.after cs) := by
  have hafter : db.after cs = _ := after_counts_eq hcs
  refine ⟨fun now' => ?_, ?_, ?_, ?_, ?_, ?_, ?_⟩
  · rw [values_after]
    exact (h.texts now').writeAll_other fun w hw => key_not_mem_of_counts hcs (mem_keys_of_plan hw)
  all_goals rw [hafter]
  · exact h.own
  · exact h.signed
  · exact h.oneTime
  · exact h.kyber
  · exact h.identities
  · exact h.recipients

end

end Registrar
