import Mathlib.Data.List.Nodup
import Registrar.Prekey.Provisioner

/-!
How the ids of a bundle lie.

A bundle that was made names its signed prekey and its last resort by their ids, and no two of its
keys in one space have the same id. The encapsulation keys for one use come after the last resort in
their space, since a ledger never hands out an id again.
-/

namespace Registrar

/-- The ids of a bundle are in order. -/
structure Bundle.Laid (b : Bundle) : Prop where
  signed : b.signed.id = b.signedId
  lastResort : b.lastResort.id = b.lastResortId
  oneTime : (b.oneTime.map OneTimePrekey.id).Nodup
  kyber : (b.kyber.map KyberPrekey.id).Nodup
  lastResort_not_mem : b.lastResortId ∉ b.kyber.map KyberPrekey.id

namespace Provisioner

variable {ε σ α β : Type}

/-! ### Work that succeeded -/

theorem exists_of_bind_eq_ok {x : EStateM ε σ α} {f : α → EStateM ε σ β} {s s' : σ} {b : β}
    (h : (x >>= f) s = .ok b s') : ∃ a s₁, x s = .ok a s₁ ∧ f a s₁ = .ok b s' := by
  change EStateM.bind x f s = .ok b s' at h
  unfold EStateM.bind at h
  cases hx : x s with
  | ok a s₁ =>
    rw [hx] at h
    exact ⟨a, s₁, rfl, h⟩
  | error e s₁ =>
    rw [hx] at h
    cases h

theorem of_onState_eq_ok {x : EStateM KeyError σ α} {s s' : σ} {e e' : Entropy} {a : α}
    (h : onState x (s, e) = .ok a (s', e')) : x s = .ok a s' := by
  rw [onState] at h
  cases hx : x s with
  | ok a' s₁ =>
    rw [hx] at h
    cases h
    rfl
  | error err s₁ =>
    rw [hx] at h
    cases h

/-- Keys that are drawn one after the other have the ids that were asked for. -/
theorem map_id_of_mapM_draw {make : UInt32 → Bytes → α} {key : α → UInt32}
    (hkey : ∀ id bytes, key (make id bytes) = id) {length : Nat} {wanted : List UInt32}
    {p p' : σ × Entropy} {made : List α}
    (h : (wanted.mapM fun id => do return make id (← draw length) : Work σ (List α)) p =
      .ok made p') :
    made.map key = wanted ∧ p'.1 = p.1 := by
  induction wanted generalizing p p' made with
  | nil =>
    cases h
    exact ⟨rfl, rfl⟩
  | cons id wanted ih =>
    rw [List.mapM_cons] at h
    obtain ⟨a, p₁, hmake, htail⟩ := exists_of_bind_eq_ok h
    obtain ⟨bytes, p₃, hbytes, ha⟩ := exists_of_bind_eq_ok hmake
    obtain ⟨rest, p₂, hrest, hmade⟩ := exists_of_bind_eq_ok htail
    obtain ⟨hmap, hstate⟩ := ih hrest
    cases hbytes
    cases ha
    cases hmade
    exact ⟨by rw [List.map_cons, hkey, hmap], hstate⟩

/-! ### Ranges of ids -/

theorem toNat_add_ofNat {start : UInt32} {i : Nat} (h : start.toNat + i < UInt32.size) :
    (start + UInt32.ofNat i).toNat = start.toNat + i := by
  have hsize : UInt32.size = 4294967296 := rfl
  rw [UInt32.toNat_add, UInt32.toNat_ofNat']
  omega

theorem map_toNat_ids {start count : UInt32} (h : start.toNat + count.toNat ≤ UInt32.size) :
    (ids start count).map UInt32.toNat = List.range' start.toNat count.toNat := by
  rw [ids, List.map_map, List.range'_eq_map_range]
  apply List.map_congr_left
  intro i hi
  have hi := List.mem_range.1 hi
  exact toNat_add_ofNat (by omega)

theorem nodup_ids (start count : UInt32) : (ids start count).Nodup := by
  have hsize : UInt32.size = 4294967296 := rfl
  have hcount := count.toNat_lt
  apply List.Nodup.map_on _ List.nodup_range
  intro i hi j hj hij
  have hi := List.mem_range.1 hi
  have hj := List.mem_range.1 hj
  have hij : UInt32.ofNat i = UInt32.ofNat j := by
    simpa using hij
  have hnat := congrArg UInt32.toNat hij
  rw [UInt32.toNat_ofNat', UInt32.toNat_ofNat'] at hnat
  omega

theorem eq_of_reserve {counter count first last : UInt32} {kind : String}
    (h : Ledger.reserve counter count kind = .ok (first, last)) :
    first = counter + 1 ∧ last = counter + count ∧
      counter.toNat + count.toNat < UInt32.size := by
  rw [Ledger.reserve] at h
  split at h
  · cases h
  · split at h
    · cases h
      exact ⟨rfl, rfl, ‹_›⟩
    · cases h

theorem reserve_error_iff {counter count : UInt32} {kind : String} :
    (∃ e, Ledger.reserve counter count kind = .error e) ↔
      count = 0 ∨ UInt32.size ≤ counter.toNat + count.toNat := by
  rw [Ledger.reserve]
  split
  · simp_all
  · split
    · simp_all
    · simp_all

theorem pos_of_reserve {counter count first last : UInt32} {kind : String}
    (h : Ledger.reserve counter count kind = .ok (first, last)) : 0 < count.toNat := by
  have hne : count ≠ 0 := by
    rintro rfl
    cases h
  exact Nat.pos_of_ne_zero fun hzero => hne (UInt32.toNat_inj.1 hzero)

theorem toNat_of_reserve {counter count first last : UInt32} {kind : String}
    (h : Ledger.reserve counter count kind = .ok (first, last)) :
    first.toNat = counter.toNat + 1 ∧ last.toNat = counter.toNat + count.toNat := by
  have hpos := pos_of_reserve h
  obtain ⟨rfl, rfl, hlt⟩ := eq_of_reserve h
  have hsize : UInt32.size = 4294967296 := rfl
  have hone : (1 : UInt32).toNat = 1 := rfl
  rw [UInt32.toNat_add, UInt32.toNat_add]
  omega

/-- The ids that are handed out next do not contain the one that was handed out before. -/
theorem not_mem_ids_of_reserve {counter count first last first' last' : UInt32} {kind : String}
    (h : Ledger.reserve counter 1 kind = .ok (first, last))
    (h' : Ledger.reserve last count kind = .ok (first', last')) : first ∉ ids first' count := by
  obtain ⟨rfl, rfl, hlt⟩ := eq_of_reserve h
  obtain ⟨rfl, -, hlt'⟩ := eq_of_reserve h'
  have hsize : UInt32.size = 4294967296 := rfl
  have hone : (1 : UInt32).toNat = 1 := rfl
  have hnext : (counter + 1).toNat = counter.toNat + 1 := by
    rw [UInt32.toNat_add]
    omega
  have hnext' : (counter + 1 + 1).toNat = counter.toNat + 2 ∨ count.toNat = 0 := by
    rw [UInt32.toNat_add, hnext]
    omega
  intro hmem
  obtain ⟨i, hi, heq⟩ := List.mem_map.1 hmem
  have hi := List.mem_range.1 hi
  rcases hnext' with hnext' | hzero
  · have hnat := congrArg UInt32.toNat heq
    rw [toNat_add_ofNat (by omega), hnext, hnext'] at hnat
    omega
  · omega

/-! ### Bundles -/

/-- A ledger hands out the ids that come after a counter, and keeps the last of them. -/
def Counts (ledger : LedgerOn σ) (counter : σ → Ledger.Space → UInt32) : Prop :=
  ∀ space count s first s', ledger (.reserve space count) s = .ok first s' →
    ∃ last, Ledger.reserve (counter s space) count space.kind = .ok (first, last) ∧
      counter s' space = last

/-- A bundle that was made has the ids that the ledger gave, group by group. -/
theorem exists_ids_of_generate {ledger : LedgerOn σ} {suite : Suite} {p : Provisioner} {role : Role}
    {identity : IdentityKey} {now : Int64} {s s' : σ × Entropy} {b : Bundle}
    (h : p.generate suite ledger role identity now s = .ok b s') :
    (b.signed.id = b.signedId ∧ b.lastResort.id = b.lastResortId) ∧ ∃ s₁ s₂ s₃,
      ledger (.reserve .signed 1) s.1 = .ok b.signedId s₁ ∧
      ledger (.reserve .oneTime p.sizes.oneTime) s₁ = .ok b.oneTimeStart s₂ ∧
      b.oneTime.map OneTimePrekey.id = ids b.oneTimeStart p.sizes.oneTime ∧
      ledger (.reserve .kyber 1) s₂ = .ok b.lastResortId s₃ ∧
      ledger (.reserve .kyber p.sizes.kyber) s₃ = .ok b.kyberStart s'.1 ∧
      b.kyber.map KyberPrekey.id = ids b.kyberStart p.sizes.kyber := by
  rw [generate] at h
  obtain ⟨signedId, ⟨s₁, e₁⟩, hsigned, h₁⟩ := exists_of_bind_eq_ok h
  obtain ⟨secret, ⟨s₂, e₂⟩, hsecret, h₂⟩ := exists_of_bind_eq_ok h₁
  cases hsecret
  obtain ⟨oneTimeStart, ⟨s₃, e₃⟩, honeTimeStart, h₃⟩ := exists_of_bind_eq_ok h₂
  obtain ⟨oneTime, ⟨s₄, e₄⟩, honeTime, h₄⟩ := exists_of_bind_eq_ok h₃
  obtain ⟨hids, rfl⟩ : oneTime.map OneTimePrekey.id = ids oneTimeStart p.sizes.oneTime ∧ s₄ = s₃ :=
    map_id_of_mapM_draw (fun _ _ => rfl) honeTime
  obtain ⟨lastResortId, ⟨s₅, e₅⟩, hlastResort, h₅⟩ := exists_of_bind_eq_ok h₄
  obtain ⟨seeds, ⟨s₆, e₆⟩, hseeds, h₆⟩ := exists_of_bind_eq_ok h₅
  cases hseeds
  obtain ⟨kyberStart, ⟨s₇, e₇⟩, hkyberStart, h₇⟩ := exists_of_bind_eq_ok h₆
  obtain ⟨kyber, ⟨s₈, e₈⟩, hkyber, h₈⟩ := exists_of_bind_eq_ok h₇
  obtain ⟨hids', rfl⟩ : kyber.map KyberPrekey.id = ids kyberStart p.sizes.kyber ∧ s₈ = s₇ :=
    map_id_of_mapM_draw (fun _ _ => rfl) hkyber
  cases h₈
  exact ⟨⟨rfl, rfl⟩, _, _, _, of_onState_eq_ok hsigned, of_onState_eq_ok honeTimeStart, hids,
    of_onState_eq_ok hlastResort, of_onState_eq_ok hkyberStart, hids'⟩

theorem laid_of_generate {ledger : LedgerOn σ} {counter : σ → Ledger.Space → UInt32}
    (hcounts : Counts ledger counter) {suite : Suite} {p : Provisioner} {role : Role}
    {identity : IdentityKey} {now : Int64} {s s' : σ × Entropy} {b : Bundle}
    (h : p.generate suite ledger role identity now s = .ok b s') : b.Laid := by
  obtain ⟨⟨hsigned, hlast⟩, s₁, s₂, s₃, -, -, hids, hlastResort, hkyberStart, hids'⟩ :=
    exists_ids_of_generate h
  obtain ⟨last, hreserve, hcounter⟩ := hcounts _ _ _ _ _ hlastResort
  obtain ⟨last', hreserve', -⟩ := hcounts _ _ _ _ _ hkyberStart
  rw [hcounter] at hreserve'
  refine ⟨hsigned, hlast, ?_, ?_, ?_⟩
  · rw [hids]
    exact nodup_ids _ _
  · rw [hids']
    exact nodup_ids _ _
  · rw [hids']
    exact not_mem_ids_of_reserve hreserve hreserve'

end Provisioner

end Registrar
