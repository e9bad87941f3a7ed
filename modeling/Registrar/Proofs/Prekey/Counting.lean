import Registrar.Proofs.Database.KeyValues
import Registrar.Proofs.Prekey.Layout
import Registrar.Proofs.Registration.Calls
import Registrar.Proofs.Registration.KeyCalls

/-!
Making bundles on a device.

The ledgers of a device count on, in the database as well as in memory, so the ids of a bundle are
in order. Whichever way the work ends, nothing but the counters has changed in the database.
-/

namespace Registrar

open Database

/-! ### The counters -/

/-- The last id of a space that a device has handed out. One that cannot be read counts as zero. -/
def Device.counter (role : Role) (d : Device) (space : Ledger.Space) : UInt32 :=
  match d.memory with
  | some m => (m.roles.get role).ledger.counter space
  | none =>
    match readNumber (ledgerKey role (counterName space)) d.database with
    | .ok (n, _) => n.getD 0
    | .error _ => 0

variable {role : Role} {space : Ledger.Space} {count first : UInt32} {d d' : Device}
  {db db' : Database}

theorem readNumber_of_writeNumber {key : String} {n : UInt32}
    (h : writeNumber key n db = .ok ((), db')) :
    db' = db.after [.texts [(key, some (Text.numeral n))]] ∧
      readNumber key db' = .ok (some n, db') := by
  rw [writeNumber, writeText_eq] at h
  cases hkv : db.keyValues with
  | none => simp [hkv] at h
  | some kv =>
    simp only [hkv] at h
    split at h
    · cases h
    · cases h
      rw [after_texts hkv]
      refine ⟨rfl, readNumber_of_numeral rfl ?_⟩
      rw [Table.find?_writeAll]
      simp [Table.lastWrite]

/-- Ids are handed out in one query, after which the counter stands at the last of them. -/
theorem exists_last_of_reserve (h : Database.reserve role space count db = .ok (first, db')) :
    ∃ counter last, readNumber (ledgerKey role (counterName space)) db = .ok (counter, db) ∧
      Ledger.reserve (counter.getD 0) count space.kind = .ok (first, last) ∧
      db' = db.after [.ledger role (counterName space) (Text.numeral last)] ∧
      readNumber (ledgerKey role (counterName space)) db' = .ok (some last, db') := by
  rw [Database.reserve] at h
  obtain ⟨counter, db₁, hcounter, h₁⟩ := Query.exists_of_bind_eq_ok h
  rw [Query.mapError_eq_ok] at hcounter
  obtain rfl := eq_of_readNumber hcounter
  obtain ⟨⟨first', last⟩, db₂, hreserve, h₂⟩ := Query.exists_of_bind_eq_ok h₁
  rw [Query.lift_apply] at hreserve
  cases hids : Ledger.reserve (counter.getD 0) count space.kind with
  | error e =>
    rw [hids] at hreserve
    cases hreserve
  | ok ids =>
    rw [hids] at hreserve
    cases hreserve
    obtain ⟨u, db₃, hwrite, h₃⟩ := Query.exists_of_bind_eq_ok h₂
    rw [Query.mapError_eq_ok] at hwrite
    cases h₃
    obtain ⟨hafter, hread⟩ := readNumber_of_writeNumber hwrite
    exact ⟨counter, last, hcounter, hids, hafter, hread⟩

/-! ### Counting on a device -/

/-- A counter is kept. -/
def Change.IsCount (c : Change) : Prop :=
  ∃ role space value, c = .ledger role (counterName space) value

/-- Nothing has changed but counters. -/
def Counted (d d' : Device) : Prop :=
  ∃ cs : List Change, (∀ c ∈ cs, c.IsCount) ∧ Reached cs d d'

theorem counted_of_reached_nil (h : Reached [] d d') : Counted d d' :=
  ⟨[], (fun c hc => by cases hc), h⟩

theorem Counted.trans {d'' : Device} (h : Counted d d') (h' : Counted d' d'') : Counted d d'' := by
  obtain ⟨cs, hcs, hreached⟩ := h
  obtain ⟨cs', hcs', hreached'⟩ := h'
  exact ⟨cs ++ cs', List.forall_mem_append.2 ⟨hcs, hcs'⟩, hreached.trans hreached'⟩

/-- How work ends that hands out ids on a device. -/
def HandsOut (role : Role) (space : Ledger.Space) (count : UInt32) (d : Device) :
    EStateM.Result KeyError Device UInt32 → Prop
  | .error _ d' => Counted d d'
  | .ok first d' => Counted d d' ∧ ∃ last,
    Ledger.reserve (d.counter role space) count space.kind = .ok (first, last) ∧
      d'.counter role space = last

theorem handsOut_query (role : Role) (space : Ledger.Space) (count : UInt32)
    (hmemory : d.memory = none) : HandsOut role space count d
      (Device.query KeyError.ofDatabase (answerLedger role (.reserve space count)) d) := by
  have hrest := Reached.of_outages d (List.tail_suffix d.outages)
  rcases query_cases KeyError.ofDatabase (answerLedger role (.reserve space count)) d with
    ⟨e, -, heq⟩ | ⟨e, -, heq⟩ | ⟨first, db', hreserve, heq⟩
  · rw [heq]
    exact counted_of_reached_nil hrest
  · rw [heq]
    exact counted_of_reached_nil hrest
  · rw [heq]
    obtain ⟨counter, last, hcounter, hids, rfl, hlast⟩ := exists_last_of_reserve hreserve
    refine ⟨⟨[.ledger role (counterName space) (Text.numeral last)], ?_, ?_⟩, last, ?_, ?_⟩
    · exact List.forall_mem_singleton.2 ⟨role, space, _, rfl⟩
    · exact Reached.of_query (stored_of_memory_eq_none hmemory _) rfl (List.tail_suffix _)
    · rw [Device.counter, hmemory, hcounter]
      exact hids
    · simp only [Device.counter, hmemory, hlast, Option.getD_some]

theorem counter_setCounter (m : Ledger.Memory) (space : Ledger.Space) (value : UInt32) :
    (m.setCounter value space).counter space = value := by
  cases space <;> rfl

theorem handsOut_onMemory (role : Role) (space : Ledger.Space) (count : UInt32) {m : MemoryStores}
    (hm : d.memory = some m) : HandsOut role space count d
      (Device.onMemory m (m.roles.get role).ledger
        (fun part m =>
          { m with roles := m.roles.set { m.roles.get role with ledger := part } role })
        (Ledger.Memory.answer (.reserve space count)) d) := by
  have hcounter : d.counter role space = (m.roles.get role).ledger.counter space := by
    rw [Device.counter, hm]
  simp only [Device.onMemory, Ledger.Memory.answer, ← hcounter]
  cases hids : Ledger.reserve (d.counter role space) count space.kind with
  | error e => exact counted_of_reached_nil (Reached.refl d)
  | ok ids =>
    obtain ⟨first, last⟩ := ids
    refine ⟨counted_of_reached_nil ⟨by simp [hm], by simp [Device.stored], rfl, rfl,
      List.suffix_refl _, fun f hf => ⟨f, hf, rfl⟩⟩, last, hids, ?_⟩
    simp only [Device.counter, PerRole.get_set, counter_setCounter]

theorem HandsOut.trans {outcome : EStateM.Result KeyError Device UInt32}
    (h : HandsOut role space count d' outcome) (hcounted : Counted d d')
    (hcounter : d'.counter role space = d.counter role space) :
    HandsOut role space count d outcome := by
  cases outcome with
  | error e d'' => exact hcounted.trans h
  | ok first d'' =>
    obtain ⟨hcounted', last, hids, hlast⟩ := h
    exact ⟨hcounted.trans hcounted', last, hcounter ▸ hids, hlast⟩

/-- A ledger hands out the ids after its counter, and changes nothing but counters. -/
theorem handsOut_ledger (role : Role) (space : Ledger.Space) (count : UInt32) (d : Device) :
    HandsOut role space count d (Device.ledger role (.reserve space count) d) := by
  obtain ⟨database, memory, cachedSelf, faults, outages, entropy, events⟩ := d
  rw [Device.ledger, act_bind_eq, Device.allow]
  rcases hmeet : Fault.meet (.ledger role (.reserve space count)) faults with ⟨outcome, rest⟩
  have hfaults := counted_of_reached_nil (Reached.of_faults
    ⟨database, memory, cachedSelf, faults, outages, entropy, events⟩ (mem_of_meet hmeet).2)
  cases outcome with
  | some e => exact hfaults
  | none =>
    cases memory with
    | none => exact (handsOut_query role space count rfl).trans hfaults rfl
    | some m => exact (handsOut_onMemory role space count rfl).trans hfaults rfl

theorem counted_ledger (role : Role) (space : Ledger.Space) (count : UInt32) (d : Device) :
    Counted d (endOf (Device.ledger role (.reserve space count) d)) := by
  have hands := handsOut_ledger role space count d
  cases hreserve : Device.ledger role (.reserve space count) d with
  | error err d' =>
    rw [hreserve] at hands
    exact hands
  | ok first d' =>
    rw [hreserve] at hands
    exact hands.1

theorem counts_ledger (role : Role) :
    Provisioner.Counts (Device.ledger role) (Device.counter role) := by
  intro space count d first d' h
  have hands := handsOut_ledger role space count d
  rw [h] at hands
  exact hands.2

/-! ### Bundles -/

/-- A bundle that was made with the ledgers of some device. -/
def Bundle.Made (suite : Suite) (b : Bundle) : Prop :=
  ∃ p role identity now s s',
    Provisioner.generate suite p (Device.ledger role) role identity now s = .ok b s'

theorem Bundle.Made.laid {suite : Suite} {b : Bundle} (h : b.Made suite) : b.Laid := by
  obtain ⟨p, role, identity, now, s, s', h⟩ := h
  exact Provisioner.laid_of_generate (counts_ledger role) h

namespace Provisioner

/-! ### What a ledger does to its state -/

section

variable {σ α β γ : Type} {R : σ → σ → Prop}

/-- Work leads from a state to one that is related to it, whichever way it ends. -/
def Keeps (R : σ → σ → Prop) (x : Work σ α) : Prop := ∀ s, R s.1 (endOf (x s)).1

variable (hrefl : ∀ s, R s s) (htrans : ∀ s s' s'', R s s' → R s' s'' → R s s'')

include hrefl in
theorem keeps_of_eq_ok {x : Work σ α} (h : ∀ s, ∃ a e, x s = .ok a (s.1, e)) : Keeps R x := by
  intro s
  obtain ⟨a, e, hx⟩ := h s
  rw [hx]
  exact hrefl s.1

theorem keeps_onState {x : EStateM KeyError σ α} (h : ∀ s, R s (endOf (x s))) :
    Keeps R (onState x) := by
  rintro ⟨s, e⟩
  have hs := h s
  rw [onState]
  cases hx : x s <;> rwa [hx] at hs

include htrans in
theorem Keeps.bind {x : Work σ α} {f : α → Work σ β} (hx : Keeps R x)
    (hf : ∀ a, Keeps R (f a)) : Keeps R (x >>= f) := by
  intro s
  have hs := hx s
  rw [act_bind_eq]
  cases hxs : x s with
  | error e s' =>
    rw [hxs] at hs
    exact hs
  | ok a s' =>
    rw [hxs] at hs
    exact htrans _ _ _ hs (hf a s')

include hrefl htrans

theorem Keeps.mapM {f : γ → Work σ α} (hf : ∀ item, Keeps R (f item)) (items : List γ) :
    Keeps R (items.mapM f) := by
  induction items with
  | nil => exact keeps_of_eq_ok hrefl fun _ => ⟨_, _, rfl⟩
  | cons item items ih =>
    rw [List.mapM_cons]
    exact (hf item).bind htrans fun a => ih.bind htrans fun rest =>
      keeps_of_eq_ok hrefl fun _ => ⟨_, _, rfl⟩

theorem keeps_mapM_draw (make : UInt32 → Bytes → α) (length : Nat) (wanted : List UInt32) :
    Keeps R (wanted.mapM fun id => do return make id (← draw length)) :=
  Keeps.mapM hrefl htrans (fun _ => keeps_of_eq_ok hrefl fun _ => ⟨_, _, rfl⟩) wanted

/-- What handing out ids does to the state of a ledger is all that making a bundle does to it. -/
theorem keeps_generate {ledger : LedgerOn σ}
    (hreserve : ∀ space count s, R s (endOf (ledger (.reserve space count) s))) (suite : Suite)
    (p : Provisioner) (role : Role) (identity : IdentityKey) (now : Int64) :
    Keeps R (p.generate suite ledger role identity now) := by
  have hdraw (length : Nat) : Keeps R (draw length) := keeps_of_eq_ok hrefl fun _ => ⟨_, _, rfl⟩
  refine (keeps_onState (hreserve .signed 1)).bind htrans fun signedId => ?_
  refine (hdraw 32).bind htrans fun secret => ?_
  refine (keeps_onState (hreserve .oneTime p.sizes.oneTime)).bind htrans fun oneTimeStart => ?_
  refine (keeps_mapM_draw hrefl htrans _ _ _).bind htrans fun oneTime => ?_
  refine (keeps_onState (hreserve .kyber 1)).bind htrans fun lastResortId => ?_
  refine (hdraw 64).bind htrans fun seeds => ?_
  refine (keeps_onState (hreserve .kyber p.sizes.kyber)).bind htrans fun kyberStart => ?_
  refine (keeps_mapM_draw hrefl htrans _ _ _).bind htrans fun kyber => ?_
  exact keeps_of_eq_ok hrefl fun _ => ⟨_, _, rfl⟩

theorem keeps_generateBoth {ledger : Role → LedgerOn σ}
    (hreserve : ∀ role space count s, R s (endOf (ledger role (.reserve space count) s)))
    (suite : Suite) (p : Provisioner) (now : Int64) :
    Keeps R (p.generateBoth suite ledger now) := by
  have hidentity : Keeps R drawIdentity := keeps_of_eq_ok hrefl fun _ => ⟨_, _, rfl⟩
  refine hidentity.bind htrans fun primary => hidentity.bind htrans fun secondary => ?_
  refine (keeps_generate hrefl htrans (hreserve .primary) suite p .primary primary now).bind htrans
    fun b => ?_
  refine (keeps_generate hrefl htrans (hreserve .secondary) suite p .secondary secondary now).bind
    htrans fun b' => ?_
  exact keeps_of_eq_ok hrefl fun _ => ⟨_, _, rfl⟩

end

/-- Work that changes nothing but counters, whichever way it ends. -/
def Counting {α : Type} (x : Work Device α) : Prop := ∀ s, Counted s.1 (endOf (x s)).1

theorem counting_generateBoth (suite : Suite) (p : Provisioner) (now : Int64) :
    Counting (p.generateBoth suite Device.ledger now) :=
  keeps_generateBoth (R := Counted) (fun d => counted_of_reached_nil (Reached.refl d))
    (fun _ _ _ => Counted.trans) counted_ledger suite p now

end Provisioner

section

variable {suite : Suite} {p : Provisioner} {now : Int64} {d d' : Device} {bundles : PerRole Bundle}

theorem endOf_generateBoth (suite : Suite) (p : Provisioner) (now : Int64) (d : Device) :
    endOf (Device.generateBoth suite p now d) =
      { (endOf (p.generateBoth suite Device.ledger now (d, d.entropy))).1 with
        entropy := (endOf (p.generateBoth suite Device.ledger now (d, d.entropy))).2 } := by
  rw [Device.generateBoth, Device.registering, EStateM.adaptExcept, Device.drawing]
  cases p.generateBoth suite Device.ledger now (d, d.entropy) <;> rfl

theorem exists_of_generateBoth_eq_ok (h : Device.generateBoth suite p now d = .ok bundles d') :
    ∃ s', p.generateBoth suite Device.ledger now (d, d.entropy) = .ok bundles s' := by
  rw [Device.generateBoth, Device.registering, EStateM.adaptExcept, Device.drawing] at h
  cases hboth : p.generateBoth suite Device.ledger now (d, d.entropy) with
  | ok made s' =>
    rw [hboth] at h
    cases h
    exact ⟨s', rfl⟩
  | error e s' =>
    rw [hboth] at h
    cases h

/-- Making bundles changes nothing but counters. -/
theorem counted_generateBoth (suite : Suite) (p : Provisioner) (now : Int64) (d : Device) :
    Counted d (endOf (Device.generateBoth suite p now d)) := by
  obtain ⟨cs, hcs, hreached⟩ := Provisioner.counting_generateBoth suite p now (d, d.entropy)
  rw [endOf_generateBoth]
  exact ⟨cs, hcs, hreached.memory, hreached.database, hreached.cachedSelf, hreached.events,
    hreached.outages, hreached.faults⟩

theorem exists_generate_of_generateBoth {σ : Type} {ledger : Role → Provisioner.LedgerOn σ}
    {s s' : σ × Entropy} (h : p.generateBoth suite ledger now s = .ok bundles s') :
    ∃ primary secondary e s₁,
      p.generate suite (ledger .primary) .primary primary now (s.1, e) =
        .ok bundles.primary s₁ ∧
      p.generate suite (ledger .secondary) .secondary secondary now s₁ =
        .ok bundles.secondary s' := by
  rw [Provisioner.generateBoth] at h
  have hdraw {s s' : σ × Entropy} {key : IdentityKey}
      (h : Provisioner.drawIdentity s = .ok key s') : s'.1 = s.1 := by
    cases h
    rfl
  obtain ⟨primary, s₁, hprimary, h₁⟩ := Provisioner.exists_of_bind_eq_ok h
  obtain ⟨secondary, ⟨s₂, e₂⟩, hsecondary, h₂⟩ := Provisioner.exists_of_bind_eq_ok h₁
  obtain rfl : s₂ = s.1 := (hdraw hsecondary).trans (hdraw hprimary)
  obtain ⟨b, s₃, hprimary, h₃⟩ := Provisioner.exists_of_bind_eq_ok h₂
  obtain ⟨b', s₄, hsecondary, h₄⟩ := Provisioner.exists_of_bind_eq_ok h₃
  cases h₄
  exact ⟨primary, secondary, e₂, s₃, hprimary, hsecondary⟩

/-- The bundles that are made for a registration are made for both roles. -/
theorem made_of_generateBoth (h : Device.generateBoth suite p now d = .ok bundles d') :
    ∀ role, (bundles.get role).Made suite := by
  obtain ⟨s', hboth⟩ := exists_of_generateBoth_eq_ok h
  obtain ⟨primary, secondary, e, s₁, hprimary, hsecondary⟩ :=
    exists_generate_of_generateBoth hboth
  intro role
  cases role with
  | primary => exact ⟨p, .primary, primary, now, _, _, hprimary⟩
  | secondary => exact ⟨p, .secondary, secondary, now, _, _, hsecondary⟩

end

/-! ### A pair of bundles -/

/-- A device that nothing has been done with. -/
def Device.fresh (entropy : Entropy) : Device := { entropy := entropy }

namespace Sample

/-- One key for one use is made at a time, of either kind. -/
def provisioner : Provisioner := ⟨⟨1, 1⟩, by decide, by decide⟩

def entropy : Entropy := ⟨fun _ => 7, 0⟩

theorem generates : (answerOf? (Device.generateBoth Suite.standard provisioner 0
    (.fresh entropy))).isSome = true := by
  decide +kernel

def bundles : PerRole Bundle :=
  (answerOf? (Device.generateBoth Suite.standard provisioner 0 (.fresh entropy))).get generates

theorem answerOf?_generateBoth : answerOf? (Device.generateBoth Suite.standard provisioner 0
    (.fresh entropy)) = some bundles :=
  (Option.some_get generates).symm

theorem made_bundles : ∀ role, (bundles.get role).Made Suite.standard :=
  made_of_generateBoth (eq_ok_of_answerOf? answerOf?_generateBoth)

-- Only the kernel is to work out what the bundles are.
attribute [irreducible] bundles

end Sample

end Registrar
