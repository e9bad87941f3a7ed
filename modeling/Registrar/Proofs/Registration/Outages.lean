import Registrar.Proofs.Registration.Calls
import Registrar.Registration.Run

/-!
Outages of the database, and the calls that meet them.

Each call of the database takes the next of the outages to come. So once the calls of an attempt
are counted, it is known which of them an outage is for. Until one of them meets an outage the work
goes on as if there were none; then it ends, and says what the database said.
-/

namespace Registrar

open Registration

variable {ε ε' α β γ : Type} {report : DatabaseError → ε} {stored : Bool} {count m n : Nat}
  {d d' : Device}

/-- The device with no outages to come. -/
def Device.quiet (d : Device) : Device := { d with outages := [] }

/-- The call of the database with a certain number is the first one that meets an outage. -/
def Device.FirstOutage (d : Device) (n : Nat) (cause : DatabaseError) : Prop :=
  (∀ o ∈ d.outages.take n, o = none) ∧ d.outages[n]? = some (some cause)

/-- The outcome with no outages to come. -/
def quietly : EStateM.Result ε Device α → EStateM.Result ε Device α
  | .ok a d => .ok a d.quiet
  | .error e d => .error e d.quiet

/--
Work that calls a database `count` times. Either no call meets an outage, and the work goes as it
does without any; or one of them does, and what the database says is what it fails with. All the
while the stores of keys are in the database, or all the while they are not.
-/
inductive Heeds (report : DatabaseError → ε) (stored : Bool) (count : Nat) (x : Act ε α)
    (d : Device) : Prop
  | unmet (n : Nat) (none : ∀ o ∈ d.outages.take n, o = .none)
    (left : (endOf (x d)).outages = d.outages.drop n)
    (memory : (endOf (x d)).memory.isNone = stored)
    (quiet : x d.quiet = quietly (x d)) (all : (answerOf? (x d)).isSome → n = count)
  | met (n : Nat) (e : DatabaseError) (d' : Device) (lt : n < count)
    (none : ∀ o ∈ d.outages.take n, o = .none) (outage : d.outages[n]? = some (some e))
    (fails : x d = .error (report e) d') (left : d'.outages = d.outages.drop (n + 1))

namespace Heeds

/-! ### Work is put together -/

theorem congr {x y : Act ε α} (h : Heeds report stored count y d) (heq : x d = y d)
    (hquiet : x d.quiet = y d.quiet) : Heeds report stored count x d := by
  cases h with
  | unmet n hnone hleft hmemory hsame hall =>
    rw [← heq] at hleft hmemory hsame hall
    exact .unmet n hnone hleft hmemory (hquiet.trans hsame) hall
  | met n e d' hlt hnone houtage hfails hleft =>
    exact .met n e d' hlt hnone houtage (heq.trans hfails) hleft

/-- Work that does not call the database. -/
theorem of_none {x : Act ε α} (hmemory : (endOf (x d)).memory.isNone = stored)
    (hleft : (endOf (x d)).outages = d.outages) (hquiet : x d.quiet = quietly (x d)) :
    Heeds report stored 0 x d :=
  .unmet 0 (fun o ho => by cases ho) hleft hmemory hquiet fun _ => rfl

theorem pure (hmemory : d.memory.isNone = stored) (a : α) : Heeds report stored 0 (Pure.pure a) d :=
  of_none hmemory rfl rfl

theorem bind {x : Act ε α} {f : α → Act ε β} (hx : Heeds report stored m x d)
    (hf : ∀ a d', d'.memory.isNone = stored → Heeds report stored n (f a) d') :
    Heeds report stored (m + n) (x >>= f) d := by
  cases hx with
  | met i e d' hlt hnone houtage hfails hleft =>
    refine .met i e d' (Nat.lt_add_right n hlt) hnone houtage ?_ hleft
    rw [act_bind_eq, hfails]
  | unmet i hnone hleft hmemory hquiet hall =>
    cases hxd : x d with
    | error err d' =>
      have hbind : (x >>= f) d = .error err d' := by rw [act_bind_eq, hxd]
      rw [hxd] at hleft hmemory hquiet
      refine .unmet i hnone (by rw [hbind]; exact hleft) (by rw [hbind]; exact hmemory) ?_ ?_
      · rw [act_bind_eq, hquiet, hbind]
        rfl
      · rw [hbind]
        exact fun h => by cases h
    | ok a d' =>
      have hbind : (x >>= f) d = f a d' := by rw [act_bind_eq, hxd]
      have hquiet' : (x >>= f) d.quiet = f a d'.quiet := by
        rw [act_bind_eq, hquiet, hxd]
        rfl
      rw [hxd] at hleft hmemory hall
      obtain rfl := hall rfl
      change d'.outages = _ at hleft
      -- What the second part meets is what the first has left.
      have hboth {j : Nat} (h : ∀ o ∈ d'.outages.take j, o = none) :
          ∀ o ∈ d.outages.take (i + j), o = none := by
        rw [List.take_add, ← hleft]
        exact List.forall_mem_append.2 ⟨hnone, h⟩
      cases hf a d' hmemory with
      | unmet j hnone' hleft' hmemory' hsame hall' =>
        refine .unmet (i + j) (hboth hnone') ?_ (by rwa [hbind]) (by rw [hquiet', hsame, hbind]) ?_
        · rw [hbind, hleft', hleft, List.drop_drop]
        · rw [hbind]
          exact fun h => congrArg (i + ·) (hall' h)
      | met j e d'' hlt hnone' houtage hfails hleft' =>
        refine .met (i + j) e d'' (Nat.add_lt_add_left hlt i) (hboth hnone') ?_
          (hbind.trans hfails) ?_
        · rw [← houtage, hleft, List.getElem?_drop]
        · rw [hleft', hleft, List.drop_drop, Nat.add_assoc]

/-- As many calls for each item of a list. -/
theorem forM {items : List γ} {f : γ → Act ε PUnit} (hmemory : d.memory.isNone = stored)
    (h : ∀ item d', d'.memory.isNone = stored → Heeds report stored n (f item) d') :
    Heeds report stored (items.length * n) (items.forM f) d := by
  induction items generalizing d with
  | nil =>
    rw [List.length_nil, Nat.zero_mul]
    exact pure hmemory _
  | cons item items ih =>
    rw [List.length_cons, Nat.succ_mul, Nat.add_comm]
    exact (h item d hmemory).bind fun _ d' hmemory' => ih hmemory'

theorem both {f : Role → Act ε PUnit} (hmemory : d.memory.isNone = stored)
    (hprimary : ∀ d', d'.memory.isNone = stored → Heeds report stored m (f .primary) d')
    (hsecondary : ∀ d', d'.memory.isNone = stored → Heeds report stored n (f .secondary) d') :
    Heeds report stored (m + n) (Role.all.forM f) d := by
  refine (hprimary d hmemory).bind fun _ d' hmemory' => ?_
  exact (hsecondary d' hmemory').bind (n := 0) fun _ d'' hmemory'' => pure hmemory'' _

/-- The same work with its failures in other words. -/
theorem adaptExcept {x : Act ε α} (h : Heeds report stored count x d) (f : ε → ε') :
    Heeds (fun e => f (report e)) stored count (x.adaptExcept f) d := by
  have hadapt (d : Device) : (x.adaptExcept f : Act ε' α) d = match x d with
      | .ok a d' => .ok a d'
      | .error e d' => .error (f e) d' := by
    rw [EStateM.adaptExcept]
    cases x d <;> rfl
  cases h with
  | met n e d' hlt hnone houtage hfails hleft =>
    exact .met n e d' hlt hnone houtage (by rw [hadapt, hfails]) hleft
  | unmet n hnone hleft hmemory hquiet hall =>
    have hsame : (x.adaptExcept f : Act ε' α) d.quiet =
        quietly ((x.adaptExcept f : Act ε' α) d) := by
      rw [hadapt, hadapt, hquiet]
      cases x d <;> rfl
    refine .unmet n hnone ?_ ?_ hsame ?_ <;> rw [hadapt]
    · cases hx : x d <;> rwa [hx] at hleft
    · cases hx : x d <;> rwa [hx] at hmemory
    · cases hx : x d <;> rwa [hx] at hall

end Heeds

namespace Device.FirstOutage

variable {cause cause' : DatabaseError}

/-- Calls that find no outage are among those before the first that does. -/
theorem le_of_none (h : d.FirstOutage n cause) (hnone : ∀ o ∈ d.outages.take m, o = none) :
    m ≤ n := by
  by_contra hlt
  have hmem : some cause ∈ d.outages.take m := by
    apply List.mem_of_getElem? (i := n)
    rw [List.getElem?_take_of_lt (by omega), h.2]
  cases hnone _ hmem

theorem unique (h : d.FirstOutage n cause) (h' : d.FirstOutage m cause') :
    n = m ∧ cause = cause' := by
  obtain rfl := Nat.le_antisymm (h'.le_of_none h.1) (h.le_of_none h'.1)
  exact ⟨rfl, Option.some.inj (Option.some.inj (h.2.symm.trans h'.2))⟩

end Device.FirstOutage

namespace Heeds

/-- The first outage is met, or the work has failed before and would have failed anyway. -/
theorem cases_of_firstOutage {x : Act ε α} {cause : DatabaseError}
    (h : Heeds report stored count x d) (hlt : n < count) (hfirst : d.FirstOutage n cause) :
    (∃ d', x d = .error (report cause) d') ∨
      ∃ e d', x d = .error e d' ∧ (∃ m ≤ n, d'.outages = d.outages.drop m) ∧
        x d.quiet = .error e d'.quiet := by
  cases h with
  | met i cause' d' _ hnone houtage hfails hleft =>
    obtain ⟨rfl, rfl⟩ := hfirst.unique ⟨hnone, houtage⟩
    exact Or.inl ⟨d', hfails⟩
  | unmet i hnone hleft hmemory hquiet hall =>
    have hle := hfirst.le_of_none hnone
    cases hx : x d with
    | ok a d' =>
      rw [hx] at hall
      obtain rfl := hall rfl
      exact absurd hlt (Nat.not_lt.2 hle)
    | error e d' =>
      rw [hx] at hleft hquiet
      exact Or.inr ⟨e, d', rfl, ⟨i, hle, hleft⟩, hquiet⟩

/-! ### Calls -/

theorem query (report : DatabaseError → ε) (hmemory : d.memory.isNone = stored) (q : Query ε α) :
    Heeds report stored 1 (Device.query report q) d := by
  by_cases hanswers : d.Answers
  · have hquiet : d.quiet.Answers := fun e he => by cases he
    refine .unmet 1 ?_ ?_ ?_ ?_ fun _ => rfl
    · intro o ho
      rw [List.take_one] at ho
      cases o with
      | none => rfl
      | some e => exact absurd (Option.mem_toList.1 ho) (hanswers e)
    all_goals rw [hanswers.query_eq]
    · rw [List.drop_one]
      cases q d.database <;> rfl
    · cases q d.database <;> exact hmemory
    · have hdatabase : d.quiet.database = d.database := rfl
      rw [hquiet.query_eq, hdatabase]
      cases q d.database <;> rfl
  · rw [Device.Answers, not_forall] at hanswers
    obtain ⟨e, he⟩ := hanswers
    obtain ⟨rest, houtages⟩ := List.head?_eq_some_iff.1 (not_not.1 he)
    refine .met 0 e { d with outages := rest } Nat.zero_lt_one (fun o ho => by cases ho) ?_ ?_ ?_
    · rw [houtages]
      rfl
    · rw [Device.query, houtages]
    · rw [houtages]
      rfl

theorem ask (hmemory : d.memory.isNone = stored) (q : Query Failure α) :
    Heeds Database.failure stored 1 (Device.ask q) d :=
  query Database.failure hmemory q

theorem allow (report : DatabaseError → KeyError) (hmemory : d.memory.isNone = stored)
    (call : Call) : Heeds report stored 0 (Device.allow call) d := by
  obtain ⟨database, memory, cachedSelf, faults, outages, entropy, events⟩ := d
  refine of_none ?_ ?_ ?_ <;> simp only [Device.allow, Device.quiet] <;>
    rcases Fault.meet call faults with ⟨_ | e, rest⟩
  · exact hmemory
  · exact hmemory
  all_goals rfl

theorem onMemory {σ : Type} (report : DatabaseError → KeyError) (hmemory : d.memory.isNone = false)
    (m : MemoryStores) (part : σ) (put : σ → MemoryStores → MemoryStores)
    (x : StateT σ (Except KeyError) α) :
    Heeds report false 0 (Device.onMemory m part put x) d := by
  refine of_none ?_ ?_ ?_ <;> simp only [Device.onMemory] <;> rcases x part with e | ⟨a, part'⟩
  · exact hmemory
  all_goals rfl

/-- A call of a store. It is one of the database if the store is there. -/
theorem call {call : Call} {q : Query KeyError α} {onMemory : MemoryStores → Act KeyError α}
    (hmemory : d.memory.isNone = stored)
    (honMemory : ∀ m d', d'.memory.isNone = false →
      Heeds KeyError.ofDatabase false 0 (onMemory m) d') :
    Heeds KeyError.ofDatabase stored stored.toNat
      (do
        Device.allow call
        match (← get).memory with
        | none => Device.query KeyError.ofDatabase q
        | some m => onMemory m) d := by
  have h : Heeds KeyError.ofDatabase stored (0 + stored.toNat)
      (do
        Device.allow call
        match (← get).memory with
        | none => Device.query KeyError.ofDatabase q
        | some m => onMemory m) d := by
    refine (allow KeyError.ofDatabase hmemory call).bind fun _ d' hmemory' => ?_
    cases hstores : d'.memory with
    | none =>
      rw [hstores] at hmemory'
      subst hmemory'
      refine (query KeyError.ofDatabase (by rw [hstores]) q).congr ?_ ?_
      · rw [act_get_bind_eq, hstores]
      · have hquiet : d'.quiet.memory = none := hstores
        rw [act_get_bind_eq, hquiet]
    | some m =>
      rw [hstores] at hmemory'
      subst hmemory'
      refine (honMemory m d' (by rw [hstores]; rfl)).congr ?_ ?_
      · rw [act_get_bind_eq, hstores]
      · have hquiet : d'.quiet.memory = some m := hstores
        rw [act_get_bind_eq, hquiet]
  rwa [Nat.zero_add] at h

theorem keys (hmemory : d.memory.isNone = stored) (role : Role) (r : KeyStore.Request) :
    Heeds KeyError.ofDatabase stored stored.toNat (Device.keys role r) d :=
  call hmemory fun m _ h => onMemory _ h m _ _ _

theorem ledger (hmemory : d.memory.isNone = stored) (role : Role) (r : Ledger.Request) :
    Heeds KeyError.ofDatabase stored stored.toNat (Device.ledger role r) d :=
  call hmemory fun m _ h => onMemory _ h m _ _ _

theorem senderKeys (hmemory : d.memory.isNone = stored) (r : SenderKeyStore.Request) :
    Heeds KeyError.ofDatabase stored stored.toNat (Device.senderKeys r) d :=
  call hmemory fun m _ h => onMemory _ h m _ _ _

theorem registering {x : Act KeyError α} (h : Heeds KeyError.ofDatabase stored count x d) :
    Heeds Database.failure stored count (Device.registering x) d :=
  h.adaptExcept Failure.ofKeyError

theorem clearSelf (report : DatabaseError → ε) (hmemory : d.memory.isNone = stored) :
    Heeds report stored 0 Device.clearSelf d :=
  of_none hmemory rfl rfl

end Heeds

/-! ### The calls of an attempt -/

/-- How many calls of the database it takes to store a bundle, if the stores of keys are in it. -/
def Bundle.calls (b : Bundle) : Nat := 6 + b.oneTime.length + b.kyber.length

/--
How many calls of the database an attempt takes, if none of them fails: those of the account and the
directory, and those of the stores of keys if these are in the database.
-/
def Enrolment.calls (e : Enrolment) (stored : Bool) : Nat :=
  12 + if stored then 7 + e.bundles.primary.calls + e.bundles.secondary.calls else 0

theorem heeds_storeBundle (hmemory : d.memory.isNone = stored) (role : Role) (b : Bundle) :
    Heeds KeyError.ofDatabase stored (stored.toNat * b.calls) (storeBundle role b) d := by
  have h : Heeds KeyError.ofDatabase stored
      (stored.toNat + (stored.toNat + (stored.toNat + (b.oneTime.length * stored.toNat +
        (stored.toNat + (stored.toNat + (b.kyber.length * stored.toNat + stored.toNat)))))))
      (storeBundle role b) d := by
    refine (Heeds.keys hmemory role _).bind fun _ _ h => ?_
    refine (Heeds.keys h role _).bind fun _ _ h => ?_
    refine (Heeds.ledger h role _).bind fun _ _ h => ?_
    refine (Heeds.forM h fun key _ h => Heeds.keys h role _).bind fun _ _ h => ?_
    refine (Heeds.keys h role _).bind fun _ _ h => ?_
    refine (Heeds.ledger h role _).bind fun _ _ h => ?_
    refine (Heeds.forM h fun key _ h => Heeds.keys h role _).bind fun _ _ h => ?_
    exact Heeds.ledger h role _
  have hcalls : stored.toNat + (stored.toNat + (stored.toNat + (b.oneTime.length * stored.toNat +
      (stored.toNat + (stored.toNat + (b.kyber.length * stored.toNat + stored.toNat)))))) =
        stored.toNat * b.calls := by
    cases stored <;> simp [Bundle.calls]
    omega
  exact hcalls ▸ h

theorem heeds_claimSelf (hmemory : d.memory.isNone = stored) (aci pni : ServiceId) (e164 : String)
    (profileKey : ProfileKey) :
    Heeds Database.failure stored 5 (claimSelf aci pni e164 profileKey) d := by
  refine (Heeds.ask hmemory _).bind (n := 4) fun self _ h => ?_
  refine (Heeds.ask h _).bind (n := 3) fun _ _ h => ?_
  refine (Heeds.ask h _).bind (n := 2) fun _ _ h => ?_
  refine (Heeds.ask h _).bind (n := 1) fun _ _ h => ?_
  exact (Heeds.ask h _).bind (n := 0) fun _ _ h => Heeds.pure h self

theorem heeds_storeAccount (hmemory : d.memory.isNone = stored) (e : Enrolment) :
    Heeds Database.failure stored 4 (storeAccount e) d := by
  refine (Heeds.ask hmemory _).bind (n := 3) fun _ _ h => ?_
  refine (Heeds.ask h _).bind (n := 2) fun _ _ h => ?_
  refine (Heeds.ask h _).bind (n := 1) fun _ _ h => ?_
  exact Heeds.ask h _

theorem heeds_saveSelf (hmemory : d.memory.isNone = stored) (suite : Suite) (self : Int)
    (now : Int64) (role : Role) :
    Heeds KeyError.ofDatabase stored (stored.toNat + stored.toNat)
      (saveSelf suite self now role) d :=
  (Heeds.keys hmemory role _).bind fun _ _ h => Heeds.keys h role _

theorem heeds_store (hmemory : d.memory.isNone = stored) (suite : Suite) (now : Int64)
    (aci pni : ServiceId) (e : Enrolment) :
    Heeds Database.failure stored (e.calls stored) (store suite now aci pni e) d := by
  have h : Heeds Database.failure stored
      (1 + (1 + ((stored.toNat + stored.toNat) + (stored.toNat +
        ((stored.toNat * e.bundles.primary.calls + stored.toNat * e.bundles.secondary.calls) +
        (5 + (0 + (4 + (((stored.toNat + stored.toNat) + (stored.toNat + stored.toNat)) + 1)))))))))
      (store suite now aci pni e) d := by
    refine (Heeds.ask hmemory _).bind fun _ _ h => ?_
    refine (Heeds.ask h _).bind fun _ _ h => ?_
    refine (Heeds.both h (fun _ h => (Heeds.keys h .primary .archiveSessions).registering)
      fun _ h => (Heeds.keys h .secondary .archiveSessions).registering).bind fun _ _ h => ?_
    refine (Heeds.senderKeys h _).registering.bind fun _ _ h => ?_
    refine (Heeds.both h (fun _ h => (heeds_storeBundle h .primary _).registering)
      fun _ h => (heeds_storeBundle h .secondary _).registering).bind fun _ _ h => ?_
    refine (heeds_claimSelf h aci pni _ _).bind fun self _ h => ?_
    refine (Heeds.clearSelf _ h).bind fun _ _ h => ?_
    refine (heeds_storeAccount h e).bind fun _ _ h => ?_
    refine (Heeds.both h (fun _ h => (heeds_saveSelf h suite self now .primary).registering)
      fun _ h => (heeds_saveSelf h suite self now .secondary).registering).bind fun _ _ h => ?_
    exact Heeds.ask h _
  have hcalls : 1 + (1 + ((stored.toNat + stored.toNat) + (stored.toNat +
      ((stored.toNat * e.bundles.primary.calls + stored.toNat * e.bundles.secondary.calls) +
      (5 + (0 + (4 + (((stored.toNat + stored.toNat) + (stored.toNat + stored.toNat)) + 1)))))))) =
        e.calls stored := by
    cases stored <;> simp [Enrolment.calls]
    omega
  exact hcalls ▸ h

end Registrar
