import Mathlib.Algebra.GroupWithZero.Nat
import Registrar.Proofs.Prekey.Noting
import Registrar.Proofs.Prekey.Slots

/-!
The ids that a device hands out, one request after the other.

Each counter stands at the number of ids that its role has handed out of its space. So the next ids
are the ones after all of those, and a request that fails leaves the counters where they were.
-/

namespace Registrar

open Database

/-! ### How a request for ids is to end -/

/-- How many ids a request is given. -/
def Reservation.taken (r : Reservation) : Nat :=
  match r.outcome with
  | .ok _ _ => r.count.toNat
  | .error _ _ => 0

def total (role : Role) (space : Ledger.Space) (log : List Reservation) : Nat :=
  (log.map fun r => if r.role = role ∧ r.space = space then r.taken else 0).sum

/-- Neither a fault nor an outage of the database meets a request. -/
def Reservation.Undisturbed (r : Reservation) : Prop :=
  (Fault.meet (.ledger r.role (.reserve r.space r.count)) r.found.faults).1 = none ∧
    ∀ e, r.found.outages.head? ≠ some (some e)

/-- A request that comes after others is given the ids after theirs, or none at all. -/
structure Reservation.Proper (r : Reservation) (before : List Reservation) : Prop where
  ok : ∀ first d', r.outcome = .ok first d' →
    first.toNat = total r.role r.space before + 1 ∧
      (d'.counter r.role r.space).toNat = total r.role r.space before + r.count.toNat
  error : ∀ e d', r.outcome = .error e d' →
    d'.database = r.found.database ∧ ∀ role, d'.counter role = r.found.counter role
  fails_iff : r.Undisturbed → ((∃ e d', r.outcome = .error e d') ↔
    r.count = 0 ∨ UInt32.size ≤ total r.role r.space before + r.count.toNat)

/-- Each request on a list is proper after the ones before it. -/
def Orderly : List Reservation → List Reservation → Prop
  | _, [] => True
  | before, r :: rest => r.Proper before ∧ Orderly (before ++ [r]) rest

section

variable {role : Role} {space : Ledger.Space} {before log log' : List Reservation}
  {r : Reservation}

theorem total_singleton (r : Reservation) (role : Role) (space : Ledger.Space) :
    total role space [r] = if r.role = role ∧ r.space = space then r.taken else 0 := by
  simp [total]

theorem total_append (role : Role) (space : Ledger.Space) (log log' : List Reservation) :
    total role space (log ++ log') = total role space log + total role space log' := by
  simp [total]

theorem Orderly.append (h : Orderly before log) (h' : Orderly (before ++ log) log') :
    Orderly before (log ++ log') := by
  induction log generalizing before with
  | nil => simpa using h'
  | cons r log ih => exact ⟨h.1, ih h.2 (by simpa using h')⟩

theorem Orderly.proper {after : List Reservation} (h : Orderly before (log ++ r :: after)) :
    r.Proper (before ++ log) := by
  induction log generalizing before with
  | nil => simpa using h.1
  | cons r' log ih => simpa using ih h.2

theorem handedOut_singleton (r : Reservation) (role : Role) (space : Ledger.Space) :
    handedOut role space [r] = if r.role = role ∧ r.space = space then r.ids else [] := by
  simp [handedOut]

theorem Reservation.Proper.map_toNat_ids (h : r.Proper before) :
    r.ids.map UInt32.toNat = List.range' (total r.role r.space before + 1) r.taken := by
  rw [Reservation.ids, Reservation.taken]
  cases hr : r.outcome with
  | error e d' => rfl
  | ok first d' =>
    obtain ⟨hfirst, hcounter⟩ := h.ok first d' hr
    have hlt := (d'.counter r.role r.space).toNat_lt_size
    dsimp only
    rw [Provisioner.map_toNat_ids (by omega), hfirst]

/-- The ids that are handed out are all numbers from the first one on. -/
theorem Orderly.map_toNat_handedOut (h : Orderly before log) (role : Role) (space : Ledger.Space) :
    (handedOut role space log).map UInt32.toNat =
      List.range' (total role space before + 1) (total role space log) := by
  induction log generalizing before with
  | nil => rfl
  | cons r log ih =>
    have hrest := ih h.2
    rw [← List.singleton_append, handedOut_append, total_append, List.map_append, hrest,
      handedOut_singleton, total_append, total_singleton]
    split
    · rename_i hsame
      obtain ⟨rfl, rfl⟩ := hsame
      rw [h.1.map_toNat_ids, ← List.range'_append_1, Nat.add_right_comm]
    · simp

theorem Orderly.pairwise_handedOut (h : Orderly before log) (role : Role) (space : Ledger.Space) :
    (handedOut role space log).Pairwise (· < ·) := by
  have hnumbers : ((handedOut role space log).map UInt32.toNat).Pairwise (· < ·) := by
    rw [h.map_toNat_handedOut]
    exact List.pairwise_lt_range'
  exact (List.pairwise_map.1 hnumbers).imp UInt32.lt_iff_toNat_lt.2

end

/-! ### The ledgers of a device -/

section

variable {d : Device} {role : Role} {space : Ledger.Space} {count : UInt32} {log : List Reservation}

theorem ledger_eq (hmemory : d.memory = none) (r : Ledger.Request) :
    Device.ledger role r d = match Fault.meet (.ledger role r) d.faults with
      | (some e, faults) => .error e { d with faults := faults }
      | (none, faults) =>
        Device.query KeyError.ofDatabase (answerLedger role r) { d with faults := faults } := by
  obtain ⟨database, memory, cachedSelf, faults, outages, entropy, events⟩ := d
  obtain rfl : memory = none := hmemory
  rw [Device.ledger, act_bind_eq, Device.allow]
  rcases Fault.meet (.ledger role r) faults with ⟨_ | e, rest⟩ <;> rfl

/-- A request to a ledger fails and leaves the database alone, or the database answers it. -/
theorem ledger_cases (hmemory : d.memory = none) (r : Ledger.Request) :
    (∃ e d', Device.ledger role r d = .error e d' ∧ d'.database = d.database ∧ d'.memory = none) ∨
      ∃ a d', Device.ledger role r d = .ok a d' ∧
        answerLedger role r d.database = .ok (a, d'.database) ∧ d'.memory = none := by
  rw [ledger_eq hmemory]
  rcases Fault.meet (.ledger role r) d.faults with ⟨_ | e, faults⟩
  · dsimp only
    rcases query_cases KeyError.ofDatabase (answerLedger role r) { d with faults := faults } with
      ⟨e, -, heq⟩ | ⟨e, -, heq⟩ | ⟨a, db', hanswer, heq⟩
    · exact Or.inl ⟨_, _, heq, rfl, hmemory⟩
    · exact Or.inl ⟨_, _, heq, rfl, hmemory⟩
    · exact Or.inr ⟨_, _, heq, hanswer, hmemory⟩
  · exact Or.inl ⟨_, _, rfl, rfl, hmemory⟩

/-- A request that nothing disturbs fails only if the database refuses it. -/
theorem ledger_error_iff (hmemory : d.memory = none) {r : Ledger.Request}
    (hfault : (Fault.meet (.ledger role r) d.faults).1 = none)
    (houtage : ∀ e, d.outages.head? ≠ some (some e)) :
    (∃ e d', Device.ledger role r d = .error e d') ↔
      ∃ e, answerLedger role r d.database = .error e := by
  rw [ledger_eq hmemory]
  rcases hmeet : Fault.meet (.ledger role r) d.faults with ⟨_ | e, faults⟩
  · dsimp only [Device.query]
    split
    · rename_i e rest hrest
      exact absurd (congrArg List.head? hrest) (houtage e)
    · cases answerLedger role r d.database <;> simp
  · rw [hmeet] at hfault
    cases hfault

/-! ### Counters -/

/-- The counters of a device stand at the numbers of ids that were handed out. -/
structure Device.CountsTo (d : Device) (log : List Reservation) : Prop where
  memory : d.memory = none
  isOpen : d.database.Open
  tells : ∀ role space, ∃ n : UInt32,
    Tells (d.database.slot? role (.counter space)) n ∧ n.toNat = total role space log

theorem countsTo_fresh (entropy : Entropy) : (Device.fresh entropy).CountsTo [] :=
  ⟨rfl, open_empty, fun _ _ => ⟨0, Or.inr ⟨rfl, rfl⟩, rfl⟩⟩

namespace Device.CountsTo

theorem of_database_eq {d' : Device} (h : d.CountsTo log) (hdatabase : d'.database = d.database)
    (hmemory : d'.memory = none) : d'.CountsTo log :=
  ⟨hmemory, hdatabase ▸ h.isOpen, hdatabase ▸ h.tells⟩

theorem counter_eq (h : d.CountsTo log) (role : Role) (space : Ledger.Space) :
    (d.counter role space).toNat = total role space log := by
  obtain ⟨n, hn, hcount⟩ := h.tells role space
  obtain ⟨found, hfound, rfl⟩ := hn.exists_eq
  have hread : readNumber (ledgerKey role (counterName space)) d.database = _ :=
    h.isOpen.readNumber_eq role (.counter space) hfound
  rw [Device.counter, h.memory, hread, hcount]

theorem answer_reserve (h : d.CountsTo log) (role : Role) (space : Ledger.Space) (count : UInt32) :
    ∃ n : UInt32, n.toNat = total role space log ∧
      answerLedger role (.reserve space count) d.database =
        (Ledger.reserve n count space.kind).map fun ids =>
          (ids.1, d.database.after
            [.ledger role (Ledger.Slot.counter space).name (Text.numeral ids.2)]) := by
  obtain ⟨n, hn, hcount⟩ := h.tells role space
  exact ⟨n, hcount, h.isOpen.reserve_eq hn count⟩

theorem reserve_error (h : d.CountsTo log) {e : KeyError} {d' : Device}
    (hledger : Device.ledger role (.reserve space count) d = .error e d') :
    d'.database = d.database ∧ d'.CountsTo (log ++ [⟨role, space, count, d⟩]) := by
  rcases ledger_cases h.memory (.reserve space count) with
    ⟨e', d'', herror, hdatabase, hmemory⟩ | ⟨a, d'', hok, -⟩
  · rw [herror] at hledger
    cases hledger
    refine ⟨hdatabase, hmemory, hdatabase ▸ h.isOpen, fun role' space' => ?_⟩
    have htaken : total role' space' [⟨role, space, count, d⟩] = 0 := by
      rw [total_singleton, Reservation.taken, Reservation.outcome, herror]
      exact ite_self _
    rw [total_append, htaken, hdatabase]
    exact h.tells role' space'
  · rw [hok] at hledger
    cases hledger

theorem reserve_ok (h : d.CountsTo log) {first : UInt32} {d' : Device}
    (hledger : Device.ledger role (.reserve space count) d = .ok first d') :
    first.toNat = total role space log + 1 ∧ d'.CountsTo (log ++ [⟨role, space, count, d⟩]) := by
  obtain ⟨n, hn, hanswer⟩ := h.answer_reserve role space count
  rcases ledger_cases h.memory (.reserve space count) with
    ⟨e, d'', herror, -⟩ | ⟨a, d'', hok, hdatabase, hmemory⟩
  · rw [herror] at hledger
    cases hledger
  · rw [hok] at hledger
    cases hledger
    rw [hanswer] at hdatabase
    cases hreserve : Ledger.reserve n count space.kind with
    | error e =>
      rw [hreserve] at hdatabase
      cases hdatabase
    | ok ids =>
      obtain ⟨first, last⟩ := ids
      rw [hreserve] at hdatabase
      obtain ⟨rfl, hafter⟩ := Prod.mk.inj (Except.ok.inj hdatabase)
      obtain ⟨hfirst, hlast⟩ := Provisioner.toNat_of_reserve hreserve
      refine ⟨by rw [hfirst, hn], hmemory, hafter ▸ h.isOpen.after _, fun role' space' => ?_⟩
      rw [← hafter, h.isOpen.slot?_after_ledger, total_append, total_singleton, Reservation.taken,
        Reservation.outcome, hok]
      by_cases hsame : role = role' ∧ space = space'
      · obtain ⟨rfl, rfl⟩ := hsame
        simp only [and_self, if_true]
        exact ⟨last, Or.inl rfl, by rw [hlast, hn]⟩
      · have hslot : ¬(role' = role ∧ Ledger.Slot.counter space' = .counter space) := by
          rintro ⟨rfl, hslot⟩
          cases hslot
          exact hsame ⟨rfl, rfl⟩
        rw [if_neg hslot, if_neg hsame]
        exact h.tells role' space'

theorem reserve (h : d.CountsTo log) (role : Role) (space : Ledger.Space) (count : UInt32) :
    (endOf (Device.ledger role (.reserve space count) d)).CountsTo
      (log ++ [⟨role, space, count, d⟩]) := by
  cases hledger : Device.ledger role (.reserve space count) d with
  | error e d' => exact (h.reserve_error hledger).2
  | ok first d' => exact (h.reserve_ok hledger).2

theorem proper (h : d.CountsTo log) (role : Role) (space : Ledger.Space) (count : UInt32) :
    (⟨role, space, count, d⟩ : Reservation).Proper log where
  ok first d' hok := by
    obtain ⟨hfirst, hafter⟩ := h.reserve_ok hok
    refine ⟨hfirst, ?_⟩
    rw [hafter.counter_eq, total_append, total_singleton, if_pos ⟨rfl, rfl⟩, Reservation.taken, hok]
  error e d' herror := by
    obtain ⟨hdatabase, hafter⟩ := h.reserve_error herror
    refine ⟨hdatabase, fun role' => ?_⟩
    funext space'
    simp only [Device.counter, h.memory, hafter.memory, hdatabase]
  fails_iff := by
    rintro ⟨hfault, houtage⟩
    obtain ⟨n, hn, hanswer⟩ := h.answer_reserve role space count
    have hrefused : (∃ e, Ledger.reserve n count space.kind = .error e) ↔ _ :=
      Provisioner.reserve_error_iff
    rw [Reservation.outcome, ledger_error_iff h.memory hfault houtage, hanswer, ← hn, ← hrefused]
    cases Ledger.reserve n count space.kind <;> simp [Except.map]

theorem after {d' : Device} {cs : List Change} (h : d.CountsTo log)
    (hcs : ∀ c ∈ cs, ∀ w ∈ c.textRows, ∀ role space, w.1 ≠ slotKey role (.counter space))
    (hdatabase : d'.database = d.database.after cs) (hmemory : d'.memory = none) :
    d'.CountsTo log := by
  refine ⟨hmemory, hdatabase ▸ h.isOpen.after cs, fun role space => ?_⟩
  rw [hdatabase, slot?_after fun c hc w hw => hcs c hc w hw role space]
  exact h.tells role space

theorem after_texts {d' : Device} {ws : List (String × Option String)} (h : d.CountsTo log)
    (hws : ∀ w ∈ ws, ∀ role space, w.1 ≠ slotKey role (.counter space))
    (hdatabase : d'.database = d.database.after [.texts ws]) (hmemory : d'.memory = none) :
    d'.CountsTo log := by
  refine h.after (fun c hc w hw => ?_) hdatabase hmemory
  obtain rfl := List.mem_singleton.1 hc
  exact hws w hw

end Device.CountsTo

/-- The counters stand at what was handed out before and at what is noted, which is in order. -/
def Noted (before : List Reservation) (s : Device × List Reservation) : Prop :=
  s.1.CountsTo (before ++ s.2) ∧ Orderly before s.2

theorem Noted.reserve {before : List Reservation} {s : Device × List Reservation}
    (h : Noted before s) (role : Role) (space : Ledger.Space) (count : UInt32) :
    Noted before (endOf (Device.noting role (.reserve space count) s)) := by
  obtain ⟨hcounts, horderly⟩ := h
  rw [endOf_noting]
  refine ⟨?_, horderly.append ⟨hcounts.proper role space count, trivial⟩⟩
  rw [← List.append_assoc]
  exact hcounts.reserve role space count

/-- However far the making of bundles comes, its requests for ids are proper. -/
theorem Device.CountsTo.generateBoth (h : d.CountsTo log) (suite : Suite) (p : Provisioner)
    (now : Int64) :
    (endOf (Device.generateBoth suite p now d)).CountsTo (log ++ Device.reservations suite p now d) ∧
      Orderly log (Device.reservations suite p now d) := by
  -- Nothing but a request touches the ledgers, so what each request keeps holds to the end.
  have hnoted := Provisioner.keeps_generateBoth (R := fun s s' => Noted log s → Noted log s')
    (fun _ hs => hs) (fun _ _ _ h₁ h₂ hs => h₂ (h₁ hs))
    (fun role space count _ hs => hs.reserve role space count) suite p now ((d, []), d.entropy)
    ⟨by simpa using h, trivial⟩
  refine ⟨?_, hnoted.2⟩
  have hend := hnoted.1
  rw [← endOf_generateBoth_noting] at hend
  rw [endOf_generateBoth]
  exact ⟨hend.memory, hend.isOpen, hend.tells⟩

end

end Registrar
