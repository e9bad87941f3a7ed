import Mathlib.Algebra.GroupWithZero.Nat
import Registrar.Proofs.Prekey.Layout

/-!
The ids that bundles take, batch by batch.

Ids are asked for as soon as their keys are made, group by group. So what comes of the work is
settled by the answers of the ledgers: either every request is granted, or the first one that is
refused ends the work.
-/

namespace Registrar

/-- The keys of one role that get their ids together. -/
inductive Batch where
  | signed
  | oneTime
  | lastResort
  | kyber
  deriving DecidableEq

namespace Batch

/-- The order in which they are made. -/
def all : List Batch := [.signed, .oneTime, .lastResort, .kyber]

def space : Batch → Ledger.Space
  | .signed => .signed
  | .oneTime => .oneTime
  | .lastResort => .kyber
  | .kyber => .kyber

def count (sizes : BatchSizes) : Batch → UInt32
  | .signed => 1
  | .oneTime => sizes.oneTime
  | .lastResort => 1
  | .kyber => sizes.kyber

/-- How many random bytes one key is made from. -/
def width : Batch → Nat
  | .signed => 32
  | .oneTime => 32
  | .lastResort => 64
  | .kyber => 64

/-- The requests for the ids of some roles. -/
def requests (roles : List Role) : List (Role × Batch) :=
  roles.flatMap fun role => all.map fun batch => (role, batch)

/-- How many random bytes some batches take. -/
def bytes (sizes : BatchSizes) (batches : List (Role × Batch)) : Nat :=
  (batches.map fun b => b.2.width * (b.2.count sizes).toNat).sum

theorem bytes_append (sizes : BatchSizes) (batches batches' : List (Role × Batch)) :
    bytes sizes (batches ++ batches') = bytes sizes batches + bytes sizes batches' := by
  simp [bytes]

theorem requests_all : requests Role.all = requests [.primary] ++ requests [.secondary] := rfl

theorem bytes_requests (sizes : BatchSizes) (role : Role) :
    bytes sizes (requests [role]) = 96 + 32 * sizes.oneTime.toNat + 64 * sizes.kyber.toNat := by
  simp [bytes, requests, all, width, count]
  omega

end Batch

/-! ### Requests for ids -/

/-- Some requests are granted one after the other, each from the first of its ids on. -/
inductive Granted {σ : Type} (ledger : Role → Provisioner.LedgerOn σ) (sizes : BatchSizes) :
    List (Role × Batch) → σ → List UInt32 → σ → Prop
  | nil (s : σ) : Granted ledger sizes [] s [] s
  | cons {role : Role} {batch : Batch} {rest : List (Role × Batch)} {s s₁ s' : σ} {first : UInt32}
      {firsts : List UInt32} :
    ledger role (.reserve batch.space (batch.count sizes)) s = .ok first s₁ →
      Granted ledger sizes rest s₁ firsts s' →
        Granted ledger sizes ((role, batch) :: rest) s (first :: firsts) s'

/-- One of some requests is refused, after those before it were granted. -/
inductive Refused {σ : Type} (ledger : Role → Provisioner.LedgerOn σ) (sizes : BatchSizes) :
    List (Role × Batch) → σ → List (Role × Batch) → KeyError → σ → Prop
  | here {role : Role} {batch : Batch} {rest : List (Role × Batch)} {s s' : σ} {e : KeyError} :
    ledger role (.reserve batch.space (batch.count sizes)) s = .error e s' →
      Refused ledger sizes ((role, batch) :: rest) s [] e s'
  | later {role : Role} {batch : Batch} {rest granted : List (Role × Batch)} {s s₁ s' : σ}
      {first : UInt32} {e : KeyError} :
    ledger role (.reserve batch.space (batch.count sizes)) s = .ok first s₁ →
      Refused ledger sizes rest s₁ granted e s' →
        Refused ledger sizes ((role, batch) :: rest) s ((role, batch) :: granted) e s'

section

variable {σ : Type} {ledger : Role → Provisioner.LedgerOn σ} {sizes : BatchSizes}
  {requests requests' granted : List (Role × Batch)} {s s' : σ} {firsts : List UInt32} {e : KeyError}

theorem granted_or_refused (ledger : Role → Provisioner.LedgerOn σ) (sizes : BatchSizes)
    (requests : List (Role × Batch)) (s : σ) :
    (∃ firsts s', Granted ledger sizes requests s firsts s') ∨
      ∃ granted e s', Refused ledger sizes requests s granted e s' := by
  induction requests generalizing s with
  | nil => exact Or.inl ⟨[], s, .nil s⟩
  | cons request rest ih =>
    obtain ⟨role, batch⟩ := request
    cases hledger : ledger role (.reserve batch.space (batch.count sizes)) s with
    | error e s' => exact Or.inr ⟨[], e, s', .here hledger⟩
    | ok first s₁ =>
      rcases ih s₁ with ⟨firsts, s', h⟩ | ⟨granted, e, s', h⟩
      · exact Or.inl ⟨first :: firsts, s', .cons hledger h⟩
      · exact Or.inr ⟨(role, batch) :: granted, e, s', .later hledger h⟩

theorem Granted.exists_of_append (h : Granted ledger sizes (requests ++ requests') s firsts s') :
    ∃ firsts₁ firsts₂ s₁, firsts = firsts₁ ++ firsts₂ ∧ Granted ledger sizes requests s firsts₁ s₁ ∧
      Granted ledger sizes requests' s₁ firsts₂ s' := by
  induction requests generalizing s firsts with
  | nil => exact ⟨[], firsts, s, rfl, .nil s, h⟩
  | cons request rest ih =>
    cases h with
    | cons hledger h =>
      obtain ⟨firsts₁, firsts₂, s₁, rfl, h₁, h₂⟩ := ih h
      exact ⟨_, firsts₂, s₁, rfl, .cons hledger h₁, h₂⟩

/-- The refusal comes among the first requests, or all of these are granted. -/
theorem Refused.cases_of_append (h : Refused ledger sizes (requests ++ requests') s granted e s') :
    Refused ledger sizes requests s granted e s' ∨
      ∃ firsts s₁ granted', granted = requests ++ granted' ∧
        Granted ledger sizes requests s firsts s₁ ∧
          Refused ledger sizes requests' s₁ granted' e s' := by
  induction requests generalizing s granted with
  | nil => exact Or.inr ⟨[], s, granted, rfl, .nil s, h⟩
  | cons request rest ih =>
    cases h with
    | here hledger => exact Or.inl (.here hledger)
    | later hledger h =>
      rcases ih h with h | ⟨firsts, s₁, granted', rfl, h₁, h₂⟩
      · exact Or.inl (.later hledger h)
      · exact Or.inr ⟨_, s₁, granted', rfl, .cons hledger h₁, h₂⟩

theorem Granted.append_refused {s₁ : σ} (h : Granted ledger sizes requests s firsts s₁)
    (h' : Refused ledger sizes requests' s₁ granted e s') :
    Refused ledger sizes (requests ++ requests') s (requests ++ granted) e s' := by
  induction h with
  | nil => exact h'
  | cons hledger _ ih => exact .later hledger (ih h')

/-- The four requests for one role, each with the first id that it is given. -/
theorem Granted.exists_first {role : Role}
    (h : Granted ledger sizes (Batch.requests [role]) s firsts s') :
    ∃ (first : Batch → UInt32) (s₁ s₂ s₃ : σ), firsts = Batch.all.map first ∧
      ledger role (.reserve .signed 1) s = .ok (first .signed) s₁ ∧
      ledger role (.reserve .oneTime sizes.oneTime) s₁ = .ok (first .oneTime) s₂ ∧
      ledger role (.reserve .kyber 1) s₂ = .ok (first .lastResort) s₃ ∧
      ledger role (.reserve .kyber sizes.kyber) s₃ = .ok (first .kyber) s' := by
  obtain _ | @⟨_, _, _, _, s₁, _, signed, _, hsigned, h⟩ := h
  obtain _ | @⟨_, _, _, _, s₂, _, oneTime, _, honeTime, h⟩ := h
  obtain _ | @⟨_, _, _, _, s₃, _, lastResort, _, hlastResort, h⟩ := h
  obtain _ | @⟨_, _, _, _, s₄, _, kyber, _, hkyber, h⟩ := h
  cases h
  let first : Batch → UInt32
    | .signed => signed
    | .oneTime => oneTime
    | .lastResort => lastResort
    | .kyber => kyber
  exact ⟨first, s₁, s₂, s₃, rfl, hsigned, honeTime, hlastResort, hkyber⟩

end

end Registrar
