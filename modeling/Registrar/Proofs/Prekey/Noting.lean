import Registrar.Proofs.Prekey.Counting

/-!
Taking notes of the ids that are asked for.

A ledger can keep a list of the requests for ids that it meets. Making bundles asks for the same
ids in the same order and comes to the same with such a ledger, and the ids of the bundles are
those that the requests on the list were given.
-/

namespace Registrar

open Database

/-- A request for ids, with the device that the ledger of the role finds. -/
structure Reservation where
  role : Role
  space : Ledger.Space
  count : UInt32
  found : Device

namespace Reservation

def outcome (r : Reservation) : EStateM.Result KeyError Device UInt32 :=
  Device.ledger r.role (.reserve r.space r.count) r.found

/-- The ids that are handed out. -/
def ids (r : Reservation) : List UInt32 :=
  match r.outcome with
  | .ok first _ => Provisioner.ids first r.count
  | .error _ _ => []

end Reservation

/-- The ids of a space that a role was given, in the order in which it was. -/
def handedOut (role : Role) (space : Ledger.Space) (log : List Reservation) : List UInt32 :=
  log.flatMap fun r => if r.role = role ∧ r.space = space then r.ids else []

/-- The ledger of a role, which adds every request for ids to a list. -/
def Device.noting (role : Role) : Provisioner.LedgerOn (Device × List Reservation) :=
  fun r (d, log) =>
    let log := match r with
      | .reserve space count => log ++ [⟨role, space, count, d⟩]
      | _ => log
    match Device.ledger role r d with
    | .ok a d => .ok a (d, log)
    | .error e d => .error e (d, log)

/-- The requests for ids that are made when bundles are. -/
def Device.reservations (suite : Suite) (p : Provisioner) (now : Int64) (d : Device) :
    List Reservation :=
  (endOf (p.generateBoth suite Device.noting now ((d, []), d.entropy))).1.2

/-- The ids of a space that the keys of a bundle have, in the order in which they were made. -/
def Bundle.ids (b : Bundle) : Ledger.Space → List UInt32
  | .signed => [b.signed.id]
  | .oneTime => b.oneTime.map OneTimePrekey.id
  | .kyber => b.lastResort.id :: b.kyber.map KyberPrekey.id

variable {role : Role} {space : Ledger.Space} {count first : UInt32} {log : List Reservation}

theorem handedOut_append (role : Role) (space : Ledger.Space) (log log' : List Reservation) :
    handedOut role space (log ++ log') = handedOut role space log ++ handedOut role space log' :=
  List.flatMap_append

theorem endOf_noting (s : Device × List Reservation) :
    endOf (Device.noting role (.reserve space count) s) =
      (endOf (Device.ledger role (.reserve space count) s.1),
        s.2 ++ [⟨role, space, count, s.1⟩]) := by
  obtain ⟨d, log⟩ := s
  rw [Device.noting]
  cases Device.ledger role (.reserve space count) d <;> rfl

theorem exists_of_noting_eq_ok {d : Device} {s : Device × List Reservation}
    (h : Device.noting role (.reserve space count) (d, log) = .ok first s) :
    ∃ d', s = (d', log ++ [⟨role, space, count, d⟩]) ∧
      (⟨role, space, count, d⟩ : Reservation).ids = Provisioner.ids first count := by
  rw [Device.noting] at h
  rw [Reservation.ids, Reservation.outcome]
  dsimp only at h ⊢
  cases hledger : Device.ledger role (.reserve space count) d with
  | error e d' =>
    rw [hledger] at h
    cases h
  | ok first' d' =>
    rw [hledger] at h
    cases h
    exact ⟨d', rfl, rfl⟩

namespace Provisioner

/-! ### Work on a state that holds more -/

section

variable {σ τ α β γ : Type} {part : τ → σ}

/-- The result of work, with the part of the state that matters. -/
def onPart (part : τ → σ) : EStateM.Result KeyError (τ × Entropy) α →
    EStateM.Result KeyError (σ × Entropy) α
  | .ok a (t, e) => .ok a (part t, e)
  | .error err (t, e) => .error err (part t, e)

/-- Work does to a part of its state what other work does. -/
def Mimics (part : τ → σ) (y : Work τ α) (x : Work σ α) : Prop :=
  ∀ t e, x (part t, e) = onPart part (y (t, e))

theorem Mimics.bind {y : Work τ α} {x : Work σ α} {g : α → Work τ β} {f : α → Work σ β}
    (h : Mimics part y x) (hf : ∀ a, Mimics part (g a) (f a)) :
    Mimics part (y >>= g) (x >>= f) := by
  intro t e
  rw [act_bind_eq, act_bind_eq, h t e]
  cases y (t, e) with
  | error err s => rfl
  | ok a s => exact hf a s.1 s.2

theorem mimics_onState {y : EStateM KeyError τ α} {x : EStateM KeyError σ α}
    (h : ∀ t, x (part t) = match y t with
      | .ok a t' => .ok a (part t')
      | .error e t' => .error e (part t')) : Mimics part (onState y) (onState x) := by
  intro t e
  simp only [onState, h t]
  cases y t <;> rfl

theorem mimics_mapM_draw (make : UInt32 → Bytes → α) (length : Nat) (wanted : List UInt32) :
    Mimics part (wanted.mapM fun id => do return make id (← draw length))
      (wanted.mapM fun id => do return make id (← draw length)) := by
  induction wanted with
  | nil => exact fun _ _ => rfl
  | cons id wanted ih =>
    rw [List.mapM_cons, List.mapM_cons]
    exact Mimics.bind (fun _ _ => rfl) fun a => ih.bind fun rest _ _ => rfl

/-- Bundles are made in the same way with ledgers that do the same to the part that matters. -/
theorem mimics_generate {ledger' : LedgerOn τ} {ledger : LedgerOn σ}
    (h : ∀ space count, Mimics part (onState (ledger' (.reserve space count)))
      (onState (ledger (.reserve space count)))) (suite : Suite) (p : Provisioner) (role : Role)
    (identity : IdentityKey) (now : Int64) :
    Mimics part (p.generate suite ledger' role identity now)
      (p.generate suite ledger role identity now) := by
  have hdraw (length : Nat) : Mimics part (draw length) (draw length) := fun _ _ => rfl
  refine (h .signed 1).bind fun signedId => ?_
  refine (hdraw 32).bind fun secret => ?_
  refine (h .oneTime p.sizes.oneTime).bind fun oneTimeStart => ?_
  refine (mimics_mapM_draw _ 32 _).bind fun oneTime => ?_
  refine (h .kyber 1).bind fun lastResortId => ?_
  refine (hdraw 64).bind fun seeds => ?_
  refine (h .kyber p.sizes.kyber).bind fun kyberStart => ?_
  refine (mimics_mapM_draw _ 64 _).bind fun kyber => ?_
  exact fun _ _ => rfl

theorem mimics_generateBoth {ledger' : Role → LedgerOn τ} {ledger : Role → LedgerOn σ}
    (h : ∀ role space count, Mimics part (onState (ledger' role (.reserve space count)))
      (onState (ledger role (.reserve space count)))) (suite : Suite) (p : Provisioner)
    (now : Int64) :
    Mimics part (p.generateBoth suite ledger' now) (p.generateBoth suite ledger now) := by
  have hidentity : Mimics part drawIdentity drawIdentity := fun _ _ => rfl
  refine hidentity.bind fun primary => hidentity.bind fun secondary => ?_
  refine (mimics_generate (h .primary) suite p .primary primary now).bind fun b => ?_
  refine (mimics_generate (h .secondary) suite p .secondary secondary now).bind fun b' => ?_
  exact fun _ _ => rfl

end

theorem mimics_noting (role : Role) (space : Ledger.Space) (count : UInt32) :
    Mimics Prod.fst (onState (Device.noting role (.reserve space count)))
      (onState (Device.ledger role (.reserve space count))) := by
  apply mimics_onState
  rintro ⟨d, log⟩
  rw [Device.noting]
  dsimp only
  cases Device.ledger role (.reserve space count) d <;> rfl

theorem ids_one (start : UInt32) : ids start 1 = [start] := by
  simp [ids]

theorem handedOut_generate {suite : Suite} {p : Provisioner} {role : Role} {identity : IdentityKey}
    {now : Int64} {s s' : (Device × List Reservation) × Entropy} {b : Bundle}
    (h : p.generate suite (Device.noting role) role identity now s = .ok b s') (other : Role)
    (space : Ledger.Space) :
    handedOut other space s'.1.2 =
      handedOut other space s.1.2 ++ if role = other then b.ids space else [] := by
  obtain ⟨⟨d, log⟩, e⟩ := s
  obtain ⟨⟨hsignedId, hlastId⟩, s₁, s₂, s₃, hsigned, honeTime, hids, hlast, hkyber, hids'⟩ :=
    exists_ids_of_generate h
  obtain ⟨d₁, rfl, hids₁⟩ := exists_of_noting_eq_ok hsigned
  obtain ⟨d₂, rfl, hids₂⟩ := exists_of_noting_eq_ok honeTime
  obtain ⟨d₃, rfl, hids₃⟩ := exists_of_noting_eq_ok hlast
  obtain ⟨d₄, hs', hids₄⟩ := exists_of_noting_eq_ok hkyber
  rw [hs']
  simp only [List.append_assoc, List.cons_append, List.nil_append]
  rw [handedOut_append]
  congr 1
  simp only [handedOut, List.flatMap_cons, List.flatMap_nil, hids₁, hids₂, hids₃, hids₄, ids_one]
  by_cases hrole : role = other
  · cases space <;> simp [hrole, Bundle.ids, hsignedId, hlastId, hids, hids']
  · simp [hrole]

end Provisioner

section

variable {suite : Suite} {p : Provisioner} {now : Int64} {d d' : Device} {bundles : PerRole Bundle}

/-- Taking notes makes no difference to the device. -/
theorem endOf_generateBoth_noting (suite : Suite) (p : Provisioner) (now : Int64) (d : Device) :
    (endOf (p.generateBoth suite Device.ledger now (d, d.entropy))).1 =
      (endOf (p.generateBoth suite Device.noting now ((d, []), d.entropy))).1.1 := by
  rw [Provisioner.mimics_generateBoth Provisioner.mimics_noting suite p now (d, []) d.entropy]
  cases p.generateBoth suite Device.noting now ((d, []), d.entropy) <;> rfl

theorem handedOut_reservations (h : Device.generateBoth suite p now d = .ok bundles d')
    (role : Role) (space : Ledger.Space) :
    handedOut role space (Device.reservations suite p now d) = (bundles.get role).ids space := by
  obtain ⟨s', hboth⟩ := exists_of_generateBoth_eq_ok h
  rw [Provisioner.mimics_generateBoth Provisioner.mimics_noting suite p now (d, [])] at hboth
  rw [Device.reservations]
  cases hnoting : p.generateBoth suite Device.noting now ((d, []), d.entropy) with
  | error e s =>
    rw [hnoting] at hboth
    cases hboth
  | ok made s =>
    rw [hnoting] at hboth
    cases hboth
    obtain ⟨primary, secondary, e, s₁, hprimary, hsecondary⟩ :=
      exists_generate_of_generateBoth hnoting
    rw [endOf, Provisioner.handedOut_generate hsecondary, Provisioner.handedOut_generate hprimary]
    cases role <;> simp [handedOut, PerRole.get]

end

end Registrar
