import Registrar.Device.Basic
import Registrar.Proofs.Registration.Change

/-!
Work that goes through a list of changes in order.

Such work either makes them all or fails after some of them, which are then the first ones. It
fails because the storage does or because a fault says so, and it does not fail on a device where
no call is made to fail and every change is possible.
-/

namespace Registrar

open Database

/-- Whether a change is made in the database when the stores of keys are elsewhere. -/
def Change.beyondKeys : Change → Bool
  | .texts _ => true
  | .claim _ _ _ => true
  | .forgetSelf => true
  | _ => false

/-- The changes of a list that are made in the database of a device. -/
def Device.stored (d : Device) (cs : List Change) : List Change :=
  cs.filter fun c => d.memory.isNone || c.beyondKeys

/-- What has become of a device after some changes. -/
structure Reached (cs : List Change) (d d' : Device) : Prop where
  memory : d'.memory.isNone = d.memory.isNone
  database : d'.database = d.database.after (d.stored cs)
  cachedSelf : d'.cachedSelf = if cs.any Change.forgets then none else d.cachedSelf
  events : d'.events = d.events
  outages : d'.outages <:+ d.outages
  faults : ∀ f ∈ d'.faults, ∃ f' ∈ d.faults, f.error = f'.error

/-- A failure of the storage, or one that a fault of the device gives. -/
def Excused (d : Device) (e : KeyError) : Prop :=
  (∃ detail, e = .storage detail) ∨ ∃ f ∈ d.faults, e = f.error

/-- No call is made to fail, and the stores of keys are in the database. -/
structure Calm (d : Device) : Prop where
  memory : d.memory = none
  faults : d.faults = []
  outages : ∀ o ∈ d.outages, o = none

/-- Every change of a list is possible on a device. -/
def Allows (d : Device) (cs : List Change) : Prop := ∀ c ∈ d.stored cs, c.Allowed d.database

structure Follows {ε α : Type} (lift : KeyError → ε) (cs : List Change) (d : Device) (x : Act ε α)
    (post : α → Prop) : Prop where
  ok : ∀ a d', x d = .ok a d' → Reached cs d d' ∧ Allows d cs ∧ post a
  error : ∀ e d', x d = .error e d' →
    (∃ done, done <+: cs ∧ Reached done d d') ∧ ∃ k, e = lift k ∧ Excused d k
  calm : Calm d → d.database.Sound → Allows d cs → ∃ a d', x d = .ok a d'

variable {ε α β : Type} {lift : KeyError → ε} {cs cs' : List Change} {d d' d'' : Device}

/-! ### Changes of a device -/

theorem stored_of_memory_eq_none (h : d.memory = none) (cs : List Change) : d.stored cs = cs := by
  simp [Device.stored, h]

theorem stored_append (d : Device) (cs cs' : List Change) :
    d.stored (cs ++ cs') = d.stored cs ++ d.stored cs' :=
  List.filter_append cs cs'

namespace Reached

theorem refl (d : Device) : Reached [] d d where
  memory := rfl
  database := by simp [Device.stored]
  cachedSelf := rfl
  events := rfl
  outages := List.suffix_refl _
  faults f hf := ⟨f, hf, rfl⟩

theorem stored (h : Reached cs d d') (cs' : List Change) : d'.stored cs' = d.stored cs' := by
  simp only [Device.stored, h.memory]

theorem trans (h : Reached cs d d') (h' : Reached cs' d' d'') : Reached (cs ++ cs') d d'' where
  memory := h'.memory.trans h.memory
  database := by rw [h'.database, h.stored, h.database, stored_append, after_append]
  cachedSelf := by
    rw [h'.cachedSelf, h.cachedSelf, List.any_append]
    by_cases hcs : cs.any Change.forgets = true <;>
      by_cases hcs' : cs'.any Change.forgets = true <;> simp [hcs, hcs']
  events := h'.events.trans h.events
  outages := h'.outages.trans h.outages
  faults f hf := by
    obtain ⟨f', hf', herror⟩ := h'.faults f hf
    obtain ⟨f'', hf'', herror'⟩ := h.faults f' hf'
    exact ⟨f'', hf'', herror.trans herror'⟩

theorem excused (h : Reached cs d d') {e : KeyError} (he : Excused d' e) : Excused d e := by
  rcases he with he | ⟨f, hf, rfl⟩
  · exact Or.inl he
  · exact Or.inr (h.faults f hf)

theorem calm (h : Reached cs d d') (hcalm : Calm d) : Calm d' where
  memory := by simpa [hcalm.memory] using h.memory
  faults := by
    cases hfaults : d'.faults with
    | nil => rfl
    | cons f fs =>
      obtain ⟨f', hf', -⟩ := h.faults f (hfaults ▸ List.mem_cons_self)
      rw [hcalm.faults] at hf'
      cases hf'
  outages o ho := hcalm.outages o (h.outages.mem ho)

theorem sound (h : Reached cs d d') (hsound : d.database.Sound) : d'.database.Sound := by
  rw [h.database]
  exact hsound.after _

theorem allows_iff (h : Reached cs d d') {cs' : List Change} : Allows d' cs' ↔ Allows d cs' := by
  simp only [Allows, h.stored, h.database, allowed_after]

end Reached

theorem allows_append : Allows d (cs ++ cs') ↔ Allows d cs ∧ Allows d cs' := by
  simp only [Allows, stored_append, List.forall_mem_append]

/-! ### Work is put together -/

/-- The state in which work ends, whichever way it does. -/
def endOf {σ : Type} : EStateM.Result ε σ α → σ
  | .ok _ s => s
  | .error _ s => s

/-- What work comes to, if it succeeds. -/
def answerOf? {σ : Type} : EStateM.Result ε σ α → Option α
  | .ok a _ => some a
  | .error _ _ => none

theorem eq_ok_of_answerOf? {σ : Type} {r : EStateM.Result ε σ α} {a : α}
    (h : answerOf? r = some a) : r = .ok a (endOf r) := by
  cases r with
  | ok a' s =>
    cases h
    rfl
  | error e s => cases h

theorem act_bind_eq {σ : Type} (x : EStateM ε σ α) (f : α → EStateM ε σ β) (s : σ) :
    (x >>= f) s = match x s with
      | .ok a s' => f a s'
      | .error e s' => .error e s' := by
  change EStateM.bind x f s = _
  unfold EStateM.bind
  cases x s <;> rfl

theorem act_pure_eq {σ : Type} (a : α) (s : σ) : (pure a : EStateM ε σ α) s = .ok a s := rfl

/-- Work that is stopped in its first part ends where that does. -/
theorem endOf_bind_of_stopped {σ : Type} {x : EStateM ε σ α} {s : σ} (h : answerOf? (x s) = none)
    (f : α → EStateM ε σ β) : endOf ((x >>= f) s) = endOf (x s) := by
  rw [act_bind_eq]
  cases hx : x s with
  | ok a s' =>
    rw [hx] at h
    cases h
  | error e s' => rfl

theorem answerOf?_bind_of_stopped {σ : Type} {x : EStateM ε σ α} {s : σ}
    (h : answerOf? (x s) = none) (f : α → EStateM ε σ β) : answerOf? ((x >>= f) s) = none := by
  rw [act_bind_eq]
  cases hx : x s with
  | ok a s' =>
    rw [hx] at h
    cases h
  | error e s' => rfl

theorem endOf_bind_of_ok {σ : Type} {x : EStateM ε σ α} {a : α} {s s' : σ} (h : x s = .ok a s')
    (f : α → EStateM ε σ β) : endOf ((x >>= f) s) = endOf (f a s') := by
  rw [act_bind_eq, h]

theorem act_get_bind_eq {σ : Type} (f : σ → EStateM ε σ β) (s : σ) :
    ((get : EStateM ε σ σ) >>= f) s = f s s := rfl

namespace Follows

theorem mono {x : Act ε α} {post post' : α → Prop} (h : Follows lift cs d x post)
    (hpost : ∀ a, post a → post' a) : Follows lift cs d x post' where
  ok a d' hx := by
    obtain ⟨hreached, hallows, ha⟩ := h.ok a d' hx
    exact ⟨hreached, hallows, hpost a ha⟩
  error := h.error
  calm := h.calm

theorem congr {x : Act ε α} {post : α → Prop} (h : Follows lift cs d x post) (hcs : cs = cs') :
    Follows lift cs' d x post :=
  hcs ▸ h

theorem pure {a : α} {post : α → Prop} (ha : post a) : Follows lift [] d (Pure.pure a) post where
  ok a' d' hx := by
    cases hx
    exact ⟨Reached.refl d, fun c hc => by simp [Device.stored] at hc, ha⟩
  error e d' hx := by cases hx
  calm _ _ _ := ⟨a, d, rfl⟩

theorem bind {x : Act ε α} {f : α → Act ε β} {post : α → Prop} {post' : β → Prop}
    (hx : Follows lift cs d x post)
    (hf : ∀ a d', post a → Reached cs d d' → Allows d cs → Follows lift cs' d' (f a) post') :
    Follows lift (cs ++ cs') d (x >>= f) post' where
  ok b d'' h := by
    rw [act_bind_eq] at h
    cases hxd : x d with
    | error e d' =>
      rw [hxd] at h
      cases h
    | ok a d' =>
      rw [hxd] at h
      obtain ⟨hreached, hallows, ha⟩ := hx.ok a d' hxd
      obtain ⟨hreached', hallows', hb⟩ := (hf a d' ha hreached hallows).ok b d'' h
      exact ⟨hreached.trans hreached', allows_append.2 ⟨hallows, hreached.allows_iff.1 hallows'⟩, hb⟩
  error e d'' h := by
    rw [act_bind_eq] at h
    cases hxd : x d with
    | error e' d' =>
      rw [hxd] at h
      cases h
      -- Nothing of the second part was done.
      obtain ⟨⟨done, hdone, hreached⟩, hexcused⟩ := hx.error _ _ hxd
      exact ⟨⟨done, hdone.trans (List.prefix_append _ _), hreached⟩, hexcused⟩
    | ok a d' =>
      rw [hxd] at h
      -- The first part was done as a whole, and a part of the second.
      obtain ⟨hreached, hallows, ha⟩ := hx.ok a d' hxd
      obtain ⟨⟨done, hdone, hreached'⟩, k, hk, hexcused⟩ :=
        (hf a d' ha hreached hallows).error e d'' h
      exact ⟨⟨cs ++ done, (List.prefix_append_right_inj cs).2 hdone, hreached.trans hreached'⟩, k, hk,
        hreached.excused hexcused⟩
  calm hcalm hsound hallows := by
    obtain ⟨hallows, hallows'⟩ := allows_append.1 hallows
    obtain ⟨a, d', hxd⟩ := hx.calm hcalm hsound hallows
    obtain ⟨hreached, -, ha⟩ := hx.ok a d' hxd
    rw [act_bind_eq, hxd]
    exact (hf a d' ha hreached hallows).calm (hreached.calm hcalm) (hreached.sound hsound)
      (hreached.allows_iff.2 hallows')

/-- Whichever way work ends, it has made a first part of its changes. -/
theorem exists_done {x : Act ε α} {post : α → Prop} (h : Follows lift cs d x post) :
    ∃ done, done <+: cs ∧ Reached done d (endOf (x d)) := by
  cases hx : x d with
  | ok a d' => exact ⟨cs, List.prefix_refl cs, (h.ok a d' hx).1⟩
  | error e d' => exact (h.error e d' hx).1

/-- Work for each item of a list in turn. -/
theorem forM {γ : Type} {items : List γ} {f : γ → Act ε PUnit} {change : γ → Change}
    (h : ∀ item d', Follows lift [change item] d' (f item) fun _ => True) :
    Follows lift (items.map change) d (items.forM f) fun _ => True := by
  induction items generalizing d with
  | nil => exact pure trivial
  | cons item items ih => exact (h item d).bind fun _ _ _ _ _ => ih

/-- Work for both roles. -/
theorem both {f : Role → Act ε PUnit} (h : Follows lift cs d (f .primary) fun _ => True)
    (h' : ∀ d', Reached cs d d' → Follows lift cs' d' (f .secondary) fun _ => True) :
    Follows lift (cs ++ cs') d (Role.all.forM f) fun _ => True := by
  have hboth : Follows lift (cs ++ (cs' ++ [])) d (Role.all.forM f) fun _ => True :=
    h.bind fun _ d' _ hreached _ => (h' d' hreached).bind fun _ _ _ _ _ => pure trivial
  rwa [List.append_nil] at hboth

theorem registering_ok {x : Act KeyError α} {a : α} (h : x d = .ok a d') :
    Device.registering x d = .ok a d' := by
  simp only [Device.registering, EStateM.adaptExcept, h]

theorem registering_error {x : Act KeyError α} {e : KeyError} (h : x d = .error e d') :
    Device.registering x d = .error (Failure.ofKeyError e) d' := by
  simp only [Device.registering, EStateM.adaptExcept, h]

/-- The same work with its failures in the words of a registration. -/
theorem registering {x : Act KeyError α} {post : α → Prop} (h : Follows id cs d x post) :
    Follows Failure.ofKeyError cs d (Device.registering x) post where
  ok a d' hx := by
    cases hxd : x d with
    | ok a' d'' =>
      rw [registering_ok hxd] at hx
      cases hx
      exact h.ok a d' hxd
    | error k d'' =>
      rw [registering_error hxd] at hx
      cases hx
  error e d' hx := by
    cases hxd : x d with
    | ok a' d'' =>
      rw [registering_ok hxd] at hx
      cases hx
    | error k d'' =>
      rw [registering_error hxd] at hx
      cases hx
      obtain ⟨hdone, _, rfl, hexcused⟩ := h.error k d' hxd
      exact ⟨hdone, _, rfl, hexcused⟩
  calm hcalm hsound hallows := by
    obtain ⟨a, d', hxd⟩ := h.calm hcalm hsound hallows
    exact ⟨a, d', registering_ok hxd⟩

end Follows

theorem reached_clearSelf (d : Device) :
    Reached [.forgetSelf] d { d with cachedSelf := none } where
  memory := rfl
  database := by simp [Device.stored, Change.beyondKeys, after]
  cachedSelf := rfl
  events := rfl
  outages := List.suffix_refl _
  faults f hf := ⟨f, hf, rfl⟩

theorem follows_clearSelf (d : Device) :
    Follows lift [.forgetSelf] d Device.clearSelf fun _ => True := by
  have hallows : Allows d [.forgetSelf] := by
    simp [Allows, Device.stored, Change.beyondKeys, Change.Allowed]
  refine ⟨fun a d' h => ?_, fun e d' h => (by cases h), fun _ _ _ => ⟨_, _, rfl⟩⟩
  cases h
  exact ⟨reached_clearSelf d, hallows, trivial⟩

end Registrar
