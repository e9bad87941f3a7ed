/-!
Stores that answer alike.

A store answers a request in a state. Two stores whose states correspond answer alike when both give
the same answer and their states correspond afterwards, or both fail.
-/

namespace Registrar

variable {σ τ ε α : Type}

/-- What a request comes to. -/
def replyOf (x : StateT σ (Except ε) α) (s : σ) : Except ε α := (x s).map Prod.fst

/-- The state after a request; one that fails leaves it as it was. -/
def stateAfter (x : StateT σ (Except ε) α) (s : σ) : σ :=
  match x s with
  | .ok (_, s') => s'
  | .error _ => s

/--
Both give the same answer, and then correspond. Or both fail; the first may word its failure in its
own way.
-/
inductive Alike (R : σ → τ → Prop) (worded : ε → ε) : Except ε (α × σ) → Except ε (α × τ) → Prop
  | ok {a : α} {s : σ} {t : τ} (h : R s t) : Alike R worded (.ok (a, s)) (.ok (a, t))
  | error {e : ε} : Alike R worded (.error (worded e)) (.error e)

namespace Alike

variable {R : σ → τ → Prop} {worded : ε → ε}

theorem replyOf_eq {x : StateT σ (Except ε) α} {y : StateT τ (Except ε) α} {s : σ} {t : τ}
    (h : Alike R worded (x s) (y t)) : replyOf x s = (replyOf y t).mapError worded := by
  rw [replyOf, replyOf]
  generalize x s = out at h
  generalize y t = out' at h
  cases h <;> rfl

theorem stateAfter {x : StateT σ (Except ε) α} {y : StateT τ (Except ε) α} {s : σ} {t : τ}
    (h : Alike R worded (x s) (y t)) (hR : R s t) :
    R (stateAfter x s) (Registrar.stateAfter y t) := by
  rw [Registrar.stateAfter, Registrar.stateAfter]
  generalize x s = out at h
  generalize y t = out' at h
  cases h with
  | ok hR' => exact hR'
  | error => exact hR

end Alike

end Registrar
