import Registrar.Database.Basic

/-!
What a query comes to on a database, one step after the other.
-/

namespace Registrar.Query

variable {ε ε' α β : Type}

@[simp]
theorem bind_apply (q : Query ε α) (f : α → Query ε β) (db : Database) :
    (q >>= f) db = match q db with
      | .ok (a, db') => f a db'
      | .error e => .error e := by
  show StateT.bind q f db = _
  simp only [StateT.bind, Bind.bind, Except.bind]
  cases q db <;> rfl

theorem bind_of_ok {q : Query ε α} {f : α → Query ε β} {a : α} {db db' : Database}
    (h : q db = .ok (a, db')) : (q >>= f) db = f a db' := by
  rw [bind_apply, h]

@[simp]
theorem pure_apply (a : α) (db : Database) : (pure a : Query ε α) db = .ok (a, db) := rfl

@[simp]
theorem throw_apply (e : ε) (db : Database) : (throw e : Query ε α) db = .error e := rfl

@[simp]
theorem get_apply (db : Database) : (get : Query ε Database) db = .ok (db, db) := rfl

@[simp]
theorem modify_apply (f : Database → Database) (db : Database) :
    (modify f : Query ε PUnit) db = .ok (⟨⟩, f db) := rfl

@[simp]
theorem lift_apply (x : Except ε α) (db : Database) :
    (liftM x : Query ε α) db = x.map fun a => (a, db) := by
  cases x <;> rfl

theorem exists_of_bind_eq_ok {q : Query ε α} {f : α → Query ε β} {db : Database}
    {result : β × Database} (h : (q >>= f) db = .ok result) :
    ∃ a db', q db = .ok (a, db') ∧ f a db' = .ok result := by
  rw [bind_apply] at h
  cases hq : q db with
  | ok r =>
    rw [hq] at h
    exact ⟨r.1, r.2, rfl, h⟩
  | error e =>
    rw [hq] at h
    cases h

theorem mapError_eq_ok {f : ε → ε'} {q : Query ε α} {db : Database} {result : α × Database} :
    q.mapError f db = .ok result ↔ q db = .ok result := by
  rw [mapError]
  cases q db with
  | ok a =>
    constructor
    · rintro ⟨⟩
      rfl
    · rintro ⟨⟩
      rfl
  | error e =>
    constructor
    · rintro ⟨⟩
    · rintro ⟨⟩

theorem mapError_eq_error {f : ε → ε'} {q : Query ε α} {db : Database} {e' : ε'} :
    q.mapError f db = .error e' ↔ ∃ e, q db = .error e ∧ f e = e' := by
  rw [mapError]
  cases q db with
  | ok a =>
    constructor
    · rintro ⟨⟩
    · rintro ⟨_, ⟨⟩, _⟩
  | error e =>
    constructor
    · rintro ⟨⟩
      exact ⟨e, rfl, rfl⟩
    · rintro ⟨e, ⟨⟩, rfl⟩
      rfl

theorem mapError_bind (f : ε → ε') (q : Query ε α) (g : α → Query ε β) :
    (q >>= g).mapError f = q.mapError f >>= fun a => (g a).mapError f := by
  funext db
  simp only [mapError, bind_apply]
  cases q db <;> rfl

@[simp]
theorem need_apply (name : TableName) (table : Option α) (db : Database) :
    Database.need name table db = match table with
      | some t => .ok (t, db)
      | none => .error (.noSuchTable name.name) := rfl

end Registrar.Query
