import Registrar.Proofs.Database.KeyValues
import Registrar.Proofs.Registration.Calls

/-!
What changes the values that are kept of the account.

Whatever is asked, nothing is written but texts under the account's own keys.
-/

namespace Registrar

open Database

namespace Account

/-- What can be asked about the account and may change what is kept of it. -/
inductive Request where
  | setText (entry : Entry) (value : Option String)
  | setMarked (entry : Entry) (value : Bool)
  | setServiceId (id : ServiceId)
  | commitRegistered
  | registrationId (role : Role) (draw : Draw)

@[reducible]
def Request.Reply : Request → Type
  | .registrationId _ _ => UInt32
  | _ => Unit

def answer : (r : Request) → Query Failure r.Reply
  | .setText entry value => setText entry value
  | .setMarked entry value => setMarked entry value
  | .setServiceId id => setServiceId id
  | .commitRegistered => commitRegistered
  | .registrationId role draw => registrationId role draw

/-- A generator keeps to its bounds. -/
def Draw.InRange (draw : Draw) : Prop :=
  ∀ low high, low ≤ high → low ≤ draw low high ∧ draw low high ≤ high

theorem FreshId.inRange (fresh : FreshId) : fresh.draw.InRange := by
  intro low high hle
  rw [FreshId.draw]
  simp only [UInt32.lt_iff_toNat_lt, UInt32.le_iff_toNat_le] at hle ⊢
  split
  · omega
  · split <;> omega

end Account

/-- Every text of a list stands under a key of the account. -/
def OfAccount (ws : List (String × Option String)) : Prop :=
  ∀ w ∈ ws, ∃ entry : Account.Entry, w.1 = entry.key

variable {db db' : Database}

theorem after_texts_nil (db : Database) : db.after [.texts []] = db := by
  simp [after]

theorem exists_texts_of_registrationId {role : Role} {draw : Account.Draw} {id : UInt32}
    (h : Account.registrationId role draw db = .ok (id, db')) :
    ∃ ws, OfAccount ws ∧ db' = db.after [.texts ws] := by
  rw [Account.registrationId, Query.mapError_eq_ok] at h
  obtain ⟨found, db₁, hread, h₁⟩ := Query.exists_of_bind_eq_ok h
  obtain rfl := eq_of_readNumber hread
  have hwritten (hdb : (do
      writeNumber (Account.Entry.registrationId role).key (draw 1 16380)
      return draw 1 16380 : Query DatabaseError UInt32) db₁ = .ok (id, db')) :
      ∃ ws, OfAccount ws ∧ db' = db₁.after [.texts ws] := by
    obtain ⟨u, db₂, hwrite, hreturn⟩ := Query.exists_of_bind_eq_ok hdb
    cases hreturn
    exact ⟨_, List.forall_mem_singleton.2 ⟨.registrationId role, rfl⟩, eq_of_writeText hwrite⟩
  dsimp only at h₁
  split at h₁
  · split at h₁
    · cases h₁
      exact ⟨[], (fun w hw => by cases hw), (after_texts_nil _).symm⟩
    · exact hwritten h₁
  · exact hwritten h₁

theorem exists_texts_of_answer {r : Account.Request} {a : r.Reply}
    (h : Account.answer r db = .ok (a, db')) : ∃ ws, OfAccount ws ∧ db' = db.after [.texts ws] := by
  cases r with
  | setText entry value =>
    exact ⟨_, List.forall_mem_singleton.2 ⟨entry, rfl⟩, eq_of_writeText (Query.mapError_eq_ok.1 h)⟩
  | setMarked entry value =>
    exact ⟨_, List.forall_mem_singleton.2 ⟨entry, rfl⟩, eq_of_writeText (Query.mapError_eq_ok.1 h)⟩
  | setServiceId id =>
    exact ⟨_, List.forall_mem_singleton.2 ⟨.serviceId id.role, rfl⟩,
      eq_of_writeText (Query.mapError_eq_ok.1 h)⟩
  | commitRegistered =>
    refine ⟨commitTexts, ?_, (makes_commitRegistered.ok _ _ h).1⟩
    simp [OfAccount, commitTexts]
  | registrationId role draw => exact exists_texts_of_registrationId h

end Registrar
