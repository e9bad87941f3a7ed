import Registrar.Proofs.Account
import Registrar.Proofs.Prekey.Slots
import Registrar.Proofs.Store.Asking

/-!
Ledgers in a database and ledgers in memory.

Every value that a ledger in memory has stands as a text in its place, and a counter that is still
zero may be missing. Whatever is asked of the ledgers keeps it so, and so does what is kept of the
account, which stands under other keys. So the database answers the next request as memory would.
-/

namespace Registrar

open Database

/-- The text in a place is what a ledger in memory would have there. -/
def Ledger.Memory.Keeps (m : Ledger.Memory) (raw : Option String) : Ledger.Slot → Prop
  | .counter space => Tells raw (m.counter space)
  | .pointer p => raw = (m.pointer p).map Text.numeral
  | .registered => (raw == some "1") = m.registered

/-- The database has what a ledger in memory for each role has. -/
structure Database.MirrorsLedgers (db : Database) (m : PerRole Ledger.Memory) : Prop where
  isOpen : db.Open
  slots : ∀ role slot, (m.get role).Keeps (db.slot? role slot) slot

theorem mirrorsLedgers_empty : ({} : Database).MirrorsLedgers ⟨{}, {}⟩ := by
  refine ⟨open_empty, fun role slot => ?_⟩
  cases role <;> rcases slot with (_ | _ | _) | (_ | _) | _ <;>
    first | exact Or.inr ⟨rfl, rfl⟩ | rfl

/-- Answers a request from the ledger of a role in memory. -/
def Ledger.answerInMemory (role : Role) (r : Ledger.Request) :
    StateT (PerRole Ledger.Memory) (Except KeyError) r.Reply := fun m =>
  (Ledger.Memory.answer r (m.get role)).map fun (a, part) => (a, m.set part role)

def MemoryStores.ledgers (m : MemoryStores) : PerRole Ledger.Memory :=
  ⟨m.roles.primary.ledger, m.roles.secondary.ledger⟩

/-- Without faults, a device whose stores are in memory asks the ledgers there. -/
theorem ledger_of_memory {d : Device} {m : MemoryStores} (hmemory : d.memory = some m)
    (hfaults : d.faults = []) (role : Role) (r : Ledger.Request) :
    Device.ledger role r d = match Ledger.answerInMemory role r m.ledgers with
      | .ok (a, ledgers) =>
        let own := { m.roles.get role with ledger := ledgers.get role }
        .ok a { d with memory := some { m with roles := m.roles.set own role } }
      | .error e => .error e d := by
  have hget : m.ledgers.get role = (m.roles.get role).ledger := by
    cases role <;> rfl
  rw [Device.ledger, allow_bind_of_faults_eq_nil hfaults, act_get_bind_eq, Ledger.answerInMemory, hget]
  simp only [hmemory, Device.onMemory]
  cases Ledger.Memory.answer r (m.roles.get role).ledger with
  | error e => rfl
  | ok result => simp only [Except.map, PerRole.get_set]

/-! ### One request -/

section

variable {db : Database} {m : PerRole Ledger.Memory} {role : Role} {slot : Ledger.Slot}
  {part : Ledger.Memory} {value : String}

namespace Ledger.Memory

/-- The new value is said in its place, and elsewhere nothing has changed. -/
structure Writes (m part : Ledger.Memory) (slot : Ledger.Slot) (value : String) : Prop where
  self : part.Keeps (some value) slot
  others : ∀ other raw, other ≠ slot → m.Keeps raw other → part.Keeps raw other

theorem writes_setCounter (m : Ledger.Memory) (n : UInt32) (space : Ledger.Space) :
    m.Writes (m.setCounter n space) (.counter space) (Text.numeral n) := by
  refine ⟨Or.inl ?_, fun other raw hne h => ?_⟩
  · rw [counter_setCounter]
  · rcases other with space' | p | _
    · cases space <;> cases space' <;> first | exact h | exact absurd rfl hne
    all_goals
      cases space <;> exact h

theorem writes_setPointer (m : Ledger.Memory) (n : UInt32) (p : Ledger.Pointer) :
    m.Writes (m.setPointer n p) (.pointer p) (Text.numeral n) := by
  refine ⟨?_, fun other raw hne h => ?_⟩
  · cases p <;> rfl
  · rcases other with space | p' | _
    · cases p <;> exact h
    · cases p <;> cases p' <;> first | exact h | exact absurd rfl hne
    · cases p <;> exact h

theorem writes_setRegistered (m : Ledger.Memory) (value : Bool) :
    m.Writes { m with registered := value } .registered (boolText value) := by
  refine ⟨?_, fun other raw hne h => ?_⟩
  · cases value <;> rfl
  · rcases other with space | p | _
    · exact h
    · exact h
    · exact absurd rfl hne

end Ledger.Memory

namespace Database.MirrorsLedgers

theorem write (h : db.MirrorsLedgers m) (hwrites : (m.get role).Writes part slot value) :
    (db.after [.ledger role slot.name value]).MirrorsLedgers (m.set part role) := by
  refine ⟨h.isOpen.after _, fun other slot' => ?_⟩
  rw [h.isOpen.slot?_after_ledger]
  have hold := h.slots other slot'
  by_cases hother : other = role
  · subst hother
    rw [PerRole.get_set]
    by_cases hslot : slot' = slot
    · subst hslot
      rw [if_pos ⟨rfl, rfl⟩]
      exact hwrites.self
    · rw [if_neg fun hboth => hslot hboth.2]
      exact hwrites.others slot' _ hslot hold
  · rw [PerRole.get_set_of_ne _ _ hother, if_neg fun hboth => hother hboth.1]
    exact hold

theorem after_account (h : db.MirrorsLedgers m) {ws : List (String × Option String)}
    (hws : OfAccount ws) : (db.after [.texts ws]).MirrorsLedgers m := by
  refine ⟨h.isOpen.after _, fun role slot => ?_⟩
  rw [slot?_after]
  · exact h.slots role slot
  · intro c hc w hw
    rw [List.mem_singleton.1 hc] at hw
    obtain ⟨entry, hentry⟩ := hws w hw
    rw [hentry]
    exact key_ne_ledgerKey entry role _

theorem answerLedger (h : db.MirrorsLedgers m) (role : Role) (r : Ledger.Request) :
    Alike Database.MirrorsLedgers id (answerLedger role r db) (Ledger.answerInMemory role r m) := by
  have hkept : m.set (m.get role) role = m := by
    cases role <;> rfl
  cases r with
  | reserve space count =>
    have hreserve : Database.answerLedger role (.reserve space count) db = _ :=
      h.isOpen.reserve_eq (h.slots role (.counter space)) count
    rw [hreserve, Ledger.answerInMemory, Ledger.Memory.answer]
    dsimp only
    cases Ledger.reserve ((m.get role).counter space) count space.kind with
    | error e => exact .error
    | ok ids => exact .ok (h.write (Ledger.Memory.writes_setCounter _ _ space))
  | pointer p =>
    have hread : Database.answerLedger role (.pointer p) db =
        .ok ((m.get role).pointer p, db) :=
      Query.mapError_eq_ok.2 (h.isOpen.readNumber_eq role (.pointer p) (h.slots role (.pointer p)))
    rw [hread, Ledger.answerInMemory, Ledger.Memory.answer]
    refine .ok ?_
    rwa [hkept]
  | setPointer p id =>
    have hwrite : Database.answerLedger role (.setPointer p id) db = _ :=
      Query.mapError_eq_ok.2 (h.isOpen.writeText_eq (slotKey role (.pointer p)) _)
    rw [hwrite]
    exact .ok (h.write (Ledger.Memory.writes_setPointer _ id p))
  | isRegistered =>
    have hread : Database.answerLedger role .isRegistered db =
        .ok ((m.get role).registered, db) := by
      have hslot : (db.slot? role .registered == some "1") = (m.get role).registered :=
        h.slots role .registered
      have htext : readText (ledgerKey role "signed_registered") db = _ :=
        h.isOpen.readText_eq role .registered
      rw [Database.answerLedger, Query.mapError_eq_ok, readBool, Query.bind_apply, htext, ← hslot]
      rfl
    rw [hread, Ledger.answerInMemory, Ledger.Memory.answer]
    refine .ok ?_
    rwa [hkept]
  | setRegistered value =>
    have hwrite : Database.answerLedger role (.setRegistered value) db = _ :=
      Query.mapError_eq_ok.2 (h.isOpen.writeText_eq (slotKey role .registered) _)
    rw [hwrite]
    exact .ok (h.write (Ledger.Memory.writes_setRegistered _ value))

end Database.MirrorsLedgers

end

/-! ### Any requests -/

inductive ValueRequest where
  | ledger (role : Role) (r : Ledger.Request)
  | account (r : Account.Request)

namespace ValueRequest

/-- The database after a request. -/
def leave (db : Database) : ValueRequest → Database
  | ledger role r => stateAfter (answerLedger role r) db
  | account r => stateAfter (Account.answer r) db

/-- The ledgers in memory after a request. They know nothing of the account. -/
def leaveInMemory (m : PerRole Ledger.Memory) : ValueRequest → PerRole Ledger.Memory
  | ledger role r => stateAfter (Ledger.answerInMemory role r) m
  | account _ => m

end ValueRequest

theorem Database.MirrorsLedgers.leave {db : Database} {m : PerRole Ledger.Memory}
    (h : db.MirrorsLedgers m) (r : ValueRequest) :
    (r.leave db).MirrorsLedgers (r.leaveInMemory m) := by
  cases r with
  | ledger role r =>
    exact (h.answerLedger role r).stateAfter (x := Database.answerLedger role r)
      (y := Ledger.answerInMemory role r) h
  | account r =>
    rw [ValueRequest.leave, ValueRequest.leaveInMemory, stateAfter]
    cases hanswer : Account.answer r db with
    | error e => exact h
    | ok result =>
      obtain ⟨a, db'⟩ := result
      obtain ⟨ws, hws, rfl⟩ := exists_texts_of_answer hanswer
      exact h.after_account hws

/-- Whatever was asked before, the ledgers in the database answer as the ones in memory. -/
theorem replyOf_answerLedger (asked : List ValueRequest) (role : Role) (r : Ledger.Request) :
    replyOf (answerLedger role r) (asked.foldl ValueRequest.leave {}) =
      replyOf (Ledger.answerInMemory role r)
        (asked.foldl ValueRequest.leaveInMemory ⟨{}, {}⟩) := by
  have hafter : (asked.foldl ValueRequest.leave {}).MirrorsLedgers
      (asked.foldl ValueRequest.leaveInMemory ⟨{}, {}⟩) :=
    List.foldl_rel mirrorsLedgers_empty fun r _ _ _ h => h.leave r
  rw [(hafter.answerLedger role r).replyOf_eq (x := answerLedger role r)
    (y := Ledger.answerInMemory role r)]
  cases replyOf (Ledger.answerInMemory role r) _ <;> rfl

end Registrar
