import Registrar.Proofs.Account
import Registrar.Proofs.Prekey.Reservations
import Registrar.Proofs.Registration.History

/-!
The ids that a device hands out in the course of time.

Whatever else is done with a device between two requests for ids, the counters stay where they are.
So over a whole run the ids of a space are handed out from one on, none is left out and none comes
twice.
-/

namespace Registrar

open Database Registration

/-! ### What is done with a device -/

def Deed.made (suite : Suite) (d : Device) : Deed → List (PerRole Bundle)
  | generate p c => (answerOf? (Device.generateBoth suite p c.now (d.under c))).toList
  | register _ _ => []

/-- Something that is done with a device and its single values. -/
inductive Command where
  | deed (x : Deed)
  | ledger (role : Role) (r : Ledger.Request) (c : Circumstances)
  | account (r : Account.Request) (c : Circumstances)

namespace Command

/-- The device after a command, whichever way that ended. -/
def leave (suite : Suite) (d : Device) : Command → Device
  | deed x => x.leave suite d
  | ledger role r c => endOf (Device.ledger role r (d.under c))
  | account r c => endOf (Device.ask (Account.answer r) (d.under c))

def reservations (suite : Suite) (d : Device) : Command → List Reservation
  | deed (.generate p c) => Device.reservations suite p c.now (d.under c)
  | ledger role (.reserve space count) c => [⟨role, space, count, d.under c⟩]
  | _ => []

def made (suite : Suite) (d : Device) : Command → List (PerRole Bundle)
  | deed x => x.made suite d
  | _ => []

end Command

/-- What is gathered from each command of a run. -/
def gather {α : Type} (suite : Suite) (f : Device → Command → List α) :
    Device → List Command → List α
  | _, [] => []
  | d, x :: xs => f d x ++ gather suite f (x.leave suite d) xs

def Device.issued (suite : Suite) (d : Device) (xs : List Command) : List Reservation :=
  gather suite (Command.reservations suite) d xs

def Device.bundles (suite : Suite) (d : Device) (xs : List Command) : List (PerRole Bundle) :=
  gather suite (Command.made suite) d xs

/-! ### Nothing else moves a counter -/

section

variable {suite : Suite} {d : Device} {log : List Reservation} {role : Role}

theorem countsTo_under (h : d.CountsTo log) (c : Circumstances) : (d.under c).CountsTo log :=
  ⟨h.memory, h.isOpen, h.tells⟩

theorem slotKey_ne_counter (slot : Ledger.Slot) (hslot : ∀ space, slot ≠ .counter space)
    (role role' : Role) (space : Ledger.Space) :
    slotKey role slot ≠ slotKey role' (.counter space) :=
  fun heq => hslot space (slotKey_inj.1 heq).2

theorem exists_texts_of_answerLedger {r : Ledger.Request} {a : r.Reply} {db db' : Database}
    (hr : ∀ space count, r ≠ .reserve space count) (h : answerLedger role r db = .ok (a, db')) :
    ∃ ws, db' = db.after [.texts ws] ∧
      ∀ w ∈ ws, ∃ slot, (∀ space, slot ≠ .counter space) ∧ w.1 = slotKey role slot := by
  cases r with
  | reserve space count => exact absurd rfl (hr space count)
  | pointer p =>
    obtain rfl := eq_of_readNumber (Query.mapError_eq_ok.1 h)
    exact ⟨[], (after_texts_nil _).symm, fun w hw => by cases hw⟩
  | setPointer p id =>
    refine ⟨_, eq_of_writeText (Query.mapError_eq_ok.1 h), List.forall_mem_singleton.2 ?_⟩
    exact ⟨.pointer p, by simp, rfl⟩
  | isRegistered =>
    obtain rfl := eq_of_readBool (Query.mapError_eq_ok.1 h)
    exact ⟨[], (after_texts_nil _).symm, fun w hw => by cases hw⟩
  | setRegistered value =>
    refine ⟨_, eq_of_writeText (Query.mapError_eq_ok.1 h), List.forall_mem_singleton.2 ?_⟩
    exact ⟨.registered, by simp, rfl⟩

theorem countsTo_ledger (h : d.CountsTo log) {r : Ledger.Request}
    (hr : ∀ space count, r ≠ .reserve space count) :
    (endOf (Device.ledger role r d)).CountsTo log := by
  rcases ledger_cases h.memory r with
    ⟨e, d', hledger, hdatabase, hmemory⟩ | ⟨a, d', hledger, hanswer, hmemory⟩
  · rw [hledger]
    exact h.of_database_eq hdatabase hmemory
  · obtain ⟨ws, hdatabase, hws⟩ := exists_texts_of_answerLedger hr hanswer
    rw [hledger]
    refine h.after_texts (fun w hw role' space => ?_) hdatabase hmemory
    obtain ⟨slot, hslot, hkey⟩ := hws w hw
    rw [hkey]
    exact slotKey_ne_counter slot hslot role role' space

theorem countsTo_account (h : d.CountsTo log) (r : Account.Request) :
    (endOf (Device.ask (Account.answer r) d)).CountsTo log := by
  rcases query_cases Database.failure (Account.answer r) d with
    ⟨e, -, hask⟩ | ⟨e, -, hask⟩ | ⟨a, db', hanswer, hask⟩
  · rw [Device.ask, hask]
    exact h.of_database_eq rfl h.memory
  · rw [Device.ask, hask]
    exact h.of_database_eq rfl h.memory
  · obtain ⟨ws, hws, hdatabase⟩ := exists_texts_of_answer hanswer
    rw [Device.ask, hask]
    refine h.after_texts (fun w hw role space => ?_) hdatabase h.memory
    obtain ⟨entry, hentry⟩ := hws w hw
    rw [hentry]
    exact key_ne_ledgerKey entry role _

theorem countsTo_register (h : d.CountsTo log) (suite : Suite) (a : Attempt) (c : Circumstances) :
    (a.leave suite d c).CountsTo log := by
  cases hids : confirmed a.response.confirmation with
  | error f =>
    rw [leave_of_confirmed_error hids]
    exact countsTo_under h c
  | ok ids =>
    obtain ⟨done, hdone, d₁, events, hreached, hleave⟩ := exists_done_of_leave suite d c hids
    obtain ⟨hmemory, hdatabase⟩ := hreached.of_under h.memory
    rw [hleave]
    refine h.after (fun change hchange w hw role space hkey => ?_) hdatabase hmemory
    have hplan := mem_keys_of_plan (List.mem_flatMap.2 ⟨change, hdone.mem hchange, hw⟩)
    rw [hkey] at hplan
    exact counterKey_not_mem role space hplan

theorem countsTo_leave (suite : Suite) (h : d.CountsTo log) (x : Command) :
    (x.leave suite d).CountsTo (log ++ x.reservations suite d) ∧
      Orderly log (x.reservations suite d) := by
  have hunder := countsTo_under h
  have hnone (hx : x.reservations suite d = []) (hleave : (x.leave suite d).CountsTo log) :
      (x.leave suite d).CountsTo (log ++ x.reservations suite d) ∧
        Orderly log (x.reservations suite d) := by
    rw [hx, List.append_nil]
    exact ⟨hleave, trivial⟩
  cases x with
  | deed x =>
    cases x with
    | generate p c => exact (hunder c).generateBoth suite p c.now
    | register a c => exact hnone rfl (countsTo_register h suite a c)
  | ledger role r c =>
    by_cases hr : ∃ space count, r = .reserve space count
    · obtain ⟨space, count, rfl⟩ := hr
      exact ⟨(hunder c).reserve role space count, (hunder c).proper role space count, trivial⟩
    · have hr' (space : Ledger.Space) (count : UInt32) : r ≠ .reserve space count :=
        fun heq => hr ⟨space, count, heq⟩
      refine hnone ?_ (countsTo_ledger (hunder c) hr')
      cases r <;> first | rfl | exact absurd rfl (hr' _ _)
  | account r c => exact hnone rfl (countsTo_account (hunder c) r)

/-! ### A whole run -/

theorem orderly_issued (suite : Suite) (h : d.CountsTo log) (xs : List Command) :
    Orderly log (d.issued suite xs) := by
  induction xs generalizing d log with
  | nil => trivial
  | cons x xs ih =>
    obtain ⟨hleave, horderly⟩ := countsTo_leave suite h x
    exact horderly.append (ih hleave)

theorem sublist_made (suite : Suite) (d : Device) (x : Command) (role : Role)
    (space : Ledger.Space) :
    ((x.made suite d).flatMap fun b => (b.get role).ids space).Sublist
      (handedOut role space (x.reservations suite d)) := by
  cases x with
  | deed x =>
    cases x with
    | generate p c =>
      rw [Command.made, Deed.made, Command.reservations]
      cases hboth : Device.generateBoth suite p c.now (d.under c) with
      | error e d' => exact List.nil_sublist _
      | ok bundles d' =>
        rw [handedOut_reservations hboth]
        simp [answerOf?]
    | register a c => exact List.nil_sublist _
  | _ => exact List.nil_sublist _

theorem sublist_bundles (suite : Suite) (d : Device) (xs : List Command) (role : Role)
    (space : Ledger.Space) :
    ((d.bundles suite xs).flatMap fun b => (b.get role).ids space).Sublist
      (handedOut role space (d.issued suite xs)) := by
  induction xs generalizing d with
  | nil => exact List.nil_sublist _
  | cons x xs ih =>
    rw [Device.bundles, Device.issued, gather, gather, List.flatMap_append, handedOut_append]
    exact (sublist_made suite d x role space).append (ih (x.leave suite d))

/--
In a run from a fresh device every request for ids is given the ones after all that its role was
given of the space before, or none; and the ids of the bundles that are made grow as they are
issued.
-/
theorem ids_issued_in_order (suite : Suite) (entropy : Entropy) (xs : List Command) :
    (∀ before r after, (Device.fresh entropy).issued suite xs = before ++ r :: after →
      r.Proper before) ∧
    ∀ role space, (((Device.fresh entropy).bundles suite xs).flatMap fun b =>
      (b.get role).ids space).Pairwise (· < ·) := by
  have horderly := orderly_issued suite (countsTo_fresh entropy) xs
  refine ⟨fun before r after hissued => ?_, fun role space => ?_⟩
  · rw [hissued] at horderly
    simpa using horderly.proper
  · exact (horderly.pairwise_handedOut role space).sublist (sublist_bundles suite _ xs role space)

end

namespace Sample

/-- A role asks for ids of a space twice, and in between the other role does. -/
def asking : List Command :=
  [.ledger .primary (.reserve .kyber 5) calm, .ledger .secondary (.reserve .kyber 1) calm,
    .ledger .primary (.reserve .kyber 2) calm]

/-- The device as the last of these requests finds it. -/
def asked : Device :=
  ((asking.take 2).foldl (Command.leave Suite.standard) (.fresh entropy)).under calm

end Sample

theorem ids_issued_in_order_asking :
    ∃ before, (Device.fresh Sample.entropy).issued Suite.standard Sample.asking =
        before ++ [⟨.primary, .kyber, 2, Sample.asked⟩] ∧
      total .primary .kyber before = 5 ∧
      ∃ first, answerOf? (Device.ledger .primary (.reserve .kyber 2) Sample.asked) = some first ∧
        first.toNat = 6 := by
  have hproper := (ids_issued_in_order Suite.standard Sample.entropy Sample.asking).1 [_, _]
    ⟨.primary, .kyber, 2, Sample.asked⟩ [] rfl
  refine ⟨[_, _], rfl, by decide +kernel, ?_⟩
  have hanswered :
      (answerOf? (Device.ledger .primary (.reserve .kyber 2) Sample.asked)).isSome = true := by
    decide +kernel
  obtain ⟨first, hfirst⟩ := Option.isSome_iff_exists.1 hanswered
  refine ⟨first, hfirst, ?_⟩
  rw [(hproper.ok first _ (eq_ok_of_answerOf? hfirst)).1]
  decide +kernel

end Registrar
