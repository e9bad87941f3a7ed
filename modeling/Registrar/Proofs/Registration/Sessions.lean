import Mathlib.Data.Finset.Card
import Registrar.Proofs.Registration.Progress

/-!
Sessions, by what happened to them.

A run of stored sessions, ended sessions and attempts tells a history of events, and the table of
sessions is what these events make of it. So a session is read just if the latest event that
concerns it is that it was stored; once it has ended it is not read again unless it is stored
again.
-/

namespace Registrar

open Database Registration

/-! ### Events -/

/-- Something that happens to sessions. -/
inductive SessionEvent where
  | stored (role : Role) (address : String) (data : Bytes)
  /-- all sessions of a role end -/
  | archived (role : Role)
  deriving DecidableEq

namespace SessionEvent

def concerns (role : Role) (address : String) : SessionEvent → Bool
  | .stored role' address' _ => role' = role && address' = address
  | .archived role' => role' = role

/-- The latest event that concerns the session of a role with an address. -/
def latest? (role : Role) (address : String) (events : List SessionEvent) : Option SessionEvent :=
  (events.filter (concerns role address)).getLast?

/-- The session that there is after an event. -/
def data? : SessionEvent → Option Bytes
  | .stored _ _ data => some data
  | .archived _ => none

/-- What an event makes of the table of sessions. -/
def onTable (t : Table (Role × String) SessionRow) : SessionEvent → Table (Role × String) SessionRow
  | .stored role address data => t.insert (role, address) ⟨data, flag false⟩
  | .archived role => endSessions [role] t

end SessionEvent

/-- The session of a role with an address, if it has not ended. -/
def activeSession (t : Table (Role × String) SessionRow) (role : Role) (address : String) :
    Option Bytes :=
  ((t.find? (role, address)).filter fun row => row.archived = 0).map SessionRow.data

section

variable {t : Table (Role × String) SessionRow} {role role' : Role} {address address' : String}
  {events : List SessionEvent}

theorem activeSession_insert (data : Bytes) :
    activeSession (t.insert (role', address') ⟨data, flag false⟩) role address =
      if role' = role ∧ address' = address then some data else activeSession t role address := by
  rw [activeSession, Table.find?_insert]
  by_cases h : role' = role ∧ address' = address
  · obtain ⟨rfl, rfl⟩ := h
    simp [flag]
  · have hne : ¬(role, address) = (role', address') := by
      rintro ⟨⟩
      exact h ⟨rfl, rfl⟩
    rw [if_neg hne, if_neg h, activeSession]

theorem activeSession_endSessions (roles : List Role) :
    activeSession (endSessions roles t) role address =
      if role ∈ roles then none else activeSession t role address := by
  rw [activeSession, endSessions, Table.find?_mapRows, activeSession]
  by_cases h : role ∈ roles
  · cases t.find? (role, address) <;> simp [h, Option.filter]
  · cases t.find? (role, address) <;> simp [h]

theorem activeSession_onTable (event : SessionEvent) :
    activeSession (event.onTable t) role address =
      if event.concerns role address then event.data? else activeSession t role address := by
  cases event with
  | stored role' address' data =>
    simp only [SessionEvent.onTable, activeSession_insert, SessionEvent.concerns,
      Bool.and_eq_true, decide_eq_true_eq]
    rfl
  | archived role' =>
    simp only [SessionEvent.onTable, activeSession_endSessions, SessionEvent.concerns,
      List.mem_singleton, decide_eq_true_eq, @eq_comm _ role]
    rfl

theorem latest?_concat (event : SessionEvent) :
    SessionEvent.latest? role address (events ++ [event]) =
      if event.concerns role address then some event
      else SessionEvent.latest? role address events := by
  rw [SessionEvent.latest?, List.filter_append]
  by_cases h : event.concerns role address = true
  · rw [List.filter_singleton, h, if_pos rfl]
    exact List.getLast?_concat
  · rw [List.filter_singleton, if_neg h, SessionEvent.latest?]
    simp [h]

/-- After some events, the latest one that concerns a session tells whether there is one. -/
theorem activeSession_foldl (events : List SessionEvent) :
    activeSession (events.foldl SessionEvent.onTable t) role address =
      match SessionEvent.latest? role address events with
      | none => activeSession t role address
      | some event => event.data? := by
  induction events using List.reverseRecOn with
  | nil => rfl
  | append_singleton events event ih =>
    rw [List.foldl_append, List.foldl_cons, List.foldl_nil, activeSession_onTable, latest?_concat, ih]
    by_cases h : event.concerns role address = true
    · rw [if_pos h, if_pos h]
    · rw [if_neg h, if_neg h]

theorem concerns_of_latest? {event : SessionEvent}
    (h : SessionEvent.latest? role address events = some event) :
    event.concerns role address = true :=
  (List.mem_filter.1 (List.mem_of_getLast? h)).2

theorem activeSession_eq_some_iff (hnone : activeSession t role address = none) {data : Bytes} :
    activeSession (events.foldl SessionEvent.onTable t) role address = some data ↔
      SessionEvent.latest? role address events = some (.stored role address data) := by
  rw [activeSession_foldl]
  cases hlatest : SessionEvent.latest? role address events with
  | none => simp [hnone]
  | some event =>
    have hconcerns := concerns_of_latest? hlatest
    cases event with
    | archived role' => simp [SessionEvent.data?]
    | stored role' address' data' =>
      simp only [SessionEvent.concerns, Bool.and_eq_true, decide_eq_true_eq] at hconcerns
      obtain ⟨rfl, rfl⟩ := hconcerns
      simp [SessionEvent.data?]

/-! ### Reading the table -/

theorem activeSession_eq_some {data : Bytes} :
    activeSession t role address = some data ↔
      ∃ row, ((role, address), row) ∈ t.rows ∧ row.archived = 0 ∧ row.data = data := by
  simp only [activeSession, Option.map_eq_some_iff, Option.filter_eq_some_iff,
    Table.find?_eq_some_iff, decide_eq_true_eq, and_assoc]

/-- The number of sessions that have not ended is that of the addresses which have one. -/
theorem exists_addresses (t : Table (Role × String) SessionRow) (role : Role) :
    ∃ addresses : Finset String,
      (∀ address, address ∈ addresses ↔ ∃ data, activeSession t role address = some data) ∧
      (t.count fun k row => k.1 = role && row.archived = 0) = addresses.card := by
  let active := t.rows.filter fun row => row.1.1 = role && row.2.archived = 0
  have hmem (row : (Role × String) × SessionRow) :
      row ∈ active ↔ row ∈ t.rows ∧ row.1.1 = role ∧ row.2.archived = 0 := by
    rw [List.mem_filter, Bool.and_eq_true, decide_eq_true_eq, decide_eq_true_eq]
  have hkeys : (active.map Prod.fst).Nodup := (List.filter_sublist.map Prod.fst).nodup t.nodup_keys
  have hnodup : ((active.map Prod.fst).map Prod.snd).Nodup := by
    -- All these keys are of the same role, so they differ in the address.
    apply hkeys.map_on
    intro k hk k' hk' haddress
    obtain ⟨row, hrow, rfl⟩ := List.mem_map.1 hk
    obtain ⟨row', hrow', rfl⟩ := List.mem_map.1 hk'
    exact Prod.ext ((((hmem row).1 hrow).2.1).trans (((hmem row').1 hrow').2.1).symm) haddress
  refine ⟨((active.map Prod.fst).map Prod.snd).toFinset, fun address => ?_, ?_⟩
  · simp only [List.mem_toFinset, List.mem_map, activeSession_eq_some]
    constructor
    · rintro ⟨-, ⟨⟨⟨role', address'⟩, row⟩, hrow, rfl⟩, rfl⟩
      obtain ⟨hin, hrole, harchived⟩ := (hmem _).1 hrow
      obtain rfl : role' = role := hrole
      exact ⟨row.data, row, hin, harchived, rfl⟩
    · rintro ⟨data, row, hrow, harchived, -⟩
      exact ⟨_, ⟨_, (hmem _).2 ⟨hrow, rfl, harchived⟩, rfl⟩, rfl⟩
  · rw [List.toFinset_card_of_nodup hnodup, List.length_map, List.length_map, Table.count,
      List.countP_eq_length_filter]

variable {db : Database}

theorem answers_session (ht : db.sessions = some t) (role : Role) (address : String) :
    db.Answers (answerKeys role (.session address)) (activeSession t role address) := by
  simp only [Answers, answerKeys, Query.bind_apply, Query.get_apply, ht, needKeys_some,
    activeSession]
  rfl

theorem answers_activeSessions (ht : db.sessions = some t) (role : Role) :
    db.Answers (answerKeys role .activeSessions)
      (t.count fun k row => k.1 = role && row.archived = 0) := by
  simp only [Answers, answerKeys, Query.bind_apply, Query.get_apply, ht, needKeys_some]
  rfl

end

/-! ### Deeds -/

/-- Something that is done with the sessions of a device, under some circumstances. -/
inductive SessionDeed where
  | store (role : Role) (address : String) (data : Bytes) (c : Circumstances)
  | archive (role : Role) (c : Circumstances)
  | register (a : Attempt) (c : Circumstances)

namespace SessionDeed

def leave (suite : Suite) (d : Device) : SessionDeed → Device
  | store role address data c => endOf (Device.keys role (.storeSession address data) (d.under c))
  | archive role c => endOf (Device.keys role .archiveSessions (d.under c))
  | register a c => a.leave suite d c

/-- What a deed does to sessions. A call that fails does nothing to them. -/
def events (d : Device) : SessionDeed → List SessionEvent
  | store role address data c =>
    match answerOf? (Device.keys role (.storeSession address data) (d.under c)) with
    | none => []
    | some _ => [.stored role address data]
  | archive role c =>
    match answerOf? (Device.keys role .archiveSessions (d.under c)) with
    | none => []
    | some _ => [.archived role]
  | register a c => (Role.all.filter (a.archives d c)).map .archived

def history (suite : Suite) : Device → List SessionDeed → List SessionEvent
  | _, [] => []
  | d, deed :: deeds => deed.events d ++ history suite (deed.leave suite d) deeds

def leaveAll (suite : Suite) (d : Device) (deeds : List SessionDeed) : Device :=
  deeds.foldl (leave suite) d

end SessionDeed

section

variable {suite : Suite} {d : Device}

theorem foldl_archived (roles : List Role) (t : Table (Role × String) SessionRow) :
    (roles.map SessionEvent.archived).foldl SessionEvent.onTable t = endSessions roles t := by
  induction roles generalizing t with
  | nil => exact (congrFun endSessions_nil t).symm
  | cons role roles ih =>
    rw [List.map_cons, List.foldl_cons, ih]
    exact (endSessions_append [role] roles t).symm

theorem sessions_of_storeSession {role : Role} {address : String} {data : Bytes}
    {db db' : Database} {u : Unit}
    (h : answerKeys role (.storeSession address data) db = .ok (u, db')) :
    db'.sessions = db.sessions.map fun t => t.insert (role, address) ⟨data, flag false⟩ := by
  cases ht : db.sessions with
  | none =>
    simp only [answerKeys, Query.bind_apply, Query.get_apply, ht] at h
    cases h
  | some t =>
    simp only [answerKeys, Query.bind_apply, Query.get_apply, ht, needKeys_some] at h
    cases h
    rfl

theorem sessions_of_reached_nil {d' : Device} {c : Circumstances} (hmemory : d.memory = none)
    (h : Reached [] (d.under c) d') :
    d'.memory = none ∧ d'.database.sessions = d.database.sessions.map fun t => t := by
  obtain ⟨hnone, hdatabase⟩ := h.of_under hmemory
  rw [hdatabase, after_nil, Option.map_id']
  exact ⟨hnone, rfl⟩

/-- A deed makes of the sessions what its events say. -/
theorem sessions_leave_deed (suite : Suite) (hmemory : d.memory = none) (deed : SessionDeed) :
    (deed.leave suite d).memory = none ∧
      (deed.leave suite d).database.sessions =
        d.database.sessions.map fun t => (deed.events d).foldl SessionEvent.onTable t := by
  cases deed with
  | store role address data c =>
    rw [SessionDeed.leave, SessionDeed.events]
    have hunder : (d.under c).memory = none := hmemory
    rcases keys_cases hunder role (.storeSession address data) with
      ⟨e, d', hrun, hreached⟩ | ⟨u, d', hrun, hnone, hanswer⟩
    · rw [hrun]
      exact sessions_of_reached_nil hmemory hreached
    · rw [hrun]
      exact ⟨hnone, sessions_of_storeSession hanswer⟩
  | archive role c =>
    rw [SessionDeed.leave, SessionDeed.events]
    cases hrun : Device.keys role .archiveSessions (d.under c) with
    | error e d' => exact sessions_of_reached_nil hmemory (reached_of_keys_error hrun)
    | ok u d' =>
      have hreached := ((follows_archiveSessions role _).ok u d' hrun).1
      exact ⟨(hreached.of_under hmemory).1, hreached.sessions hmemory⟩
  | register a c =>
    refine ⟨(exists_changes_of_leave suite hmemory (.register a c)).1, ?_⟩
    simp only [SessionDeed.leave, SessionDeed.events, sessions_leave suite hmemory a c,
      foldl_archived]

theorem sessions_leaveAll (suite : Suite) (hmemory : d.memory = none) (deeds : List SessionDeed) :
    (SessionDeed.leaveAll suite d deeds).memory = none ∧
      (SessionDeed.leaveAll suite d deeds).database.sessions =
        d.database.sessions.map fun t =>
          (SessionDeed.history suite d deeds).foldl SessionEvent.onTable t := by
  induction deeds generalizing d with
  | nil => exact ⟨hmemory, Option.map_id'.symm⟩
  | cons deed deeds ih =>
    obtain ⟨hnone, hdeed⟩ := sessions_leave_deed suite hmemory deed
    obtain ⟨hnone', hdeeds⟩ := ih hnone
    refine ⟨hnone', ?_⟩
    rw [hdeed, Option.map_map] at hdeeds
    simp only [SessionDeed.history, List.foldl_append]
    exact hdeeds

/-- No session of any role has not ended. -/
def Database.NoSessions (db : Database) : Prop :=
  ∀ role, db.Answers (answerKeys role .activeSessions) 0

theorem exists_sessions_of_none {db : Database} (h : db.NoSessions) :
    ∃ t, db.sessions = some t ∧ ∀ role address, activeSession t role address = none := by
  cases ht : db.sessions with
  | none =>
    have hanswer := h .primary
    simp only [Answers, answerKeys, Query.bind_apply, Query.get_apply, ht] at hanswer
    cases hanswer
  | some t =>
    refine ⟨t, rfl, fun role address => ?_⟩
    obtain ⟨addresses, hmem, hcount⟩ := exists_addresses t role
    have hanswer := (answers_activeSessions ht role).symm.trans (h role)
    rw [hcount] at hanswer
    have hcard : addresses.card = 0 := by injection hanswer with hanswer; exact congrArg Prod.fst hanswer
    cases hactive : activeSession t role address with
    | none => rfl
    | some data =>
      have hin := (hmem address).2 ⟨data, hactive⟩
      rw [Finset.card_eq_zero.1 hcard] at hin
      exact absurd hin (Finset.notMem_empty address)

end

/-! ### Reading by history -/

theorem find?_foldl_archived {role' : Role} {events : List SessionEvent}
    (h : ∀ event ∈ events, ∃ role, role ≠ role' ∧ event = .archived role)
    (t : Table (Role × String) SessionRow) (address : String) :
    (events.foldl SessionEvent.onTable t).find? (role', address) = t.find? (role', address) := by
  induction events generalizing t with
  | nil => rfl
  | cons event events ih =>
    obtain ⟨role, hrole, rfl⟩ := h event List.mem_cons_self
    rw [List.foldl_cons, ih fun event' h' => h event' (List.mem_cons_of_mem _ h'),
      SessionEvent.onTable, endSessions, Table.find?_mapRows]
    simp [Ne.symm hrole]

theorem noSessions_of_runOn_ok {suite : Suite} {a : Attempt} {d d' : Device} {c : Circumstances}
    {response : Response} (hmemory : d.memory = none) (h : a.runOn suite d c = .ok response d') :
    d'.database.NoSessions := by
  intro role
  obtain ⟨aci, pni, d₁, events, -, hstore, -, -, rfl⟩ := exists_store_of_run_ok h
  obtain ⟨hdatabase, -, hallowed⟩ := database_of_store_ok (d := d.under c) hmemory hstore
  rw [hdatabase]
  exact activeSessions_after_plan hallowed role

/--
From a start without sessions, whatever is done with them: a session is read just if the latest
event that concerns it is that it was stored, and with the data of that event; and as many are
counted as are read. An attempt that succeeds leaves none, and what ends sessions of other roles
only leaves the rows of a role alone.
-/
theorem session_iff_stored_last (suite : Suite) {d : Device} (hmemory : d.memory = none)
    (hnone : d.database.NoSessions) (deeds : List SessionDeed) :
    let d' := SessionDeed.leaveAll suite d deeds
    let latest := fun role address =>
      SessionEvent.latest? role address (SessionDeed.history suite d deeds)
    (∀ role address, ∃ found,
      d'.database.Answers (answerKeys role (.session address)) found ∧
        ∀ data, found = some data ↔ latest role address = some (.stored role address data)) ∧
    (∀ role, ∃ addresses : Finset String,
      (∀ address, address ∈ addresses ↔
        ∃ data, latest role address = some (.stored role address data)) ∧
      d'.database.Answers (answerKeys role .activeSessions) addresses.card) ∧
    (∀ (a : Attempt) c response d'', a.runOn suite d' c = .ok response d'' →
      d''.database.NoSessions) ∧
    ∀ (deed : SessionDeed) role',
      (∀ event ∈ deed.events d', ∃ role, role ≠ role' ∧ event = .archived role) →
      ∀ address, (deed.leave suite d').database.sessions.map (·.find? (role', address)) =
        d'.database.sessions.map (·.find? (role', address)) := by
  intro d' latest
  obtain ⟨t, ht, hstart⟩ := exists_sessions_of_none hnone
  obtain ⟨hmemory', hsessions⟩ := sessions_leaveAll suite hmemory deeds
  rw [ht, Option.map_some] at hsessions
  have hiff (role : Role) (address : String) (data : Bytes) :
      activeSession ((SessionDeed.history suite d deeds).foldl SessionEvent.onTable t) role address =
        some data ↔ latest role address = some (.stored role address data) :=
    activeSession_eq_some_iff (hstart role address)
  refine ⟨fun role address => ?_, fun role => ?_,
    fun a c response d'' hrun => noSessions_of_runOn_ok hmemory' hrun,
    fun deed role' hdeed address => ?_⟩
  · exact ⟨_, answers_session hsessions role address, hiff role address⟩
  · obtain ⟨addresses, hmem, hcount⟩ := exists_addresses
      ((SessionDeed.history suite d deeds).foldl SessionEvent.onTable t) role
    refine ⟨addresses, fun address => ?_, hcount ▸ answers_activeSessions hsessions role⟩
    rw [hmem]
    exact exists_congr fun data => hiff role address data
  · rw [(sessions_leave_deed suite hmemory' deed).2, Option.map_map]
    congr 1
    funext t'
    exact find?_foldl_archived hdeed t' address

namespace Sample

/-- Both roles have a session with someone when an attempt stops halfway. -/
def conversing : List SessionDeed :=
  [.store .primary "alice" [1] calm, .store .secondary "alice" [2] calm, .register attempt halted]

end Sample

theorem session_iff_stored_last_halted :
    (SessionDeed.leaveAll Suite.standard (.fresh Sample.entropy) Sample.conversing).database.Answers
      (answerKeys .primary (.session "alice")) none ∧
    (SessionDeed.leaveAll Suite.standard (.fresh Sample.entropy) Sample.conversing).database.Answers
      (answerKeys .secondary (.session "alice")) (some [2]) := by
  have hnone : (Device.fresh Sample.entropy).database.NoSessions := fun role => by
    cases role <;> rfl
  have hhistory : SessionDeed.history Suite.standard (.fresh Sample.entropy) Sample.conversing =
      [.stored .primary "alice" [1], .stored .secondary "alice" [2], .archived .primary] := by
    decide +kernel
  obtain ⟨hsession, -⟩ := session_iff_stored_last Suite.standard rfl hnone Sample.conversing
  rw [hhistory] at hsession
  obtain ⟨found, hfound, hprimary⟩ := hsession .primary "alice"
  obtain ⟨found', hfound', hsecondary⟩ := hsession .secondary "alice"
  have hended : found = none := by
    have hlatest : SessionEvent.latest? .primary "alice" [.stored .primary "alice" [1],
        .stored .secondary "alice" [2], .archived .primary] = some (.archived .primary) := by decide
    cases found with
    | none => rfl
    | some data =>
      have hstored := (hprimary data).1 rfl
      dsimp only at hstored
      rw [hlatest] at hstored
      cases hstored
  have hactive : found' = some [2] := (hsecondary [2]).2 (by decide)
  exact ⟨hended ▸ hfound, hactive ▸ hfound'⟩

end Registrar
