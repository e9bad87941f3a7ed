import Registrar.Database.Keys
import Registrar.Proofs.Database.Directory
import Registrar.Proofs.Store.Table

/-!
What a registration does to the stored data, as a list of changes.

Every table is changed by its own part of the list only, so the database after some changes is given
table by table. A change is possible or not whatever other changes were made before.
-/

namespace Registrar

open Database

/-- One thing that is done to the data of a device. -/
inductive Change where
  /-- texts that are written together -/
  | texts (ws : List (String × Option String))
  | ledger (role : Role) (name value : String)
  | ownIdentity (role : Role) (key : IdentityKey)
  | signed (role : Role) (key : SignedPrekey)
  | oneTime (role : Role) (key : OneTimePrekey)
  | kyber (role : Role) (key : KyberPrekey) (lastResort : Bool)
  | identity (role : Role) (address : String) (record : IdentityRecord)
  | archive (role : Role)
  | clearSenderKeys
  | claim (o : OwnEntry) (self : Int) (step : ClaimStep)
  | forgetSelf

namespace Change

@[simp]
def textRows : Change → List (String × Option String)
  | .texts ws => ws
  | .ledger role name value => [(ledgerKey role name, some value)]
  | _ => []

@[simp]
def ownRows : Change → List (Role × Option Bytes)
  | .ownIdentity role key => [(role, some key.secret)]
  | _ => []

@[simp]
def signedRows : Change → List ((Role × UInt32) × Option String)
  | .signed role key => [((role, key.id), some (Json.encode key))]
  | _ => []

@[simp]
def oneTimeRows : Change → List ((Role × UInt32) × Option String)
  | .oneTime role key => [((role, key.id), some (Json.encode key))]
  | _ => []

@[simp]
def kyberRows : Change → List ((Role × UInt32) × Option KyberRow)
  | .kyber role key lastResort =>
    [((role, key.id), some ⟨Json.encode key, flag lastResort⟩)]
  | _ => []

@[simp]
def identityRows : Change → List ((Role × String) × Option IdentityRow)
  | .identity role address record => [((role, address), some (IdentityRow.ofRecord record))]
  | _ => []

@[simp]
def archived : Change → List Role
  | .archive role => [role]
  | _ => []

@[simp]
def clears : Change → Bool
  | .clearSenderKeys => true
  | _ => false

@[simp]
def forgets : Change → Bool
  | .forgetSelf => true
  | _ => false

@[simp]
def claimSteps : Change → List ClaimStep
  | .claim _ _ step => [step]
  | _ => []

/-- A step of a claim is one of a certain claim. -/
@[simp]
def For (o : OwnEntry) (self : Int) : Change → Prop
  | .claim o' self' _ => o' = o ∧ self' = self
  | _ => True

/-- What a change does to the directory. -/
@[simp]
def onDirectory (t : RecipientRows) : Change → RecipientRows
  | .claim o self step => t.claim o self step
  | _ => t

end Change

/-- Ends the sessions of some roles. -/
def endSessions (roles : List Role) (t : Table (Role × String) SessionRow) :
    Table (Role × String) SessionRow :=
  t.mapRows fun k row => if k.1 ∈ roles then row.ended else row

namespace Database

/-- The database after some changes. -/
def after (db : Database) (cs : List Change) : Database where
  version := db.version
  keyValues := db.keyValues.map fun kv =>
    { kv with values := kv.values.writeAll (cs.flatMap Change.textRows) }
  recipients := db.recipients.map fun t => cs.foldl Change.onDirectory t
  identities := db.identities.map (·.writeAll (cs.flatMap Change.identityRows))
  ownIdentities := db.ownIdentities.map (·.writeAll (cs.flatMap Change.ownRows))
  signed := db.signed.map (·.writeAll (cs.flatMap Change.signedRows))
  oneTime := db.oneTime.map (·.writeAll (cs.flatMap Change.oneTimeRows))
  kyber := db.kyber.map (·.writeAll (cs.flatMap Change.kyberRows))
  sessions := db.sessions.map (endSessions (cs.flatMap Change.archived))
  senderKeys := db.senderKeys.map fun t => if cs.any Change.clears then ∅ else t

@[simp]
theorem endSessions_nil : endSessions [] = id := by
  funext t
  apply Table.ext
  · exact Table.keys_mapRows _ t
  · intro k
    simp [endSessions]

theorem endSessions_append (roles roles' : List Role) (t : Table (Role × String) SessionRow) :
    endSessions (roles ++ roles') t = endSessions roles' (endSessions roles t) := by
  rw [endSessions, endSessions, endSessions, Table.mapRows_mapRows]
  congr 1
  funext k row
  by_cases hk : k.1 ∈ roles
  · by_cases hk' : k.1 ∈ roles' <;> simp [hk, hk']
  · simp [hk]

@[simp]
theorem after_nil (db : Database) : db.after [] = db := by
  simp [after]

theorem after_append (db : Database) (cs cs' : List Change) :
    db.after (cs ++ cs') = (db.after cs).after cs' := by
  have hsessions : endSessions (cs.flatMap Change.archived ++ cs'.flatMap Change.archived) =
      endSessions (cs'.flatMap Change.archived) ∘ endSessions (cs.flatMap Change.archived) :=
    funext fun t => endSessions_append _ _ t
  have hsenderKeys (t : Table (String × String) Bytes) :
      (if cs.any Change.clears = true ∨ cs'.any Change.clears = true then ∅ else t) =
        if cs'.any Change.clears = true then ∅ else if cs.any Change.clears = true then ∅ else t := by
    by_cases h : cs.any Change.clears = true <;> by_cases h' : cs'.any Change.clears = true <;>
      simp [h, h']
  simp only [after, List.flatMap_append, Table.writeAll_append, List.foldl_append, List.any_append,
    Option.map_map, Function.comp_def, Bool.or_eq_true, hsessions, hsenderKeys]

/-! ### What is possible -/

/-- Some texts can be written. -/
def Takes (db : Database) (ws : List (String × Option String)) : Prop :=
  ∃ kv, db.keyValues = some kv ∧ ∀ w ∈ ws, w.2.isSome → w.1 ∉ kv.refused

end Database

/-- The tables allow a change. -/
def Change.Allowed (db : Database) : Change → Prop
  | .texts ws => db.Takes ws
  | .ledger role name value => db.Takes [(ledgerKey role name, some value)]
  | .ownIdentity _ _ => db.ownIdentities.isSome
  | .signed _ _ => db.signed.isSome
  | .oneTime _ _ => db.oneTime.isSome
  | .kyber _ _ _ => db.kyber.isSome
  | .identity _ _ _ => db.identities.isSome
  | .archive _ => db.sessions.isSome
  | .clearSenderKeys => db.senderKeys.isSome
  | .claim _ _ _ => db.recipients.isSome
  | .forgetSelf => True

namespace Database

theorem takes_after {db : Database} {cs : List Change} {ws : List (String × Option String)} :
    (db.after cs).Takes ws ↔ db.Takes ws := by
  cases hkv : db.keyValues <;> simp [Takes, after, hkv]

theorem allowed_after {db : Database} {cs : List Change} {c : Change} :
    c.Allowed (db.after cs) ↔ c.Allowed db := by
  cases c with
  | texts ws => exact takes_after
  | ledger role name value => exact takes_after
  | _ => simp only [Change.Allowed, after, Option.isSome_map]

/-- No two rows of the directory are of the same person. -/
def Sound (db : Database) : Prop := ∀ t, db.recipients = some t → t.Valid

theorem foldl_onDirectory {o : OwnEntry} {self : Int} {cs : List Change}
    (h : ∀ c ∈ cs, c.For o self) (t : RecipientRows) :
    cs.foldl Change.onDirectory t = t.claimAll o self (cs.flatMap Change.claimSteps) := by
  induction cs generalizing t with
  | nil => rfl
  | cons c cs ih =>
    have hc := h c List.mem_cons_self
    rw [List.foldl_cons, ih fun c' hc' => h c' (List.mem_cons_of_mem c hc')]
    cases c with
    | claim o' self' step =>
      obtain ⟨rfl, rfl⟩ := hc
      rfl
    | _ => rfl

theorem foldl_onDirectory_eq_self {cs : List Change}
    (h : ∀ c ∈ cs, ∀ t, c.onDirectory t = t) (t : RecipientRows) :
    cs.foldl Change.onDirectory t = t := by
  induction cs with
  | nil => rfl
  | cons c cs ih =>
    rw [List.foldl_cons, h c List.mem_cons_self]
    exact ih fun c hc => h c (List.mem_cons_of_mem _ hc)

theorem valid_foldl_onDirectory {t : RecipientRows} (h : t.Valid) (cs : List Change) :
    (cs.foldl Change.onDirectory t).Valid := by
  induction cs generalizing t with
  | nil => exact h
  | cons c cs ih =>
    apply ih
    cases c with
    | claim o self step => exact h.claim step
    | _ => exact h

theorem Sound.after {db : Database} (h : db.Sound) (cs : List Change) : (db.after cs).Sound := by
  intro t ht
  obtain ⟨t', ht', rfl⟩ := Option.map_eq_some_iff.1 ht
  exact valid_foldl_onDirectory (h t' ht') cs

end Database

end Registrar
