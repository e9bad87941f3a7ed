import Registrar.Registration.Attempt

/-!
What the other parts of the app are told once an account is registered, and how they may react.
-/

namespace Registrar

inductive MaintenanceJob where
  | directoryRefresh
  | rotateCertificate
  deriving Repr, DecidableEq

inductive PeriodicSchedule where
  | directoryRefresh
  | rotateSignedPrekey
  deriving Repr, DecidableEq

namespace MaintenanceJob

def name : MaintenanceJob → String
  | .directoryRefresh => "directory_refresh"
  | .rotateCertificate => "rotate_certificate"

def title : MaintenanceJob → String
  | .directoryRefresh => "DirectoryRefresh"
  | .rotateCertificate => "RotateCertificate"

def ofName? (s : String) : Option MaintenanceJob :=
  if s = "directory_refresh" then some .directoryRefresh
  else if s = "rotate_certificate" then some .rotateCertificate
  else none

instance : Json.Format MaintenanceJob where
  reader := Json.Reader.choice ["directory_refresh", "rotate_certificate"]
  toJson job := .string job.name
  ofJson? j := (Json.toString? j).bind ofName?

end MaintenanceJob

namespace PeriodicSchedule

def name : PeriodicSchedule → String
  | .directoryRefresh => "directory_refresh"
  | .rotateSignedPrekey => "rotate_signed_pre_key"

def title : PeriodicSchedule → String
  | .directoryRefresh => "DirectoryRefresh"
  | .rotateSignedPrekey => "RotateSignedPreKey"

def ofName? (s : String) : Option PeriodicSchedule :=
  if s = "directory_refresh" then some .directoryRefresh
  else if s = "rotate_signed_pre_key" then some .rotateSignedPrekey
  else none

instance : Json.Format PeriodicSchedule where
  reader := Json.Reader.choice ["directory_refresh", "rotate_signed_pre_key"]
  toJson s := .string s.name
  ofJson? j := (Json.toString? j).bind ofName?

end PeriodicSchedule

inductive Notice where
  /-- take away the notification that says the account is logged out -/
  | cancelNotification
  /-- the account is registered: set up its lock -/
  | registered (recovery : Option RecoveryCredential) (pin : Option String) (storageCapable : Bool)
      (enableLock : Bool)
  /-- close what was opened with the old credentials -/
  | closeConnections
  /-- receive messages with the new ones -/
  | startObserver
  | pinChanged (pin : String)
  | enqueue (job : MaintenanceJob)
  | schedule (work : PeriodicSchedule)
  deriving Repr, DecidableEq

/-- What a collaborator does when told something. Nobody waits for it to do better. -/
inductive Reaction where
  | accepts
  /-- reports a failure, which is passed over -/
  | fails
  /-- brings the whole registration down before taking note -/
  | panics (message : String)
  deriving Repr, DecidableEq

abbrev Collaborators := Notice → Reaction

/-- Everything that is told after an attempt, in its order. -/
def Attempt.notices (a : Attempt) : List Notice :=
  [.cancelNotification,
    .registered a.response.recoveryCredential a.response.pin a.response.confirmation.storageCapable
      a.enableLock,
    .closeConnections, .startObserver]
    ++ (a.response.pin?.map Notice.pinChanged).toList
    ++ [.enqueue .directoryRefresh, .enqueue .rotateCertificate, .schedule .directoryRefresh,
      .schedule .rotateSignedPrekey]

end Registrar
