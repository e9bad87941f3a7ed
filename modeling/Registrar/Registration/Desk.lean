import Registrar.Registration.Run

/-!
One registration at a time.

An attempt that is submitted while another one is running is turned away and has no effect. A desk
is shared by everyone who submits to it.
-/

namespace Registrar

inductive Handle where
  /-- the outcome was known at once; it can be taken one time -/
  | settled (outcome : Option (Except Failure Response))
  /-- the outcome comes when the attempt ends -/
  | working

namespace Handle

def rejected : Handle := .settled (some (.error .inProgress))

/--
Awaits the outcome, where `ended` is how the running attempt ended, if it did. An outcome that was
taken before is not given again.
-/
def poll (ended : Option (Except Failure Response)) :
    Handle → Option (Except Failure Response) × Handle
  | .settled (some outcome) => (some outcome, .settled none)
  | .settled none => (some (.error (.unexpected "handle polled after completion")), .settled none)
  | .working => (ended, .working)

end Handle

/-- A device, and the attempts on it that were let in and have not ended yet. -/
structure Desk where
  device : Device
  /-- set while nobody else is to be let in -/
  busy : Bool := false
  running : List Attempt := []

namespace Desk

def submit (a : Attempt) (desk : Desk) : Handle × Desk :=
  if desk.busy then (.rejected, desk)
  else (.working, { desk with busy := true, running := desk.running ++ [a] })

def perform (suite : Suite) (collaborators : Collaborators) (now : Int64) (a : Attempt)
    (device : Device) : Except Failure Response × Device :=
  match Registration.run suite collaborators now a device with
  | .ok response device => (.ok response, device)
  | .error stop device => (.error stop.failure, device)

def finish (suite : Suite) (collaborators : Collaborators) (now : Int64) (i : Nat) (desk : Desk) :
    Option (Except Failure Response) × Desk :=
  match desk.running[i]? with
  | none => (none, desk)
  | some a =>
    let (outcome, device) := perform suite collaborators now a desk.device
    (some outcome, { device := device, busy := false, running := desk.running.eraseIdx i })

end Desk

end Registrar
