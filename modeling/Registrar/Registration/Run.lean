import Registrar.Device.Basic

/-!
Making a confirmed registration take effect.

First everything is stored, one call after the other, and the mark that makes the account a
registered one comes last. Then the collaborators are told. An attempt that fails while storing can
be made again from the start.
-/

namespace Registrar

inductive Stop where
  | failed (cause : Failure)
  /-- a collaborator brought it down -/
  | panicked (message : String)
  deriving Repr, DecidableEq

/--
What is reported of an attempt that ended early. Workers are not told apart, so a letter stands
where a worker's number would.
-/
def Stop.failure : Stop → Failure
  | .failed cause => cause
  | .panicked message =>
    .unexpected ("registration worker failed: task N panicked with message " ++ Text.quote message)

namespace Registration

open Device

def storeBundle (role : Role) (b : Bundle) : Act KeyError Unit := do
  keys role (.setOwnIdentity b.identity)
  keys role (.storeSigned b.signed)
  ledger role (.setPointer .activeSigned b.signedId)
  b.oneTime.forM fun key => keys role (.storeOneTime key)
  keys role (.storeKyber b.lastResort true)
  ledger role (.setPointer .lastResort b.lastResortId)
  b.kyber.forM fun key => keys role (.storeKyber key false)
  ledger role (.setRegistered true)

/-- Puts our own entry of the directory in order, and gives its id. -/
def claimSelf (aci pni : ServiceId) (e164 : String) (profileKey : ProfileKey) : Act Failure Int := do
  let self ← consult (Database.trustedRecipient aci pni e164)
  consult (Database.setProfileSharing self true)
  ask (Database.markRegistered self aci)
  let _ ← ask (Database.linkSelf aci pni e164)
  consult (Database.setProfileKey self profileKey)
  return self

def storeAccount (e : Enrolment) : Act Failure Unit := do
  ask (Account.setText .e164 (some e.e164))
  ask (Account.setText .pushToken e.pushToken)
  ask (Account.setMarked .pushEnabled e.wantsPush)
  ask (Account.setText .servicePassword (some e.password))

def selfAddress (self : Int) : String := toString self

def saveSelf (suite : Suite) (self : Int) (now : Int64) (role : Role) : Act KeyError Unit := do
  let own ← keys role .ownIdentity
  keys role (.saveIdentity (selfAddress self)
    { identityKey := own.publicKey suite
      verified := .verified
      firstUse := true
      timestamp := now
      nonblockingApproval := true })

def confirmed (c : Confirmation) : Except Failure (ServiceId × ServiceId) := do
  let aci ← (ServiceId.read .primary c.uuid).mapError ServiceId.Error.failure
  let pni ← (ServiceId.read .secondary c.pni).mapError ServiceId.Error.failure
  return (aci, pni)

def store (suite : Suite) (now : Int64) (aci pni : ServiceId) (e : Enrolment) : Act Failure Unit := do
  ask (Account.setServiceId aci)
  ask (Account.setServiceId pni)
  Role.all.forM fun role => registering (keys role .archiveSessions)
  registering (senderKeys .clear)
  Role.all.forM fun role => registering (storeBundle role (e.bundles.get role))
  let self ← claimSelf aci pni e.e164 e.profileKey
  clearSelf
  storeAccount e
  Role.all.forM fun role => registering (saveSelf suite self now role)
  ask Account.commitRegistered

def tell (collaborators : Collaborators) (notice : Notice) : Act Stop Unit := fun d =>
  match collaborators notice with
  | .panics message => .error (.panicked message) d
  | _ => .ok () { d with events := d.events ++ [⟨notice, d.database⟩] }

/-- Makes one attempt. When it succeeds, the server's answer is given back as it is. -/
def run (suite : Suite) (collaborators : Collaborators) (now : Int64) (a : Attempt) :
    Act Stop Response := do
  match confirmed a.response.confirmation with
  | .error e => throw (.failed e)
  | .ok (aci, pni) =>
    (store suite now aci pni a.enrolment).adaptExcept Stop.failed
    a.notices.forM (tell collaborators)
    return a.response

end Registration

end Registrar
