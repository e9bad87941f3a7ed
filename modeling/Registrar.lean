import Registrar.Bytes.Hex
import Registrar.Text.Quoted
import Registrar.Text.Numeral
import Registrar.Text.Blank
import Registrar.Decimal.Shortest
import Registrar.Curve.Ed25519
import Registrar.Curve.X25519
import Registrar.Kem.MlKem768
import Registrar.Json.Format
import Registrar.Suite
import Registrar.Entropy
import Registrar.ServiceId
import Registrar.Identity
import Registrar.ProfileKey
import Registrar.Prekey.Bundle
import Registrar.Prekey.Ledger
import Registrar.Prekey.Provisioner
import Registrar.Store.Memory
import Registrar.Database.Keys
import Registrar.Database.Directory
import Registrar.Account
import Registrar.Settings
import Registrar.Device.Basic
import Registrar.Registration.Run
import Registrar.Registration.Desk
import Registrar.Proofs.Json.Tokens
import Registrar.Proofs.Json.RoundTrip
import Registrar.Proofs.Prekey.Record
import Registrar.Proofs.Database.Directory
import Registrar.Proofs.Registration.Change
import Registrar.Proofs.ServiceId
import Registrar.Proofs.ServiceId.Stored
import Registrar.Proofs.Registration.Follows
import Registrar.Proofs.Registration.Calls
import Registrar.Proofs.Registration.KeyCalls
import Registrar.Proofs.Registration.ClaimCalls
import Registrar.Proofs.Registration.Outages
import Registrar.Proofs.Registration.Storing
import Registrar.Proofs.Registration.Failing
import Registrar.Proofs.Registration.Retry
import Registrar.Proofs.Prekey.Counting
import Registrar.Proofs.Registration.Standing
import Registrar.Proofs.Registration.Complete
import Registrar.Proofs.Registration.Core
import Registrar.Proofs.Registration.History
import Registrar.Proofs.Store.Part
import Registrar.Proofs.Store.Refinement
import Registrar.Proofs.Account
import Registrar.Proofs.Prekey.Slots
import Registrar.Proofs.Prekey.Verification
import Registrar.Proofs.Prekey.Refinement
import Registrar.Proofs.Prekey.Noting
import Registrar.Proofs.Prekey.Reservations
import Registrar.Proofs.Registration.Issuing
import Registrar.Proofs.Registration.Pointers
import Registrar.Proofs.Json.Documents
import Registrar.Proofs.Registration.Claiming
import Registrar.Proofs.Device.Directory
import Registrar.Proofs.Registration.OneAtATime
import Registrar.Proofs.Registration.Progress
import Registrar.Proofs.Registration.Sessions
import Registrar.Proofs.Registration.CachedSelf
import Registrar.Proofs.Registration.KnownKey
import Registrar.Proofs.Bytes.Hex
import Registrar.Proofs.ProfileKey
import Registrar.Proofs.Registration.Telling
import Registrar.Proofs.Prekey.Drawing
import Registrar.Proofs.Prekey.Limits
import Registrar.Proofs.Prekey.Independence
import Registrar.Proofs.Registration.Sparing
import Registrar.Proofs.Prekey.Unreadable
import Registrar.Proofs.Registration.StableId
