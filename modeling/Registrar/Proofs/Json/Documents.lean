import Registrar.Proofs.Prekey.Record
import Registrar.Proofs.ServiceId
import Registrar.Registration.Notice
import Registrar.Settings

/-!
Every type with a form in documents is read back from it.

For each type the reader is shown to give back the members that were written, and the values of the
members to give back the value. A type that holds another one cites the round trip of that.
-/

namespace Registrar

open Json

/-! ### Choices and fixed forms -/

theorem Role.roundTrips : RoundTrips Role where
  reads r := Reads.choice (by cases r <;> decide)
  ofJson?_toJson r := by cases r <;> rfl

theorem Trust.roundTrips : RoundTrips Trust where
  reads t := Reads.choice (by cases t <;> decide)
  ofJson?_toJson t := by cases t <;> rfl

theorem MaintenanceJob.roundTrips : RoundTrips MaintenanceJob where
  reads job := Reads.choice (by cases job <;> decide)
  ofJson?_toJson job := by cases job <;> rfl

theorem PeriodicSchedule.roundTrips : RoundTrips PeriodicSchedule where
  reads work := Reads.choice (by cases work <;> decide)
  ofJson?_toJson work := by cases work <;> rfl

theorem ProfileKey.roundTrips : RoundTrips ProfileKey where
  reads key := by
    have hlength : (key.bytes.map ofByte).length = 32 := by rw [List.length_map, key.length_bytes]
    have hreads : Reads (Reader.fixedList Reader.u8 (key.bytes.map ofByte).length)
        (ofBytes key.bytes) := Reads.fixedList fun _ hj => reads_of_mem_bytes hj
    rwa [hlength] at hreads
  ofJson?_toJson key := by
    simp [Format.ofJson?, Format.toJson, toBytes?_ofBytes, ProfileKey.ofBytes?, key.length_bytes]

theorem ServiceId.roundTrips : RoundTrips ServiceId where
  reads id := by
    have huuid : Reads Reader.uuid (.string id.uuid.toString) :=
      Reads.text (by simp [Uuid.toString, Uuid.read_chars])
    refine Reads.record (.cons ⟨rfl, Role.roundTrips.reads id.role⟩ (.cons ⟨rfl, huuid⟩ .nil)) ?_
    simp
  ofJson?_toJson id := by
    refine member_eq_some rfl (Role.roundTrips.ofJson?_toJson id.role) ?_
    refine member_eq_some (a := id.uuid.toString) rfl rfl ?_
    simp [Uuid.toString, Uuid.read_chars]

/-! ### Saved identities and settings -/

theorem IdentityRecord.roundTrips : RoundTrips IdentityRecord where
  reads r := by
    refine Reads.record (.cons ⟨rfl, reads_bytes r.identityKey⟩
      (.cons ⟨rfl, Trust.roundTrips.reads r.verified⟩ (.cons ⟨rfl, Reads.boolean r.firstUse⟩
        (.cons ⟨rfl, reads_i64 r.timestamp⟩
          (.cons ⟨rfl, Reads.boolean r.nonblockingApproval⟩ .nil))))) ?_
    simp
  ofJson?_toJson r := by
    refine member_eq_some rfl (toBytes?_ofBytes r.identityKey) ?_
    refine member_eq_some rfl (Trust.roundTrips.ofJson?_toJson r.verified) ?_
    refine member_eq_some (j := .bool r.firstUse) rfl rfl ?_
    refine member_eq_some rfl (toInt64?_ofInt64 r.timestamp) ?_
    exact member_eq_some (j := .bool r.nonblockingApproval) rfl rfl rfl

theorem BatchSizes.roundTrips : RoundTrips BatchSizes where
  reads s := by
    refine Reads.record (.cons ⟨rfl, reads_u32 s.oneTime⟩ (.cons ⟨rfl, reads_u32 s.kyber⟩ .nil)) ?_
    simp
  ofJson?_toJson s := by
    refine member_eq_some rfl (toUInt32?_ofUInt32 s.oneTime) ?_
    exact member_eq_some rfl (toUInt32?_ofUInt32 s.kyber) rfl

theorem Settings.roundTrips : RoundTrips Settings where
  reads s := by
    refine Reads.record (.cons ⟨rfl, Reads.text rfl⟩
      (.cons ⟨rfl, BatchSizes.roundTrips.reads s.batchSizes⟩ .nil)) ?_
    simp
  ofJson?_toJson s := by
    refine member_eq_some (j := .string s.databasePath) rfl rfl ?_
    exact member_eq_some rfl (BatchSizes.roundTrips.ofJson?_toJson s.batchSizes) rfl

/-! ### The public half of a bundle -/

theorem PublicPrekey.roundTrips : RoundTrips PublicPrekey where
  reads k := by
    refine Reads.record (.cons ⟨rfl, reads_u32 k.keyId⟩
      (.cons ⟨rfl, reads_bytes k.publicKey⟩ .nil)) ?_
    simp
  ofJson?_toJson k := by
    refine member_eq_some rfl (toUInt32?_ofUInt32 k.keyId) ?_
    exact member_eq_some rfl (toBytes?_ofBytes k.publicKey) rfl

theorem PublicSignedPrekey.roundTrips : RoundTrips PublicSignedPrekey where
  reads k := by
    refine Reads.record (.cons ⟨rfl, reads_u32 k.keyId⟩ (.cons ⟨rfl, reads_bytes k.publicKey⟩
      (.cons ⟨rfl, reads_bytes k.signature⟩ .nil))) ?_
    simp
  ofJson?_toJson k := by
    refine member_eq_some rfl (toUInt32?_ofUInt32 k.keyId) ?_
    refine member_eq_some rfl (toBytes?_ofBytes k.publicKey) ?_
    exact member_eq_some rfl (toBytes?_ofBytes k.signature) rfl

theorem PublicBundle.roundTrips : RoundTrips PublicBundle where
  reads b := by
    refine Reads.record (.cons ⟨rfl, Role.roundTrips.reads b.role⟩
      (.cons ⟨rfl, reads_bytes b.identityKey⟩
        (.cons ⟨rfl, PublicSignedPrekey.roundTrips.reads b.signed⟩
          (.cons ⟨rfl, PublicPrekey.roundTrips.reads_list b.oneTime⟩
            (.cons ⟨rfl, PublicSignedPrekey.roundTrips.reads b.lastResort⟩
              (.cons ⟨rfl, PublicSignedPrekey.roundTrips.reads_list b.kyber⟩ .nil)))))) ?_
    simp
  ofJson?_toJson b := by
    refine member_eq_some rfl (Role.roundTrips.ofJson?_toJson b.role) ?_
    refine member_eq_some rfl (toBytes?_ofBytes b.identityKey) ?_
    refine member_eq_some rfl (PublicSignedPrekey.roundTrips.ofJson?_toJson b.signed) ?_
    refine member_eq_some rfl (PublicPrekey.roundTrips.toList?_ofList b.oneTime) ?_
    refine member_eq_some rfl (PublicSignedPrekey.roundTrips.ofJson?_toJson b.lastResort) ?_
    exact member_eq_some rfl (PublicSignedPrekey.roundTrips.toList?_ofList b.kyber) rfl

/-! ### The server's answer -/

theorem Confirmation.roundTrips : RoundTrips Confirmation where
  reads c := by
    refine Reads.record (.cons ⟨rfl, Reads.text rfl⟩ (.cons ⟨rfl, Reads.text rfl⟩
      (.cons ⟨rfl, Reads.boolean c.storageCapable⟩ .nil))) ?_
    simp
  ofJson?_toJson c := by
    refine member_eq_some (j := .string c.uuid) rfl rfl ?_
    refine member_eq_some (j := .string c.pni) rfl rfl ?_
    exact member_eq_some (j := .bool c.storageCapable) rfl rfl rfl

theorem RecoveryCredential.roundTrips : RoundTrips RecoveryCredential where
  reads c := by
    refine Reads.record (.cons ⟨rfl, reads_bytes c.masterKey⟩
      (.cons ⟨rfl, reads_u32 c.triesRemaining⟩ .nil)) ?_
    simp
  ofJson?_toJson c := by
    refine member_eq_some rfl (toBytes?_ofBytes c.masterKey) ?_
    exact member_eq_some rfl (toUInt32?_ofUInt32 c.triesRemaining) rfl

theorem Response.roundTrips : RoundTrips Response where
  reads r := by
    have hpin : Reads (Reader.nullable Reader.string) (ofOption Json.string r.pin) :=
      Reads.ofOption (fun s => Reads.text rfl) (fun s => by simp [render, renderString]) r.pin
    have hrecovery : Reads (Reader.nullable (Format.reader RecoveryCredential))
        (ofOption Format.toJson r.recoveryCredential) :=
      Reads.ofOption RecoveryCredential.roundTrips.reads (fun c => by simp [Format.toJson, render])
        r.recoveryCredential
    refine Reads.record (.cons ⟨rfl, Confirmation.roundTrips.reads r.confirmation⟩
      (.cons ⟨rfl, hpin⟩ (.cons ⟨rfl, hrecovery⟩ .nil))) ?_
    simp
  ofJson?_toJson r := by
    have hpin : toOption? toString? (ofOption Json.string r.pin) = some r.pin := by
      cases r.pin <;> rfl
    have hrecovery : toOption? Format.ofJson? (ofOption Format.toJson r.recoveryCredential) =
        some r.recoveryCredential := by
      cases r.recoveryCredential with
      | none => rfl
      | some c => exact congrArg (Option.map some) (RecoveryCredential.roundTrips.ofJson?_toJson c)
    refine member_eq_some rfl (Confirmation.roundTrips.ofJson?_toJson r.confirmation) ?_
    refine member_eq_some rfl hpin ?_
    exact member_eq_some rfl hrecovery rfl

/-! ### All of them together -/

inductive DocumentKind where
  | oneTimePrekey | signedPrekey | kyberPrekey
  | identityRecord | trust
  | publicPrekey | publicSignedPrekey | publicBundle
  | batchSizes | settings
  | confirmation | recoveryCredential | response
  | profileKey | serviceId | role
  | maintenanceJob | periodicSchedule

namespace DocumentKind

@[reducible] def Value : DocumentKind → Type
  | oneTimePrekey => OneTimePrekey
  | signedPrekey => SignedPrekey
  | kyberPrekey => KyberPrekey
  | identityRecord => IdentityRecord
  | trust => Trust
  | publicPrekey => PublicPrekey
  | publicSignedPrekey => PublicSignedPrekey
  | publicBundle => PublicBundle
  | batchSizes => BatchSizes
  | settings => Settings
  | confirmation => Confirmation
  | recoveryCredential => RecoveryCredential
  | response => Response
  | profileKey => ProfileKey
  | serviceId => ServiceId
  | role => Role
  | maintenanceJob => MaintenanceJob
  | periodicSchedule => PeriodicSchedule

instance (kind : DocumentKind) : Format kind.Value := by
  cases kind <;> infer_instance

theorem roundTrips (kind : DocumentKind) : RoundTrips kind.Value := by
  cases kind with
  | oneTimePrekey => exact OneTimePrekey.roundTrips
  | signedPrekey => exact SignedPrekey.roundTrips
  | kyberPrekey => exact KyberPrekey.roundTrips
  | identityRecord => exact IdentityRecord.roundTrips
  | trust => exact Trust.roundTrips
  | publicPrekey => exact PublicPrekey.roundTrips
  | publicSignedPrekey => exact PublicSignedPrekey.roundTrips
  | publicBundle => exact PublicBundle.roundTrips
  | batchSizes => exact BatchSizes.roundTrips
  | settings => exact Settings.roundTrips
  | confirmation => exact Confirmation.roundTrips
  | recoveryCredential => exact RecoveryCredential.roundTrips
  | response => exact Response.roundTrips
  | profileKey => exact ProfileKey.roundTrips
  | serviceId => exact ServiceId.roundTrips
  | role => exact Role.roundTrips
  | maintenanceJob => exact MaintenanceJob.roundTrips
  | periodicSchedule => exact PeriodicSchedule.roundTrips

/-- Whatever is written is read back as it was. -/
theorem decode_encode_value (kind : DocumentKind) (a : kind.Value) :
    decode kind.Value (encode a) = .ok a :=
  kind.roundTrips.decode_encode a

end DocumentKind

end Registrar
