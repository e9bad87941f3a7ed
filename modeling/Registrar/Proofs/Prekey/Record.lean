import Registrar.Prekey.Record
import Registrar.Proofs.Json.RoundTrip

/-!
Prekeys are read back from the documents in which they are kept.
-/

namespace Registrar

open Json

theorem OneTimePrekey.roundTrips : RoundTrips OneTimePrekey where
  reads k := by
    refine Reads.record (.cons ⟨rfl, reads_u32 k.id⟩ (.cons ⟨rfl, reads_bytes k.publicKey⟩
      (.cons ⟨rfl, reads_bytes k.privateKey⟩ .nil))) ?_
    simp
  ofJson?_toJson k := by
    refine member_eq_some rfl (toUInt32?_ofUInt32 k.id) ?_
    refine member_eq_some rfl (toBytes?_ofBytes k.publicKey) ?_
    exact member_eq_some rfl (toBytes?_ofBytes k.privateKey) rfl

theorem SignedPrekey.roundTrips : RoundTrips SignedPrekey where
  reads k := by
    refine Reads.record (.cons ⟨rfl, reads_u32 k.id⟩ (.cons ⟨rfl, reads_bytes k.publicKey⟩
      (.cons ⟨rfl, reads_bytes k.privateKey⟩ (.cons ⟨rfl, reads_bytes k.signature⟩
        (.cons ⟨rfl, reads_i64 k.timestamp⟩ .nil))))) ?_
    simp
  ofJson?_toJson k := by
    refine member_eq_some rfl (toUInt32?_ofUInt32 k.id) ?_
    refine member_eq_some rfl (toBytes?_ofBytes k.publicKey) ?_
    refine member_eq_some rfl (toBytes?_ofBytes k.privateKey) ?_
    refine member_eq_some rfl (toBytes?_ofBytes k.signature) ?_
    exact member_eq_some rfl (toInt64?_ofInt64 k.timestamp) rfl

theorem KyberPrekey.roundTrips : RoundTrips KyberPrekey where
  reads k := by
    refine Reads.record (.cons ⟨rfl, reads_u32 k.id⟩ (.cons ⟨rfl, reads_bytes k.publicKey⟩
      (.cons ⟨rfl, reads_bytes k.secretKey⟩ (.cons ⟨rfl, reads_bytes k.signature⟩
        (.cons ⟨rfl, reads_i64 k.timestamp⟩ .nil))))) ?_
    simp
  ofJson?_toJson k := by
    refine member_eq_some rfl (toUInt32?_ofUInt32 k.id) ?_
    refine member_eq_some rfl (toBytes?_ofBytes k.publicKey) ?_
    refine member_eq_some rfl (toBytes?_ofBytes k.secretKey) ?_
    refine member_eq_some rfl (toBytes?_ofBytes k.signature) ?_
    exact member_eq_some rfl (toInt64?_ofInt64 k.timestamp) rfl

end Registrar
