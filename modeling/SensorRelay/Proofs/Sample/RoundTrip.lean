import SensorRelay.Proofs.Json.RoundTrip
import SensorRelay.Proofs.Time.IsoText
import SensorRelay.Sample.Intermediate

/-!
# Samples read back from their payload

A sample with a finite value has a document that is read as it was written
(`Json.document?_compact`), so reading its payload gives the value to the bit and the timestamp
that its text names (`Sample.decode_encode_asRead`). The timestamp is the one that was written,
taken as UTC if naive, unless its offset has no whole second (`Sample.decode_encode`).
-/

namespace SensorRelay.Sample

open Json

theorem settle?_toJson {s : Sample} (h : s.value.isFinite = true) :
    settle? s.toJson = some s.toJson := by
  simp [toJson, settle?, settleFields?, h]

theorem depth_toJson (s : Sample) : s.toJson.depth ≤ maxDepth := by
  simp [toJson, depth, depthOfFields, deeper, maxDepth]

/-- The payload of a sample holds its document. -/
theorem document?_encode {s : Sample} (h : s.value.isFinite = true) :
    document? s.encode = some s.toJson :=
  document?_compact (settle?_toJson h) (depth_toJson s)

/-- What the payload of a sample is read as. -/
theorem decode_encode_asRead {s : Sample} (h : s.value.isFinite = true) :
    decode s.encode =
      .ok ⟨s.value, ⟨s.timestamp.wall, some (s.timestamp.offset.getD UtcOffset.utc).asRead⟩⟩ := by
  have hvalue : lookup "value" [("value", .double s.value),
      ("timestamp", .str s.timestamp.asUtc.iso)] = some (.double s.value) := by
    simp [lookup]
  have htimestamp : lookup "timestamp" [("value", .double s.value),
      ("timestamp", .str s.timestamp.asUtc.iso)] = some (.str s.timestamp.asUtc.iso) := by
    simp [lookup]
  rw [decode, document?_encode h, toJson]
  simp only [hvalue, htimestamp, readValue, readTimestamp, Timestamp.ofIso?_iso]
  rfl

/-- A sample is read back from its payload: the bits of a finite value, the wall clock and, if it
is none or at least a second, the offset. -/
theorem decode_encode {s : Sample} (hvalue : s.value.isFinite = true)
    (hoffset : ∀ o ∈ s.timestamp.offset, o.micros = 0 ∨ 1000000 ≤ o.micros.natAbs) :
    decode s.encode = .ok ⟨s.value, s.timestamp.asUtc⟩ := by
  have hread : (s.timestamp.offset.getD UtcOffset.utc).asRead =
      s.timestamp.offset.getD UtcOffset.utc := by
    refine UtcOffset.asRead_eq ?_
    rcases hoffsetEq : s.timestamp.offset with _ | o
    · exact Or.inl rfl
    · exact hoffset o hoffsetEq
  rw [decode_encode_asRead hvalue, hread]
  rfl

/-- A subnormal value, and an offset with a fraction of a second behind UTC. -/
theorem decode_encode_subnormal :
    let s : Sample := ⟨⟨3⟩, ⟨⟨315537897599999999, by decide⟩, some ⟨-1000001, by decide⟩⟩⟩
    decode s.encode = .ok ⟨s.value, s.timestamp.asUtc⟩ :=
  decode_encode (by decide) (by
    intro o ho
    cases ho
    exact Or.inr (by decide))

end SensorRelay.Sample
