import Mathlib.Algebra.Group.Int.Defs
import Mathlib.Algebra.Group.Nat.Defs
import Mathlib.Data.List.Induction
import SensorRelay.Sample.Raw

/-!
# What raw payloads are read as

The signed number of some bytes lies between the bounds of its width (`ofSignedBytes_bounds`). A
reading that a raw payload is accepted as has the number of its last four bytes, so one of 32
bits, and a timestamp in UTC (`RawSample.decode_ok`). A payload is only ever rejected as
malformed (`RawSample.kind_of_decode_error`).
-/

namespace SensorRelay

/-! ## Bytes of whole numbers -/

theorem ofBigEndian_concat (bytes : Bytes) (b : UInt8) :
    ofBigEndian (bytes ++ [b]) = 256 * ofBigEndian bytes + b.toNat := by
  simp [ofBigEndian]

theorem ofBigEndian_lt (bytes : Bytes) : ofBigEndian bytes < 256 ^ bytes.length := by
  induction bytes using List.reverseRecOn with
  | nil => simp [ofBigEndian]
  | append_singleton bytes b ih =>
    have hb := b.toNat_lt
    rw [ofBigEndian_concat, List.length_append, List.length_singleton, Nat.pow_succ]
    omega

/-- A signed number is at least minus half of what its width counts, and less than half. -/
theorem ofSignedBytes_bounds (bytes : Bytes) :
    -(256 ^ bytes.length : Int) ≤ 2 * ofSignedBytes bytes ∧
      2 * ofSignedBytes bytes < 256 ^ bytes.length := by
  have hlt := ofBigEndian_lt bytes
  have hcast : ((256 ^ bytes.length : Nat) : Int) = 256 ^ bytes.length := by
    rw [Int.natCast_pow]
    rfl
  unfold ofSignedBytes
  simp only [Nat.pow_eq]
  rw [← hcast]
  split <;> omega

/-! ## Readings -/

/-- The instants that have a timestamp have it in UTC. -/
theorem Timestamp.offset_of_ofInstant? {n : Int} {t : Timestamp}
    (h : Timestamp.ofInstant? n = some t) : t.offset = some UtcOffset.utc := by
  obtain ⟨w, -, rfl⟩ := Option.map_eq_some_iff.1 h
  rfl

namespace RawSample

variable {unit : TimestampUnit} {payload : Bytes}

/-- What is known of a reading whose payload is accepted. -/
theorem decode_ok {reading : RawSample} (h : decode unit payload = .ok reading) :
    payload.length = rawPayloadSize ∧ reading.value = ofSignedBytes (payload.drop 8) ∧
      reading.timestamp.offset = some UtcOffset.utc := by
  unfold decode at h
  split at h
  · cases h
  · rename_i hlength
    dsimp only at h
    split at h
    · rename_i t ht
      cases h
      exact ⟨not_not.1 hlength, rfl, Timestamp.offset_of_ofInstant? ht⟩
    · cases h

/-- The value of an accepted payload has 32 bits. -/
theorem value_bounds {reading : RawSample} (h : decode unit payload = .ok reading) :
    -2147483648 ≤ reading.value ∧ reading.value < 2147483648 := by
  obtain ⟨hlength, hvalue, -⟩ := decode_ok h
  have hfour : (payload.drop 8).length = 4 := by
    rw [List.length_drop, hlength]
    rfl
  have hbounds := ofSignedBytes_bounds (payload.drop 8)
  rw [hfour, ← hvalue] at hbounds
  omega

theorem kind_of_decode_error {e : PipelineError} (h : decode unit payload = .error e) :
    e.kind = .malformedPayload := by
  unfold decode at h
  split at h
  · cases h
    rfl
  · dsimp only at h
    split at h
    · cases h
    · cases h
      rfl

/-- The name of a unit stands for the unit. -/
theorem decodeNamed_name (unit : TimestampUnit) (payload : Bytes) :
    decodeNamed unit.name payload = (decode unit payload).mapError .pipeline := by
  cases unit <;> rfl

theorem encodeNamed_name (unit : TimestampUnit) (value : Quantity) (t : Timestamp) :
    encodeNamed unit.name value t = (encodeQuantity unit value t).mapError .pipeline := by
  cases unit <;> rfl

end RawSample

end SensorRelay
