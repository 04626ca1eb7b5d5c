import Mathlib.Data.Nat.Digits.Defs
import SensorRelay.Proofs.Sample.Raw

/-!
# Writing and reading raw payloads

A reading has a raw payload exactly when its value has 32 bits and the ticks of its instant have
64; the payload is then the two numbers in two's complement. Reading it again gives the value,
and the instant rounded down to what the unit tells apart, as long as that instant has a calendar
date (`RawSample.WrittenExactly`). In milliseconds no payload is read whose reading would be
written otherwise: the payloads that are read are those of twelve bytes whose ticks have a
calendar date, and each is got back from its reading (`RawSample.ReadExactly`).
`RawSample.written_and_read_exactly` is both.

In nanoseconds every payload of twelve bytes is read, but the reading keeps whole microseconds only.
It is written again with the ticks rounded down, unless that takes them below the least number of 64
bits (`RawSample.read_and_written_again`, `RawSample.refused_at_least_ticks`).

The functions count with bytes and remainders. What their numbers mean is said here without
them: `twosComplement` by the digits to base 256, `TimestampUnit.Counts` by the bounds between
which an instant has so many ticks.
-/

namespace SensorRelay

/-! ## Bytes of whole numbers -/

@[simp] theorem length_bigEndian (width n : Nat) : (bigEndian width n).length = width := by
  induction width generalizing n with
  | zero => rfl
  | succ width ih => simp [bigEndian, ih]

@[simp] theorem length_signedBytes (width : Nat) (n : Int) : (signedBytes width n).length = width :=
  length_bigEndian _ _

theorem ofBigEndian_bigEndian (width n : Nat) :
    ofBigEndian (bigEndian width n) = n % 256 ^ width := by
  induction width generalizing n with
  | zero => simp [bigEndian, ofBigEndian, Nat.mod_one]
  | succ width ih =>
    have hlast : (UInt8.ofNat n).toNat = n % 256 := by simp
    rw [bigEndian, ofBigEndian_concat, ih, hlast, Nat.pow_succ, Nat.mul_comm (256 ^ width),
      Nat.mod_mul]
    omega

theorem bigEndian_ofBigEndian (bytes : Bytes) :
    bigEndian bytes.length (ofBigEndian bytes) = bytes := by
  induction bytes using List.reverseRecOn with
  | nil => rfl
  | append_singleton bytes b ih =>
    have hb := b.toNat_lt
    have hdiv : (256 * ofBigEndian bytes + b.toNat) / 256 = ofBigEndian bytes := by omega
    have hlast : UInt8.ofNat (256 * ofBigEndian bytes + b.toNat) = b := by
      rw [← UInt8.toNat_inj, UInt8.toNat_ofNat']
      omega
    rw [List.length_append, List.length_singleton, ofBigEndian_concat, bigEndian, hdiv, ih, hlast]

theorem ofBigEndian_eq_ofDigits (bytes : Bytes) :
    ofBigEndian bytes = Nat.ofDigits 256 (bytes.reverse.map UInt8.toNat) := by
  induction bytes using List.reverseRecOn with
  | nil => rfl
  | append_singleton bytes b ih =>
    rw [ofBigEndian_concat, ih, List.reverse_append, List.reverse_singleton, List.singleton_append,
      List.map_cons, Nat.ofDigits_cons]
    simp [Nat.add_comm]

/-! ## Two's complement -/

/-- The number whose digits the bytes are in two's complement, the most significant first. -/
def twosComplement (bytes : Bytes) : Int :=
  Int.bmod (Nat.ofDigits 256 (bytes.reverse.map UInt8.toNat) : Nat) (256 ^ bytes.length)

theorem ofSignedBytes_eq (bytes : Bytes) : ofSignedBytes bytes = twosComplement bytes := by
  have hlt := ofBigEndian_lt bytes
  have hmod : (ofBigEndian bytes : Int) % ((256 ^ bytes.length : Nat) : Int) =
      ofBigEndian bytes := Int.emod_eq_of_lt (by omega) (by omega)
  rw [twosComplement, ← ofBigEndian_eq_ofDigits, ofSignedBytes, Int.bmod_def, hmod, Nat.pow_eq]
  split <;> split <;> omega

/-- A number that the width has room for is read from its bytes. -/
theorem ofSignedBytes_signedBytes {width : Nat} {n : Int} (hlow : -(256 ^ width : Nat) ≤ n * 2)
    (hhigh : n * 2 < (256 ^ width : Nat)) : ofSignedBytes (signedBytes width n) = n := by
  have hpos : (0 : Int) < (256 ^ width : Nat) := by
    exact_mod_cast Nat.pow_pos (by decide : 0 < 256)
  have hnonneg := Int.emod_nonneg n (Int.ne_of_gt hpos)
  have hlt := Int.emod_lt_of_pos n hpos
  have hmod : ((n % (256 ^ width : Nat)).toNat % 256 ^ width : Nat) =
      (n % (256 ^ width : Nat)).toNat := Nat.mod_eq_of_lt (by omega)
  rw [ofSignedBytes_eq, twosComplement, ← ofBigEndian_eq_ofDigits, signedBytes, Nat.pow_eq,
    ofBigEndian_bigEndian, length_bigEndian, hmod, Int.toNat_of_nonneg hnonneg, Int.emod_bmod]
  exact Int.bmod_eq_of_le_mul_two hlow hhigh

/-- Bytes are written again from the number that they are read as. -/
theorem signedBytes_ofSignedBytes (bytes : Bytes) :
    signedBytes bytes.length (ofSignedBytes bytes) = bytes := by
  have hlt := ofBigEndian_lt bytes
  have hmod : (ofBigEndian bytes : Int) % ((256 ^ bytes.length : Nat) : Int) =
      ofBigEndian bytes := Int.emod_eq_of_lt (by omega) (by omega)
  rw [ofSignedBytes_eq, twosComplement, ← ofBigEndian_eq_ofDigits, signedBytes, Nat.pow_eq,
    Int.bmod_emod, hmod, Int.toNat_natCast, bigEndian_ofBigEndian]

theorem fitsSigned_iff {bits : Nat} {n : Int} :
    fitsSigned bits n = true ↔ -(2 ^ (bits - 1) : Int) ≤ n ∧ n < 2 ^ (bits - 1) := by
  simp [fitsSigned]

/-! ## Instants and ticks -/

namespace Timestamp

variable {n : Int} {t : Timestamp}

theorem ofInstant?_eq_some_iff :
    ofInstant? n = some t ↔ t.offset = some UtcOffset.utc ∧ t.instant = n := by
  constructor
  · intro h
    obtain ⟨w, hw, rfl⟩ := Option.map_eq_some_iff.1 h
    refine ⟨rfl, ?_⟩
    simp only [WallClock.ofMicros?] at hw
    split at hw <;> [split at hw; skip] <;> cases hw
    simp [instant, UtcOffset.utc]
    omega
  · rintro ⟨hoffset, rfl⟩
    obtain ⟨⟨micros, hlt⟩, offset⟩ := t
    obtain rfl := hoffset
    simp [ofInstant?, instant, WallClock.ofMicros?, UtcOffset.utc, hlt]

/-- The instants of years 1 to 9999 have a timestamp. -/
theorem exists_ofInstant?_iff : (∃ t, ofInstant? n = some t) ↔ 0 ≤ n ∧ n < wallLimit := by
  constructor
  · rintro ⟨t, ht⟩
    obtain ⟨hoffset, rfl⟩ := ofInstant?_eq_some_iff.1 ht
    have hlt := t.wall.isLt
    simp only [instant, hoffset, Option.getD_some, UtcOffset.utc]
    omega
  · rintro ⟨hnonneg, hlt⟩
    have hwall : n.toNat < wallLimit := by omega
    refine ⟨⟨⟨n.toNat, hwall⟩, some UtcOffset.utc⟩, ?_⟩
    simp [ofInstant?, WallClock.ofMicros?, hwall, hnonneg]

end Timestamp

namespace TimestampUnit

/-- The microseconds that a reading in this unit cannot tell apart. -/
def resolution : TimestampUnit → Int
  | milliseconds => 1000
  | nanoseconds => 1

/-- So many ticks have gone by after these microseconds. -/
def Counts (micros ticks : Int) : TimestampUnit → Prop
  | milliseconds => 1000 * ticks ≤ micros ∧ micros < 1000 * (ticks + 1)
  | nanoseconds => ticks = 1000 * micros

variable {unit : TimestampUnit} {n : Int}

theorem counts_iff {ticks : Int} :
    unit.Counts (n - Timestamp.epoch) ticks ↔ ticks = unit.ticks n := by
  cases unit with
  | milliseconds =>
    rw [Counts, TimestampUnit.ticks, Int.fdiv_eq_ediv_of_nonneg _ (by decide)]
    omega
  | nanoseconds => rw [Counts, TimestampUnit.ticks, Int.mul_comm]

/-- The microsecond before 1970 is in the millisecond before. -/
example : milliseconds.ticks (Timestamp.epoch - 1) = -1 := by decide

/-- An instant is read from its ticks as the one to which the unit rounds it down. -/
theorem instant_ticks (unit : TimestampUnit) (n : Int) :
    unit.instant (unit.ticks n) = n / unit.resolution * unit.resolution := by
  cases unit with
  | milliseconds =>
    rw [instant, ticks, resolution, Int.fdiv_eq_ediv_of_nonneg _ (by decide), Timestamp.epoch]
    omega
  | nanoseconds =>
    rw [instant, ticks, resolution, Int.fdiv_eq_ediv_of_nonneg _ (by decide), Timestamp.epoch]
    omega

/-- Only milliseconds can be told from the instant that they name. -/
theorem ticks_instant (n : Int) : milliseconds.ticks (milliseconds.instant n) = n := by
  rw [instant, ticks, Int.fdiv_eq_ediv_of_nonneg _ (by decide)]
  omega

/-- Of nanoseconds the whole microseconds can be told. -/
theorem ticks_instant_nanoseconds (n : Int) :
    nanoseconds.ticks (nanoseconds.instant n) = n / 1000 * 1000 := by
  rw [instant, ticks, Int.fdiv_eq_ediv_of_nonneg _ (by decide)]
  omega

end TimestampUnit

/-! ## Payloads -/

namespace RawSample

variable {unit : TimestampUnit} {payload : Bytes} {s : RawSample}

theorem decode_eq_ok_iff :
    decode unit payload = .ok s ↔ payload.length = rawPayloadSize ∧
      s.value = ofSignedBytes (payload.drop 8) ∧
      Timestamp.ofInstant? (unit.instant (ofSignedBytes (payload.take 8))) = some s.timestamp := by
  obtain ⟨value, t⟩ := s
  unfold decode
  split
  · rename_i hlength
    simp [hlength]
  · rename_i hlength
    dsimp only
    split
    · rename_i t' ht
      rw [ht, Except.ok.injEq, RawSample.mk.injEq, Option.some.injEq, eq_comm (a := value)]
      exact ⟨fun h => ⟨not_not.1 hlength, h⟩, And.right⟩
    · rename_i hnone
      simp [hnone]

theorem encode_eq_ok_iff :
    encode unit s = .ok payload ↔ fitsSigned 64 (unit.ticks s.timestamp.instant) = true ∧
      fitsSigned 32 s.value = true ∧
      payload = signedBytes 8 (unit.ticks s.timestamp.instant) ++ signedBytes 4 s.value := by
  unfold encode encodeQuantity
  dsimp only
  cases hticks : fitsSigned 64 (unit.ticks s.timestamp.instant) with
  | false => simp
  | true =>
    cases hvalue : fitsSigned 32 s.value with
    | false => by_cases hwide : fitsSigned 64 s.value = true <;> simp [hwide]
    | true => simp [eq_comm]

theorem kind_of_encode_error {e : PipelineError} (h : encode unit s = .error e) :
    e.kind = .malformedPayload := by
  unfold encode encodeQuantity at h
  dsimp only at h
  split at h <;> [skip; split at h <;> [skip; split at h]] <;> cases h <;> rfl

/-- The two numbers of a written payload are in its first eight and last four bytes. -/
theorem numbers_of_encode (h : encode unit s = .ok payload) :
    payload.length = 12 ∧ ofSignedBytes (payload.take 8) = unit.ticks s.timestamp.instant ∧
      ofSignedBytes (payload.drop 8) = s.value := by
  obtain ⟨hticks, hvalue, rfl⟩ := encode_eq_ok_iff.1 h
  have hticks := fitsSigned_iff.1 hticks
  have hvalue := fitsSigned_iff.1 hvalue
  have hlength := length_signedBytes 8 (unit.ticks s.timestamp.instant)
  rw [List.take_left' hlength, List.drop_left' hlength]
  refine ⟨by simp, ofSignedBytes_signedBytes ?_ ?_, ofSignedBytes_signedBytes ?_ ?_⟩ <;>
    norm_num at hticks hvalue ⊢ <;> omega

/-- A payload is written from its two numbers. -/
theorem signedBytes_append_signedBytes (h : payload.length = rawPayloadSize) :
    signedBytes 8 (ofSignedBytes (payload.take 8)) ++
      signedBytes 4 (ofSignedBytes (payload.drop 8)) = payload := by
  have htake : (payload.take 8).length = 8 := by
    rw [List.length_take, h]
    rfl
  have hdrop : (payload.drop 8).length = 4 := by
    rw [List.length_drop, h]
    rfl
  have hfirst := signedBytes_ofSignedBytes (payload.take 8)
  have hlast := signedBytes_ofSignedBytes (payload.drop 8)
  rw [htake] at hfirst
  rw [hdrop] at hlast
  rw [hfirst, hlast, List.take_append_drop]

/-- The ticks of a payload lie between the bounds of 64 bits. -/
theorem ticks_bounds (h : payload.length = rawPayloadSize) :
    -9223372036854775808 ≤ ofSignedBytes (payload.take 8) ∧
      ofSignedBytes (payload.take 8) < 9223372036854775808 := by
  have htake : (payload.take 8).length = 8 := by
    rw [List.length_take, h]
    rfl
  have hbounds := ofSignedBytes_bounds (payload.take 8)
  rw [htake] at hbounds
  omega

/-- What holds of writing a reading whose instant has these ticks. -/
structure WrittenExactly (unit : TimestampUnit) (s : RawSample) (ticks : Int) : Prop where
  accepted : (∃ payload, encode unit s = .ok payload) ↔
    (-2147483648 ≤ s.value ∧ s.value ≤ 2147483647) ∧
      -9223372036854775808 ≤ ticks ∧ ticks ≤ 9223372036854775807
  refused : ∀ e, encode unit s = .error e → e.kind = .malformedPayload
  naive : encode unit ⟨s.value, s.timestamp.asUtc⟩ = encode unit s
  bytes : ∀ payload, encode unit s = .ok payload → payload.length = 12 ∧
    twosComplement (payload.take 8) = ticks ∧ twosComplement (payload.drop 8) = s.value
  readAgain : ∀ payload, encode unit s = .ok payload →
    0 ≤ s.timestamp.instant → s.timestamp.instant < wallLimit →
    ∃ t, decode unit payload = .ok ⟨s.value, t⟩ ∧ t.offset = some UtcOffset.utc ∧
      t.instant = s.timestamp.instant / unit.resolution * unit.resolution

/-- What holds of reading a payload in milliseconds. -/
structure ReadExactly (payload : Bytes) : Prop where
  accepted : (∃ s, decode .milliseconds payload = .ok s) ↔ payload.length = 12 ∧
    -62135596800000 ≤ twosComplement (payload.take 8) ∧
    twosComplement (payload.take 8) ≤ 253402300799999
  writtenAgain : ∀ s, decode .milliseconds payload = .ok s → encode .milliseconds s = .ok payload

theorem writtenExactly (unit : TimestampUnit) (s : RawSample) :
    WrittenExactly unit s (unit.ticks s.timestamp.instant) where
  accepted := by
    simp only [encode_eq_ok_iff, exists_and_left, exists_eq, and_true, fitsSigned_iff]
    norm_num
    omega
  refused _ := kind_of_encode_error
  naive := rfl
  bytes payload h := by
    rw [← ofSignedBytes_eq, ← ofSignedBytes_eq]
    exact numbers_of_encode h
  readAgain payload h hnonneg hlt := by
    obtain ⟨hlength, hticks, hvalue⟩ := numbers_of_encode h
    have hrounded : 0 ≤ s.timestamp.instant / unit.resolution * unit.resolution ∧
        s.timestamp.instant / unit.resolution * unit.resolution < wallLimit := by
      cases unit <;> simp only [TimestampUnit.resolution] <;> omega
    obtain ⟨t, ht⟩ := Timestamp.exists_ofInstant?_iff.2 hrounded
    refine ⟨t, decode_eq_ok_iff.2 ⟨hlength, hvalue.symm, ?_⟩, Timestamp.ofInstant?_eq_some_iff.1 ht⟩
    rw [hticks, TimestampUnit.instant_ticks, ht]

theorem readExactly (payload : Bytes) : ReadExactly payload where
  accepted := by
    rw [← ofSignedBytes_eq]
    constructor
    · rintro ⟨s, hs⟩
      obtain ⟨hlength, -, hinstant⟩ := decode_eq_ok_iff.1 hs
      have hrange := Timestamp.exists_ofInstant?_iff.1 ⟨_, hinstant⟩
      simp only [TimestampUnit.instant, Timestamp.epoch, wallLimit] at hrange
      exact ⟨hlength, by omega, by omega⟩
    · rintro ⟨hlength, hlow, hhigh⟩
      have hrange : 0 ≤ TimestampUnit.milliseconds.instant (ofSignedBytes (payload.take 8)) ∧
          TimestampUnit.milliseconds.instant (ofSignedBytes (payload.take 8)) < wallLimit := by
        simp only [TimestampUnit.instant, Timestamp.epoch, wallLimit]
        omega
      obtain ⟨t, ht⟩ := Timestamp.exists_ofInstant?_iff.2 hrange
      exact ⟨⟨_, t⟩, decode_eq_ok_iff.2 ⟨hlength, rfl, ht⟩⟩
  writtenAgain s hs := by
    obtain ⟨hlength, hvalue, hinstant⟩ := decode_eq_ok_iff.1 hs
    have hticks : TimestampUnit.milliseconds.ticks s.timestamp.instant =
        ofSignedBytes (payload.take 8) := by
      rw [(Timestamp.ofInstant?_eq_some_iff.1 hinstant).2, TimestampUnit.ticks_instant]
    have hbounds := ticks_bounds hlength
    have hvalueBounds := value_bounds hs
    refine encode_eq_ok_iff.2 ⟨?_, ?_, ?_⟩
    · rw [hticks, fitsSigned_iff]
      norm_num
      omega
    · rw [fitsSigned_iff]
      norm_num
      omega
    · rw [hticks, hvalue, signedBytes_append_signedBytes hlength]

/-- A reading is written exactly when its two numbers have room, and got back up to the rounding of
the unit; a payload is read in milliseconds exactly when its ticks have a date, and got back. -/
theorem written_and_read_exactly :
    (∀ (unit : TimestampUnit) (s : RawSample), ∃ ticks,
      unit.Counts (s.timestamp.instant - Timestamp.epoch) ticks ∧ WrittenExactly unit s ticks) ∧
    ∀ payload, ReadExactly payload :=
  ⟨fun unit s => ⟨_, TimestampUnit.counts_iff.2 rfl, writtenExactly unit s⟩, readExactly⟩

/-! ## Nanoseconds -/

/-- All nanoseconds of 64 bits have a calendar date, between the years 1677 and 2262. -/
theorem exists_decode_nanoseconds (h : payload.length = rawPayloadSize) :
    ∃ s, decode .nanoseconds payload = .ok s := by
  obtain ⟨hlow, hhigh⟩ := ticks_bounds h
  have hrange : 0 ≤ TimestampUnit.nanoseconds.instant (ofSignedBytes (payload.take 8)) ∧
      TimestampUnit.nanoseconds.instant (ofSignedBytes (payload.take 8)) < wallLimit := by
    rw [TimestampUnit.instant, Int.fdiv_eq_ediv_of_nonneg _ (by decide), Timestamp.epoch, wallLimit]
    omega
  obtain ⟨t, ht⟩ := Timestamp.exists_ofInstant?_iff.2 hrange
  exact ⟨⟨_, t⟩, decode_eq_ok_iff.2 ⟨h, rfl, ht⟩⟩

/-- What holds of a payload that is read in nanoseconds as `s` and written again. The least ticks of
64 bits are no multiple of a thousand, so that those just above them have no multiple below. -/
structure WrittenAgain (payload : Bytes) (s : RawSample) : Prop where
  read : decode .nanoseconds payload = .ok s
  value : s.value = twosComplement (payload.drop 8)
  instant : s.timestamp.instant = Timestamp.epoch + twosComplement (payload.take 8) / 1000
  accepted : (∃ again, encode .nanoseconds s = .ok again) ↔
    -9223372036854775000 ≤ twosComplement (payload.take 8)
  refused : ∀ e, encode .nanoseconds s = .error e → e.kind = .malformedPayload
  sameValue : ∀ again, encode .nanoseconds s = .ok again → again.drop 8 = payload.drop 8
  roundedDown : ∀ again, encode .nanoseconds s = .ok again → again.length = 12 ∧
    twosComplement (again.take 8) = twosComplement (payload.take 8) / 1000 * 1000
  readAgain : ∀ again, encode .nanoseconds s = .ok again → decode .nanoseconds again = .ok s

theorem writtenAgain {s : RawSample} (hs : decode .nanoseconds payload = .ok s) :
    WrittenAgain payload s := by
  obtain ⟨hlength, hvalue, hinstant⟩ := decode_eq_ok_iff.1 hs
  obtain ⟨hlow, hhigh⟩ := ticks_bounds hlength
  obtain ⟨hvalueLow, hvalueHigh⟩ := value_bounds hs
  have hnamed := (Timestamp.ofInstant?_eq_some_iff.1 hinstant).2
  have hticks : TimestampUnit.nanoseconds.ticks s.timestamp.instant =
      ofSignedBytes (payload.take 8) / 1000 * 1000 := by
    rw [hnamed, TimestampUnit.ticks_instant_nanoseconds]
  have hdrop : (payload.drop 8).length = 4 := by
    rw [List.length_drop, hlength]
    rfl
  exact
    { read := hs
      value := by rw [hvalue, ofSignedBytes_eq]
      instant := by
        rw [hnamed, TimestampUnit.instant, Int.fdiv_eq_ediv_of_nonneg _ (by decide),
          ofSignedBytes_eq]
      accepted := by
        simp only [encode_eq_ok_iff, exists_and_left, exists_eq, and_true, fitsSigned_iff, hticks,
          ← ofSignedBytes_eq]
        norm_num
        omega
      refused := fun _ => kind_of_encode_error
      sameValue := fun again hagain => by
        obtain ⟨-, -, rfl⟩ := encode_eq_ok_iff.1 hagain
        have hbytes := signedBytes_ofSignedBytes (payload.drop 8)
        rw [hdrop, ← hvalue] at hbytes
        rw [List.drop_left' (length_signedBytes 8 _), hbytes]
      roundedDown := fun again hagain => by
        obtain ⟨hagainLength, hagainTicks, -⟩ := numbers_of_encode hagain
        rw [← ofSignedBytes_eq, ← ofSignedBytes_eq, hagainTicks, hticks]
        exact ⟨hagainLength, rfl⟩
      readAgain := fun again hagain => by
        obtain ⟨hagainLength, hagainTicks, hagainValue⟩ := numbers_of_encode hagain
        refine decode_eq_ok_iff.2 ⟨hagainLength, hagainValue.symm, ?_⟩
        rw [hagainTicks, TimestampUnit.instant_ticks, TimestampUnit.resolution, Int.ediv_one,
          Int.mul_one, hnamed, hinstant] }

/-- A payload of twelve bytes is read in nanoseconds. The reading is written again, with the ticks
rounded down to whole microseconds, exactly if the rounded ticks have 64 bits. -/
theorem read_and_written_again (h : payload.length = 12) : ∃ s, WrittenAgain payload s := by
  obtain ⟨s, hs⟩ := exists_decode_nanoseconds h
  exact ⟨s, writtenAgain hs⟩

/-- The ticks are one above the least that are written again. -/
theorem read_and_written_again_near_least :
    let payload : Bytes := [0x80, 0, 0, 0, 0, 0, 0x03, 0x29, 0xFF, 0xFF, 0xFF, 0xFE]
    payload.length = 12 ∧ twosComplement (payload.take 8) = -9223372036854774999 ∧
      ∃ s, WrittenAgain payload s :=
  ⟨by decide, by decide +kernel, read_and_written_again (by decide)⟩

/-- The least ticks of 64 bits are read, and rounded down they are not written again. -/
theorem refused_at_least_ticks :
    let payload : Bytes := [0x80, 0, 0, 0, 0, 0, 0, 0, 0, 0, 0, 0]
    let s : RawSample := ⟨0, ⟨⟨52912224763145224, by decide⟩, some UtcOffset.utc⟩⟩
    payload.length = 12 ∧ decode .nanoseconds payload = .ok s ∧
      encode .nanoseconds s = .error (cannotEncode "int too large to convert") := by
  decide +kernel

end RawSample

end SensorRelay
