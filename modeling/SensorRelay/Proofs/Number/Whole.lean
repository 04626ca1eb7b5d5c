import SensorRelay.Proofs.Number.Rounding

/-!
# Whole numbers as doubles

A whole number of at most 53 bits is a double exactly (`is_ofInt`), since its bits fit in the
significand of one binade (`exists_unitsOf_eq`). One of at most 64 bits is rounded, but to a finite
double (`isFinite_ofInt_of_le`). Zero becomes the double without a sign (`plusZero_ofInt`).
-/

namespace SensorRelay.Binary64

/-! ## Sign and magnitude -/

theorem toNat_bits_ofMagnitude {m : Nat} (negative : Bool) (h : m < 2 ^ 63) :
    (ofMagnitude negative m).bits.toNat = m + if negative then 2 ^ 63 else 0 := by
  unfold ofMagnitude
  cases negative with
  | false =>
    simp only [Bool.false_eq_true, if_false, Nat.add_zero, UInt64.toNat_ofNat']
    exact Nat.mod_eq_of_lt (by omega)
  | true =>
    simp only [if_true, Nat.pow_eq, UInt64.toNat_ofNat']
    exact Nat.mod_eq_of_lt (by omega)

theorem magnitude_ofMagnitude {m : Nat} (negative : Bool) (h : m < 2 ^ 63) :
    (ofMagnitude negative m).magnitude = m := by
  rw [magnitude, toNat_bits_ofMagnitude negative h, Nat.pow_eq]
  split <;> omega

theorem negative_ofMagnitude {m : Nat} (b : Bool) (h : m < 2 ^ 63) :
    (ofMagnitude b m).negative = b := by
  rw [negative, toNat_bits_ofMagnitude b h, Nat.pow_eq]
  cases b with
  | false =>
    rw [if_neg (by decide), decide_eq_false_iff_not]
    omega
  | true =>
    rw [if_pos rfl, decide_eq_true_eq]
    omega

/-! ## Whole numbers -/

/-- The double is this whole number, without any rounding. -/
def Is (x : Binary64) (n : Int) : Prop :=
  x.isFinite = true ∧ x.units = n * unitsPerOne

theorem log2_bounds {n : Nat} (hn : 0 < n) (h : n < 2 ^ 53) :
    n.log2 ≤ 52 ∧ 2 ^ 52 ≤ n * 2 ^ (52 - n.log2) ∧ n * 2 ^ (52 - n.log2) < 2 ^ 53 := by
  have hlog : n.log2 < 53 := (Nat.log2_lt (by omega)).2 h
  have hlow : 2 ^ n.log2 ≤ n := Nat.log2_self_le (by omega)
  have hhigh : n < 2 ^ (n.log2 + 1) := Nat.lt_log2_self
  have hpow := Nat.two_pow_pos (52 - n.log2)
  have hlow' : 2 ^ n.log2 * 2 ^ (52 - n.log2) = 2 ^ 52 := by
    rw [← Nat.pow_add]
    congr 1
    omega
  have hhigh' : 2 ^ (n.log2 + 1) * 2 ^ (52 - n.log2) = 2 ^ 53 := by
    rw [← Nat.pow_add]
    congr 1
    omega
  refine ⟨by omega, ?_, ?_⟩
  · rw [← hlow']
    exact Nat.mul_le_mul_right _ hlow
  · rw [← hhigh']
    exact Nat.mul_lt_mul_of_pos_right hhigh hpow

/-- A number of at most 53 bits is the units of a magnitude, counted in wholes. -/
theorem exists_unitsOf_eq {n : Nat} (hn : 0 < n) (h : n < 2 ^ 53) :
    ∃ m, 0 < m ∧ m < infinityMagnitude ∧ unitsOf m = n * unitsPerOne := by
  obtain ⟨hlog, hlow, hhigh⟩ := log2_bounds hn h
  refine ⟨(1022 + n.log2) * 2 ^ 52 + n * 2 ^ (52 - n.log2), by omega, ?_, ?_⟩
  · unfold infinityMagnitude
    omega
  · have hexp : 52 - n.log2 + (1022 + n.log2) = 1074 := by omega
    rw [unitsOf_eq (Or.inr hlow) hhigh.le, Nat.mul_assoc, ← Nat.pow_add, hexp, unitsPerOne,
      Nat.pow_eq]

theorem nearest_eq (num den : Nat) : nearest num den = nearestUnits (num * unitsPerOne) den :=
  rfl

theorem nearest_whole {n : Nat} (h : n < 2 ^ 53) :
    nearest n 1 < infinityMagnitude ∧ unitsOf (nearest n 1) = n * unitsPerOne := by
  rcases Nat.eq_zero_or_pos n with rfl | hn
  · have hzero : nearest 0 1 = 0 := by
      simp [nearest, nearestUnits, roundDiv]
    rw [hzero]
    exact ⟨by decide, by simp [unitsOf]⟩
  · obtain ⟨m, hm, hfinite, hunits⟩ := exists_unitsOf_eq hn h
    have hround := (roundsTo_units hm Nat.one_pos).nearestUnits_eq Nat.one_pos hfinite.le
    rw [Nat.mul_one, hunits] at hround
    rw [nearest_eq, hround]
    exact ⟨hfinite, hunits⟩

/-- A whole number of at most 64 bits is far below the largest double. -/
theorem isFinite_ofInt_of_le {n : Int} (h : n.natAbs ≤ 2 ^ 64) : (ofInt n).isFinite = true := by
  have hunits : unitsOf (1086 * 2 ^ 52 + 2 ^ 52) = 2 ^ 64 * unitsPerOne := by
    rw [unitsOf_eq (Or.inr (Nat.le_refl _)) (by omega), unitsPerOne, Nat.pow_eq, ← Nat.pow_add,
      ← Nat.pow_add]
  have hle : nearest n.natAbs 1 ≤ 1086 * 2 ^ 52 + 2 ^ 52 := by
    rw [nearest_eq]
    refine nearestUnits_le Nat.one_pos ?_
    rw [hunits, Nat.mul_one]
    exact Nat.mul_le_mul_right _ h
  have hlimit : 1086 * 2 ^ 52 + 2 ^ 52 < infinityMagnitude := by decide
  rw [isFinite, ofInt, magnitude_ofMagnitude _ (hle.trans_lt (by decide)), decide_eq_true_eq]
  exact hle.trans_lt hlimit

variable {n : Int} (h : n.natAbs < 2 ^ 53)

include h

theorem magnitude_ofInt : (ofInt n).magnitude = nearest n.natAbs 1 :=
  magnitude_ofMagnitude _ ((nearest_whole h).1.trans (by decide))

theorem negative_ofInt : (ofInt n).negative = decide (n < 0) :=
  negative_ofMagnitude _ ((nearest_whole h).1.trans (by decide))

theorem isFinite_ofInt : (ofInt n).isFinite = true :=
  isFinite_ofInt_of_le (h.le.trans (by omega))

theorem units_ofInt : (ofInt n).units = n * unitsPerOne := by
  rw [units, negative_ofInt h, magnitude_ofInt h, (nearest_whole h).2, Int.natCast_mul]
  rcases Int.lt_or_le n 0 with hn | hn
  · have habs : -(n.natAbs : Int) = n := by omega
    rw [if_pos (by simpa using hn), ← Int.neg_mul, habs]
  · have habs : (n.natAbs : Int) = n := by omega
    rw [if_neg (by simpa using hn), habs]

/-- A whole number of at most 53 bits is its double exactly. -/
theorem is_ofInt : (ofInt n).Is n :=
  ⟨isFinite_ofInt h, units_ofInt h⟩

/-- Zero as a whole number has no sign. -/
theorem plusZero_ofInt : (ofInt n).plusZero = ofInt n := by
  unfold plusZero
  split
  · rename_i hzero
    rw [magnitude_ofInt h] at hzero
    have hproduct : n.natAbs * unitsPerOne = 0 := by
      rw [← (nearest_whole h).2, hzero]
      rfl
    have hpos : 0 < unitsPerOne := Nat.two_pow_pos 1074
    have hn : n = 0 := by
      rcases Nat.mul_eq_zero.1 hproduct with hn | hn
      · omega
      · omega
    subst hn
    rw [zero, ofInt, hzero]
    rfl
  · rfl

omit h in
theorem isNaN_of_isFinite {x : Binary64} (h : x.isFinite = true) : x.isNaN = false := by
  rw [isFinite, decide_eq_true_eq] at h
  rw [isNaN, decide_eq_false_iff_not]
  omega

end SensorRelay.Binary64
