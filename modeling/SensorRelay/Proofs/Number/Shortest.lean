import SensorRelay.Number.Decimal
import SensorRelay.Number.Numeral
import SensorRelay.Proofs.Number.Rounding
import SensorRelay.Proofs.Text.Digit

/-!
# Shortest decimals read back

The digits that `shortest` finds for a magnitude are on a grid where they read back, or, after
the last grid, they are all the digits there are (`readsBack_shortest`). A decimal that reads back
is rounded to the magnitude again (`ReadsBack.nearestDecimal_eq`), and so is the same value with
another exponent (`ReadsBack.shift`). The limits on the exponent in `nearestDecimal` do not
interfere, because a finite magnitude is neither that large nor that small
(`ReadsBack.exponent_le`, `ReadsBack.le_lead`).
-/

namespace SensorRelay.Binary64

theorem two_mul_unitsPerOne : Nat.pow 2 1075 = 2 * unitsPerOne := by
  decide +kernel

theorem five_pow_mul_unitsPerOne : Nat.pow 5 1074 * unitsPerOne = Nat.pow 10 1074 := by
  decide +kernel

/-- The decimal `d * 10 ^ e` reads back as the magnitude. -/
def ReadsBack (m d : Nat) (e : Int) : Prop :=
  RoundsTo m (d * 10 ^ e.toNat * unitsPerOne) (10 ^ (-e).toNat)

theorem readsBack_iff {m d : Nat} {e : Int} : readsBack m d e = true ↔ ReadsBack m d e := by
  have hnum : d * 10 ^ e.toNat * (2 * unitsPerOne) = 2 * (d * 10 ^ e.toNat * unitsPerOne) := by
    ring
  rw [readsBack, two_mul_unitsPerOne]
  simp only [ReadsBack, RoundsTo, Nat.pow_eq, hnum]
  split
  · simp only [Bool.and_eq_true, decide_eq_true_eq]
    omega
  · simp only [Bool.and_eq_true, decide_eq_true_eq]
    omega

/-! ## The search -/

theorem readsBack_of_first {m first second d : Nat} {e : Int}
    (h : (if readsBack m first e then some first
      else if readsBack m second e then some second else none) = some d) : ReadsBack m d e := by
  split at h
  · rename_i hfirst
    exact readsBack_iff.1 (Option.some.inj h ▸ hfirst)
  · split at h
    · rename_i hsecond
      exact readsBack_iff.1 (Option.some.inj h ▸ hsecond)
    · cases h

theorem readsBack_of_onGrid? {m d : Nat} {e : Int} (h : onGrid? m e = some d) :
    ReadsBack m d e :=
  readsBack_of_first h

/-- All digits of a magnitude. -/
theorem readsBack_allDigits {m : Nat} (hm : 0 < m) :
    ReadsBack m (unitsOf m * Nat.pow 5 1074) (-1074) := by
  have hnum : unitsOf m * Nat.pow 5 1074 * 10 ^ (-1074 : Int).toNat * unitsPerOne =
      unitsOf m * Nat.pow 10 1074 := by
    have hzero : (-1074 : Int).toNat = 0 := rfl
    rw [hzero, pow_zero, Nat.mul_one, Nat.mul_assoc, five_pow_mul_unitsPerOne]
  have hden : 10 ^ (-(-1074) : Int).toNat = Nat.pow 10 1074 := rfl
  rw [ReadsBack, hnum, hden]
  exact roundsTo_units hm (Nat.pow_pos (by omega))

theorem readsBack_searchGrids {m : Nat} (hm : 0 < m) (steps : Nat) (e : Int) :
    ReadsBack m (searchGrids m steps e).1 (searchGrids m steps e).2 := by
  induction steps generalizing e with
  | zero => exact readsBack_allDigits hm
  | succ steps ih =>
    unfold searchGrids
    split
    · rename_i d hd
      exact readsBack_of_onGrid? hd
    · exact ih (e - 1)

/-- The shortest digits of a magnitude read back. -/
theorem readsBack_shortest {m : Nat} (hm : 0 < m) :
    ReadsBack m (shortest m).1 (shortest m).2 :=
  readsBack_searchGrids hm 20 (decimalBound m)

/-! ## Limits of the exponent -/

theorem unitsPerOne_lt : 2 * unitsPerOne < 10 ^ 400 := by
  decide +kernel

theorem unitsOf_infinityMagnitude_lt : unitsOf infinityMagnitude < unitsPerOne * 10 ^ 309 := by
  decide +kernel

namespace ReadsBack

variable {m d : Nat} {e : Int}

theorem digits_pos (h : ReadsBack m d e) (hm : 0 < m) : 0 < d := by
  rcases Nat.eq_zero_or_pos d with rfl | hd
  · have hunits : 0 < unitsOf m := Nat.zero_lt_of_lt (unitsOf_strictMono hm)
    have hpow : 0 < 10 ^ (-e).toNat := Nat.pow_pos (by omega)
    have hlow := Nat.mul_pos (Nat.add_pos_right (unitsOf (m - 1)) hunits) hpow
    have := h.1
    simp only [Nat.zero_mul, Nat.mul_zero] at this
    omega
  · exact hd

/-- A finite magnitude has no decimal with an exponent that is out of range. -/
theorem exponent_le (h : ReadsBack m d e) (hm : 0 < m) (hfinite : m < infinityMagnitude) :
    e ≤ 400 := by
  by_contra he
  have hnonneg : (-e).toNat = 0 := by omega
  have hd := h.digits_pos hm
  have hhigh := h.2.1
  rw [hnonneg, pow_zero, Nat.mul_one] at hhigh
  have hm' : unitsOf m ≤ unitsOf infinityMagnitude := unitsOf_strictMono.monotone (by omega)
  have hm'' : unitsOf (m + 1) ≤ unitsOf infinityMagnitude := unitsOf_strictMono.monotone (by omega)
  have hpow : 10 ^ 309 ≤ 10 ^ e.toNat := Nat.pow_le_pow_right (by omega) (by omega)
  have hle : 10 ^ 309 * unitsPerOne ≤ d * 10 ^ e.toNat * unitsPerOne :=
    Nat.mul_le_mul_right _ (hpow.trans (Nat.le_mul_of_pos_left _ hd))
  have hlt := unitsOf_infinityMagnitude_lt
  rw [Nat.mul_comm] at hlt
  omega

/-- Nor has a positive one a decimal whose first digit is out of range. -/
theorem le_lead (h : ReadsBack m d e) (hm : 0 < m) {digits : Nat} (hd : d < 10 ^ digits) :
    -400 ≤ e + digits := by
  by_contra he
  have hneg : e.toNat = 0 := by omega
  have hunits : 0 < unitsOf m := Nat.zero_lt_of_lt (unitsOf_strictMono hm)
  have hlow := h.1
  rw [hneg, pow_zero, Nat.mul_one] at hlow
  have hpow : 10 ^ 400 * 10 ^ digits ≤ 10 ^ (-e).toNat := by
    rw [← Nat.pow_add]
    exact Nat.pow_le_pow_right (by omega) (by omega)
  have hle : 10 ^ (-e).toNat ≤ (unitsOf (m - 1) + unitsOf m) * 10 ^ (-e).toNat :=
    Nat.le_mul_of_pos_left _ (by omega)
  have hlt : 2 * unitsPerOne * 10 ^ digits < 10 ^ 400 * 10 ^ digits :=
    Nat.mul_lt_mul_of_pos_right unitsPerOne_lt (Nat.pow_pos (by omega))
  have hnum : d * (2 * unitsPerOne) ≤ 10 ^ digits * (2 * unitsPerOne) :=
    Nat.mul_le_mul_right _ hd.le
  rw [Nat.mul_comm (2 * unitsPerOne)] at hlt
  rw [Nat.mul_left_comm] at hnum
  omega

/-- A decimal that reads back is rounded to the magnitude. -/
theorem nearestDecimal_eq (h : ReadsBack m d e) (hm : 0 < m) (hfinite : m < infinityMagnitude)
    {digits : Nat} (hd : d < 10 ^ digits) : nearestDecimal d digits e = m := by
  have hden : 0 < 10 ^ (-e).toNat := Nat.pow_pos (by omega)
  have hnearest := RoundsTo.nearestUnits_eq hden h hfinite.le
  have hpos := h.digits_pos hm
  have hle := h.exponent_le hm hfinite
  have hlead := h.le_lead hm hd
  rw [nearestDecimal, if_neg (by omega), if_neg (by omega), if_neg (by omega)]
  split
  · rename_i he
    have hzero : (-e).toNat = 0 := by omega
    rw [hzero, pow_zero] at hnearest
    exact hnearest
  · rename_i he
    have hzero : e.toNat = 0 := by omega
    rw [hzero, pow_zero, Nat.mul_one] at hnearest
    exact hnearest

/-- A decimal reads back with a zero more at its end, too. -/
theorem shift (h : ReadsBack m d e) (he : 0 ≤ e) : ReadsBack m (d * 10 ^ (e.toNat + 1)) (-1) := by
  have hzero : (-e).toNat = 0 := by omega
  have hscaled := RoundsTo.scale 10 h (by omega)
  rw [hzero, pow_zero, Nat.one_mul] at hscaled
  have hnum : d * 10 ^ (e.toNat + 1) * 10 ^ (-1 : Int).toNat * unitsPerOne =
      d * 10 ^ e.toNat * unitsPerOne * 10 := by
    have hone : (-1 : Int).toNat = 0 := rfl
    rw [hone, pow_zero]
    ring
  have hden : 10 ^ (-(-1) : Int).toNat = 10 := rfl
  rw [ReadsBack, hnum, hden]
  exact hscaled

end ReadsBack

end SensorRelay.Binary64
