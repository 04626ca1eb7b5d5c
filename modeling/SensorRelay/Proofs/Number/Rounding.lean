import Mathlib.Tactic.Ring
import Mathlib.Tactic.Linarith
import SensorRelay.Number.Binary64

/-!
# Rounding to the nearest double

A magnitude reads back from every quotient that lies between the middles to its two neighbours,
and from the middles themselves if it is even (`RoundsTo`). These intervals do not overlap
(`RoundsTo.eq`), since the units grow with the magnitude (`unitsOf_lt_succ`), and
`nearestUnits` always finds a magnitude whose interval contains the quotient
(`roundsTo_unlimited`), so a finite magnitude is what all quotients of its interval are rounded to
(`RoundsTo.nearestUnits_eq`). Rounding does not go past a magnitude that a quotient does not exceed
(`nearestUnits_le`).

A magnitude is taken apart as `k * 2 ^ 52 + r`, where `r` has 53 bits or `k` is zero; it then has
`r * 2 ^ k` units. The same magnitude has two such forms where one binade meets the next.
-/

namespace SensorRelay.Binary64

/-! ## Units -/

/-- The units in one. -/
def unitsPerOne : Nat := Nat.pow 2 1074

theorem unitsOf_eq {k r : Nat} (hk : k = 0 ∨ 2 ^ 52 ≤ r) (hr : r ≤ 2 ^ 53) :
    unitsOf (k * 2 ^ 52 + r) = r * 2 ^ k := by
  simp only [unitsOf, Nat.pow_eq]
  split
  · obtain rfl : k = 0 := by omega
    simp
  · obtain ⟨hmod, hdiv⟩ | ⟨rfl, hmod, hdiv⟩ :
        ((k * 2 ^ 52 + r) % 2 ^ 52 = r - 2 ^ 52 ∧ (k * 2 ^ 52 + r) / 2 ^ 52 = k + 1) ∨
        (r = 2 ^ 53 ∧ (k * 2 ^ 52 + r) % 2 ^ 52 = 0 ∧ (k * 2 ^ 52 + r) / 2 ^ 52 = k + 2) := by
      omega
    · have hr' : r - 2 ^ 52 + 2 ^ 52 = r := by omega
      rw [hmod, hdiv, hr', Nat.add_sub_cancel]
    · have hk' : k + 2 - 1 = k + 1 := rfl
      rw [hmod, hdiv, hk', pow_succ 2 k]
      ring

theorem exists_form (m : Nat) :
    ∃ k r, m = k * 2 ^ 52 + r ∧ (k = 0 ∨ 2 ^ 52 ≤ r) ∧ r < 2 ^ 53 := by
  rcases Nat.lt_or_ge m (2 ^ 52) with h | h
  · exact ⟨0, m, by omega, Or.inl rfl, by omega⟩
  · exact ⟨m / 2 ^ 52 - 1, m % 2 ^ 52 + 2 ^ 52, by omega, Or.inr (by omega), by omega⟩

/-- In its binade a magnitude is at least one step below the next one. -/
theorem unitsOf_add_le {k r : Nat} (hk : k = 0 ∨ 2 ^ 52 ≤ r) (hr : r ≤ 2 ^ 53) :
    unitsOf (k * 2 ^ 52 + r) + 2 ^ k ≤ unitsOf (k * 2 ^ 52 + r + 1) := by
  rw [unitsOf_eq hk hr]
  rcases Nat.lt_or_ge r (2 ^ 53) with h | h
  · rw [Nat.add_assoc, unitsOf_eq (by omega) h]
    exact (Nat.succ_mul r (2 ^ k)).ge
  · have hm : k * 2 ^ 52 + r + 1 = (k + 1) * 2 ^ 52 + (2 ^ 52 + 1) := by omega
    obtain rfl : r = 2 ^ 53 := by omega
    rw [hm, unitsOf_eq (Or.inr (by omega)) (by omega), pow_succ 2 k]
    linarith [Nat.two_pow_pos k]

theorem unitsOf_lt_succ (m : Nat) : unitsOf m < unitsOf (m + 1) := by
  obtain ⟨k, r, rfl, hk, hr⟩ := exists_form m
  have := unitsOf_add_le hk hr.le
  have := Nat.two_pow_pos k
  omega

theorem unitsOf_strictMono : StrictMono unitsOf :=
  strictMono_nat_of_lt_succ unitsOf_lt_succ

/-- Above the bottom of its binade a magnitude is one step above the one before it. -/
theorem unitsOf_pred_add_le {k r : Nat} (hk : k = 0 ∨ 2 ^ 52 < r) (hr : r ≤ 2 ^ 53) (h0 : 0 < r) :
    unitsOf (k * 2 ^ 52 + r - 1) + 2 ^ k ≤ unitsOf (k * 2 ^ 52 + r) := by
  obtain ⟨p, rfl⟩ : ∃ p, r = p + 1 := ⟨r - 1, by omega⟩
  have hpred : k * 2 ^ 52 + (p + 1) - 1 = k * 2 ^ 52 + p := by omega
  rw [hpred, ← Nat.add_assoc]
  exact unitsOf_add_le (by omega) (by omega)

/-! ## Quotients -/

/-- The rounded quotient is at most half a divisor off, and less than that if it is odd. -/
theorem roundDiv_spec (num : Nat) {den : Nat} (hden : 0 < den) :
    2 * (roundDiv num den * den) ≤ 2 * num + den ∧ 2 * num ≤ 2 * (roundDiv num den * den) + den ∧
      (roundDiv num den % 2 = 1 → 2 * (roundDiv num den * den) < 2 * num + den ∧
        2 * num < 2 * (roundDiv num den * den) + den) := by
  have hnum : num = num / den * den + num % den := by
    rw [Nat.mul_comm]
    exact (Nat.div_add_mod num den).symm
  have hr : num % den < den := Nat.mod_lt num hden
  have hsucc : (num / den + 1) * den = num / den * den + den := Nat.succ_mul _ _
  unfold roundDiv
  dsimp only
  split
  · omega
  · split
    · rw [hsucc]
      omega
    · rcases Nat.mod_two_eq_zero_or_one (num / den) with h | h
      · rw [h, Nat.add_zero]
        omega
      · rw [h, hsucc]
        omega

theorem roundDiv_cases (num den : Nat) :
    roundDiv num den = num / den ∨ roundDiv num den = num / den + 1 := by
  unfold roundDiv
  dsimp only
  split
  · exact Or.inl rfl
  · split
    · exact Or.inr rfl
    · omega

/-! ## Intervals -/

/-- The quotient `num / den`, in units, is not past the middles between the magnitude and its
neighbours, and if the magnitude is odd it is none of the middles. -/
def RoundsTo (m num den : Nat) : Prop :=
  (unitsOf (m - 1) + unitsOf m) * den ≤ 2 * num ∧
    2 * num ≤ (unitsOf m + unitsOf (m + 1)) * den ∧
    (m % 2 = 1 → (unitsOf (m - 1) + unitsOf m) * den < 2 * num ∧
      2 * num < (unitsOf m + unitsOf (m + 1)) * den)

theorem RoundsTo.le {m n num den : Nat} (hden : 0 < den) (hm : RoundsTo m num den)
    (hn : RoundsTo n num den) : n ≤ m := by
  by_contra hmn
  have hlow : unitsOf m ≤ unitsOf (n - 1) := unitsOf_strictMono.monotone (by omega)
  have hhigh : unitsOf (m + 1) ≤ unitsOf n := unitsOf_strictMono.monotone (by omega)
  have hle : (unitsOf m + unitsOf (m + 1)) * den ≤ (unitsOf (n - 1) + unitsOf n) * den :=
    Nat.mul_le_mul_right den (by omega)
  -- the two intervals can only meet in a middle, and of two neighbours one is odd
  rcases Nat.lt_or_ge (m + 1) n with h | h
  · have hgap : unitsOf (m + 1) < unitsOf n := unitsOf_strictMono h
    have hlt : (unitsOf m + unitsOf (m + 1)) * den < (unitsOf (n - 1) + unitsOf n) * den :=
      Nat.mul_lt_mul_of_pos_right (by omega) hden
    have := hm.2.1
    have := hn.1
    omega
  · rcases Nat.mod_two_eq_zero_or_one m with heven | hodd
    · have := hm.2.1
      have := (hn.2.2 (by omega)).1
      omega
    · have := (hm.2.2 hodd).2
      have := hn.1
      omega

/-- No two magnitudes have a quotient in common. -/
theorem RoundsTo.eq {m n num den : Nat} (hden : 0 < den) (hm : RoundsTo m num den)
    (hn : RoundsTo n num den) : m = n :=
  Nat.le_antisymm (hn.le hden hm) (hm.le hden hn)

theorem RoundsTo.scale {m num den : Nat} (c : Nat) (h : RoundsTo m num den) (hc : 0 < c) :
    RoundsTo m (num * c) (den * c) := by
  obtain ⟨hlow, hhigh, hodd⟩ := h
  simp only [RoundsTo, ← Nat.mul_assoc]
  refine ⟨Nat.mul_le_mul_right c hlow, Nat.mul_le_mul_right c hhigh, fun hm => ?_⟩
  exact ⟨Nat.mul_lt_mul_of_pos_right (hodd hm).1 hc, Nat.mul_lt_mul_of_pos_right (hodd hm).2 hc⟩

/-- A magnitude reads back from its own units. -/
theorem roundsTo_units {m : Nat} (hm : 0 < m) {den : Nat} (hden : 0 < den) :
    RoundsTo m (unitsOf m * den) den := by
  have hlow : unitsOf (m - 1) < unitsOf m := unitsOf_strictMono (by omega)
  have hhigh : unitsOf m < unitsOf (m + 1) := unitsOf_lt_succ m
  have hlow' : (unitsOf (m - 1) + unitsOf m) * den < 2 * (unitsOf m * den) := by
    rw [← Nat.mul_assoc]
    exact Nat.mul_lt_mul_of_pos_right (by omega) hden
  have hhigh' : 2 * (unitsOf m * den) < (unitsOf m + unitsOf (m + 1)) * den := by
    rw [← Nat.mul_assoc]
    exact Nat.mul_lt_mul_of_pos_right (by omega) hden
  exact ⟨hlow'.le, hhigh'.le, fun _ => ⟨hlow', hhigh'⟩⟩

/-! ## The nearest magnitude -/

theorem binade_bounds (q : Nat) :
    (q.log2 - 52 = 0 ∨ 2 ^ 52 * 2 ^ (q.log2 - 52) ≤ q) ∧ q < 2 ^ 53 * 2 ^ (q.log2 - 52) := by
  have hlt : q < 2 ^ (q.log2 + 1) := Nat.lt_log2_self
  rcases Nat.lt_or_ge q.log2 53 with h | h
  · refine ⟨?_, ?_⟩
    · rcases Nat.lt_or_ge q.log2 52 with h' | h'
      · exact Or.inl (by omega)
      · exact Or.inl (by omega)
    · have hle : 2 ^ (q.log2 + 1) ≤ 2 ^ 53 := Nat.pow_le_pow_right (by omega) (by omega)
      have hmul : 2 ^ 53 ≤ 2 ^ 53 * 2 ^ (q.log2 - 52) :=
        Nat.le_mul_of_pos_right _ (Nat.two_pow_pos _)
      omega
  · have hq : q ≠ 0 := by
      rintro rfl
      simp at h
    have hge : 2 ^ q.log2 ≤ q := Nat.log2_self_le hq
    rw [← Nat.pow_add, ← Nat.pow_add]
    have hlow : 52 + (q.log2 - 52) = q.log2 := by omega
    have hhigh : 53 + (q.log2 - 52) = q.log2 + 1 := by omega
    rw [hlow, hhigh]
    exact ⟨Or.inr hge, hlt⟩

/-- A quotient of the binade `k` is rounded to a number of 53 bits, or to the next power of two. -/
theorem significand_bounds {k num den : Nat} (hk : k = 0 ∨ 2 ^ 52 * 2 ^ k ≤ num / den)
    (hq : num / den < 2 ^ 53 * 2 ^ k) :
    (k = 0 ∨ 2 ^ 52 ≤ roundDiv num (den * 2 ^ k)) ∧ roundDiv num (den * 2 ^ k) ≤ 2 ^ 53 := by
  have hpow := Nat.two_pow_pos k
  have hlow : k = 0 ∨ 2 ^ 52 ≤ num / (den * 2 ^ k) := by
    refine hk.imp_right fun h => ?_
    rw [← Nat.div_div_eq_div_mul]
    exact (Nat.le_div_iff_mul_le hpow).2 h
  have hhigh : num / (den * 2 ^ k) < 2 ^ 53 := by
    rw [← Nat.div_div_eq_div_mul]
    exact (Nat.div_lt_iff_lt_mul hpow).2 hq
  rcases roundDiv_cases num (den * 2 ^ k) with h | h <;> omega

/-- Rounding to a number of steps of the binade finds a magnitude that reads back. -/
theorem roundsTo_of_binade {k num den : Nat} (hden : 0 < den)
    (hk : k = 0 ∨ 2 ^ 52 * 2 ^ k ≤ num / den) (hq : num / den < 2 ^ 53 * 2 ^ k) :
    RoundsTo (k * 2 ^ 52 + roundDiv num (den * 2 ^ k)) num den := by
  have hpow := Nat.two_pow_pos k
  obtain ⟨hr, hr'⟩ := significand_bounds hk hq
  obtain ⟨hlow, hhigh, hodd⟩ := roundDiv_spec num (Nat.mul_pos hden hpow)
  generalize roundDiv num (den * 2 ^ k) = r at *
  have hunits := unitsOf_eq hr hr'
  have hstep := unitsOf_add_le hr hr'
  have hU : r * (den * 2 ^ k) = unitsOf (k * 2 ^ 52 + r) * den := by
    rw [hunits]
    ring
  rw [hU] at hlow hhigh hodd
  have habove : 2 * (unitsOf (k * 2 ^ 52 + r) * den) + den * 2 ^ k ≤
      (unitsOf (k * 2 ^ 52 + r) + unitsOf (k * 2 ^ 52 + r + 1)) * den := by
    nlinarith
  have hparity : (k * 2 ^ 52 + r) % 2 = r % 2 := by omega
  rw [RoundsTo, hparity]
  by_cases hbottom : k ≠ 0 ∧ r = 2 ^ 52
  · -- at the bottom of a binade the quotient is not below the magnitude itself
    have hpred : unitsOf (k * 2 ^ 52 + r - 1) < unitsOf (k * 2 ^ 52 + r) :=
      unitsOf_strictMono (by omega)
    have hge : unitsOf (k * 2 ^ 52 + r) * den ≤ num := by
      rw [hunits, hbottom.2]
      exact (Nat.mul_le_mul_right den (hk.resolve_left hbottom.1)).trans
        (Nat.div_mul_le_self num den)
    have hbelow : (unitsOf (k * 2 ^ 52 + r - 1) + unitsOf (k * 2 ^ 52 + r)) * den <
        2 * (unitsOf (k * 2 ^ 52 + r) * den) := by
      nlinarith
    omega
  · rcases Nat.eq_zero_or_pos r with rfl | hpos
    · obtain rfl : k = 0 := by omega
      have hzero : unitsOf 0 = 0 := rfl
      simp only [Nat.zero_mul, Nat.zero_add, Nat.zero_sub, hzero] at *
      omega
    · have hpred := unitsOf_pred_add_le (k := k) (r := r) (by omega) hr' hpos
      have hbelow : (unitsOf (k * 2 ^ 52 + r - 1) + unitsOf (k * 2 ^ 52 + r)) * den + den * 2 ^ k ≤
          2 * (unitsOf (k * 2 ^ 52 + r) * den) := by
        nlinarith
      omega

/-- The magnitude found before it is limited to infinity reads back from the quotient. -/
theorem roundsTo_unlimited (num : Nat) {den : Nat} (hden : 0 < den) :
    RoundsTo (((num / den).log2 - 52) * 2 ^ 52 +
      roundDiv num (den * 2 ^ ((num / den).log2 - 52))) num den :=
  let ⟨hk, hq⟩ := binade_bounds (num / den)
  roundsTo_of_binade hden hk hq

/-- All quotients of the interval of a finite magnitude are rounded to it. -/
theorem RoundsTo.nearestUnits_eq {m num den : Nat} (hden : 0 < den) (h : RoundsTo m num den)
    (hm : m ≤ infinityMagnitude) : nearestUnits num den = m := by
  rw [h.eq hden (roundsTo_unlimited num hden)] at hm ⊢
  exact Nat.min_eq_right hm

/-- What has no more units than a magnitude is not rounded past it. -/
theorem RoundsTo.le_of_le_units {m n num den : Nat} (hden : 0 < den) (h : RoundsTo n num den)
    (hnum : num ≤ unitsOf m * den) : n ≤ m := by
  by_contra hmn
  have hlow : unitsOf m ≤ unitsOf (n - 1) := unitsOf_strictMono.monotone (by omega)
  have hhigh : unitsOf m < unitsOf n := unitsOf_strictMono (by omega)
  have hlt : 2 * (unitsOf m * den) < (unitsOf (n - 1) + unitsOf n) * den := by
    rw [← Nat.mul_assoc]
    exact Nat.mul_lt_mul_of_pos_right (by omega) hden
  have := h.1
  omega

theorem nearestUnits_le {m num den : Nat} (hden : 0 < den) (h : num ≤ unitsOf m * den) :
    nearestUnits num den ≤ m :=
  (Nat.min_le_right _ _).trans ((roundsTo_unlimited num hden).le_of_le_units hden h)

end SensorRelay.Binary64
