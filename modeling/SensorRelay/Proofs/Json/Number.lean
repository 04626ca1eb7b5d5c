import SensorRelay.Json.Parser
import SensorRelay.Json.Printer
import SensorRelay.Proofs.Number.Shortest

/-!
# Numbers in JSON

Every number that is written is read back, up to the first character that cannot go on with it
(`EndsNumber`) : integers by `number?_intChars` and finite doubles, in whichever of the four
layouts they are, by `number?_wireChars`. The three parts of a number are read one by one
(`wholePart?_digits`, `fractionPart?_pointText`, `exponentPart?_exponentText`) and put together
by `number?_numeral`.
-/

namespace SensorRelay.Json

open Text

/-- A number before this text ends there. -/
def EndsNumber : List Char → Prop
  | [] => True
  | c :: _ => asciiDigit? c = none ∧ c ≠ '.' ∧ c ≠ 'e' ∧ c ≠ 'E'

theorem leadingDigits_of_not_digit {c : Char} (h : asciiDigit? c = none) (cs : List Char) :
    leadingDigits (c :: cs) = ([], c :: cs) := by
  rw [leadingDigits, h]

theorem dropLead?_cons_self (c : Char) (cs : List Char) : dropLead? [c] (c :: cs) = some cs := by
  simp [dropLead?]

theorem dropLead?_cons_of_ne {c d : Char} (h : d ≠ c) (cs : List Char) :
    dropLead? [c] (d :: cs) = none := by
  simp [dropLead?, Ne.symm h]

theorem leadingDigits_of_ends {rest : List Char} (h : EndsNumber rest) :
    leadingDigits rest = ([], rest) := by
  cases rest with
  | nil => rfl
  | cons c cs => exact leadingDigits_of_not_digit h.1 cs

theorem fractionPart?_of_ne_point {c : Char} (h : c ≠ '.') (cs : List Char) :
    fractionPart? (c :: cs) = some ([], c :: cs) := by
  rw [fractionPart?, dropLead?_cons_of_ne h]

/-! ## The parts of a number -/

/-- The digits may stand before the point. -/
def IsWhole (ds : List Nat) : Prop :=
  ds ≠ [] ∧ (∀ d ∈ ds, d < 10) ∧ (ds.head? = some 0 → ds = [0])

theorem isWhole_decimalDigits (n : Nat) : IsWhole (decimalDigits n) := by
  refine ⟨decimalDigits_ne_nil n, fun d => lt_ten_of_mem_decimalDigits, fun h => ?_⟩
  rcases Nat.eq_zero_or_pos n with rfl | hn
  · exact decimalDigits_of_lt (by omega)
  · obtain ⟨d, ds, hds, hd⟩ := exists_decimalDigits_eq_cons hn
    rw [hds, List.head?_cons, Option.some.injEq] at h
    omega

theorem wholePart?_digits {ds : List Nat} (hds : IsWhole ds) {rest : List Char}
    (hrest : leadingDigits rest = ([], rest)) :
    wholePart? (ds.map digitChar ++ rest) = some (ds, rest) := by
  obtain ⟨hne, hlt, hzero⟩ := hds
  rw [wholePart?, leadingDigits_map_digitChar hlt hrest]
  match ds, hne, hzero with
  | [d], _, _ => cases d <;> rfl
  | 0 :: e :: ds, _, hzero => exact absurd (hzero rfl) (by simp)
  | (d + 1) :: e :: ds, _, _ => rfl

/-- The digits after the point, with the point if there are any. -/
def pointText (fraction : List Nat) : List Char :=
  if fraction.isEmpty then [] else '.' :: fraction.map digitChar

/-- The exponent, which is always written with its sign, if there is one. -/
def exponentText : Option Int → List Char
  | none => []
  | some e => 'e' :: (if e < 0 then '-' else '+') :: natChars e.natAbs

theorem leadingDigits_exponentText (e : Option Int) {rest : List Char} (hrest : EndsNumber rest) :
    leadingDigits (exponentText e ++ rest) = ([], exponentText e ++ rest) := by
  cases e with
  | none => exact leadingDigits_of_ends hrest
  | some e => exact leadingDigits_of_not_digit (by decide) _

theorem leadingDigits_pointText (ds : List Nat) (e : Option Int) {rest : List Char}
    (hrest : EndsNumber rest) :
    leadingDigits (pointText ds ++ (exponentText e ++ rest)) =
      ([], pointText ds ++ (exponentText e ++ rest)) := by
  cases ds with
  | nil => exact leadingDigits_exponentText e hrest
  | cons d ds => exact leadingDigits_of_not_digit (by decide) _

theorem fractionPart?_pointText {ds : List Nat} (hds : ∀ d ∈ ds, d < 10) (e : Option Int)
    {rest : List Char} (hrest : EndsNumber rest) :
    fractionPart? (pointText ds ++ (exponentText e ++ rest)) =
      some (ds, exponentText e ++ rest) := by
  cases ds with
  | nil =>
    cases e with
    | none =>
      cases rest with
      | nil => rfl
      | cons c cs => exact fractionPart?_of_ne_point hrest.2.1 cs
    | some e => exact fractionPart?_of_ne_point (by decide) _
  | cons d ds =>
    have hdigits := leadingDigits_map_digitChar hds (leadingDigits_exponentText e hrest)
    simp only [pointText, List.isEmpty_cons, Bool.false_eq_true, if_false, List.cons_append]
    rw [fractionPart?, dropLead?_cons_self]
    simp only [hdigits]

theorem exponentPart?_exponentText (e : Option Int) {rest : List Char} (hrest : EndsNumber rest) :
    exponentPart? (exponentText e ++ rest) = some (e, rest) := by
  cases e with
  | none =>
    cases rest with
    | nil => rfl
    | cons c cs => simp [exponentText, exponentPart?, hrest.2.2.1, hrest.2.2.2]
  | some e =>
    have hdigits := leadingDigits_map_digitChar
      (fun d => lt_ten_of_mem_decimalDigits (n := e.natAbs)) (leadingDigits_of_ends hrest)
    obtain ⟨d, ds, hds⟩ := List.exists_cons_of_ne_nil (decimalDigits_ne_nil e.natAbs)
    have hvalue := ofDigits_decimalDigits e.natAbs
    rw [← natChars] at hdigits
    rw [hds] at hdigits hvalue
    simp only [exponentText, List.cons_append]
    by_cases he : e < 0
    · simp only [exponentPart?, if_pos he, true_or, if_true, hdigits, hvalue, Option.some.injEq,
        Prod.mk.injEq, and_true]
      omega
    · simp only [exponentPart?, if_neg he, true_or, if_true, hdigits, hvalue, Bool.false_eq_true,
        if_false, Option.some.injEq, Prod.mk.injEq, and_true]
      omega

/-- A minus sign, if there is one. -/
def signChars (negative : Bool) : List Char :=
  if negative then ['-'] else []

theorem wholePart?_minus (cs : List Char) : wholePart? ('-' :: cs) = none := by
  rw [wholePart?, leadingDigits_of_not_digit (by decide)]

theorem dropLead?_signChars (negative : Bool) {cs : List Char} {r : List Nat × List Char}
    (h : wholePart? cs = some r) :
    dropLead? ['-'] (signChars negative ++ cs) = if negative then some cs else none := by
  cases negative with
  | true => exact dropLead?_cons_self '-' cs
  | false =>
    cases cs with
    | nil => rfl
    | cons c cs =>
      have hc : c ≠ '-' := by
        rintro rfl
        rw [wholePart?_minus] at h
        cases h
      exact dropLead?_cons_of_ne hc cs

/-- The three parts put together. -/
theorem number?_numeral (negative : Bool) {whole fraction : List Nat} (exponent : Option Int)
    (hwhole : IsWhole whole) (hfraction : ∀ d ∈ fraction, d < 10) {rest : List Char}
    (hrest : EndsNumber rest) :
    number? (signChars negative ++
        (whole.map digitChar ++ (pointText fraction ++ (exponentText exponent ++ rest)))) =
      some (if fraction.isEmpty ∧ exponent.isNone
        then .int (Numeral.toInt ⟨negative, whole, fraction, exponent.getD 0⟩)
        else .double (Numeral.toBinary64 ⟨negative, whole, fraction, exponent.getD 0⟩), rest) := by
  have hw := wholePart?_digits hwhole (leadingDigits_pointText fraction exponent hrest)
  have hf := fractionPart?_pointText hfraction exponent hrest
  have he := exponentPart?_exponentText exponent hrest
  rw [number?, dropLead?_signChars negative hw]
  cases negative with
  | true =>
    simp only [if_true, hw, hf, he, Option.bind_eq_bind, Option.bind_some]
    split <;> rfl
  | false =>
    simp only [Bool.false_eq_true, if_false, signChars, List.nil_append, hw, hf, he,
      Option.bind_eq_bind, Option.bind_some]
    split <;> rfl

/-! ## Integers -/

theorem intChars_eq (n : Int) : intChars n = signChars (n < 0) ++ natChars n.natAbs := by
  cases n with
  | ofNat n => simp [intChars, signChars]
  | negSucc n => simp [intChars, signChars, Int.negSucc_lt_zero]

theorem number?_intChars (n : Int) {rest : List Char} (hrest : EndsNumber rest) :
    number? (intChars n ++ rest) = some (.int n, rest) := by
  have h := @number?_numeral (n < 0) _ [] none (isWhole_decimalDigits n.natAbs) (by simp) _ hrest
  rw [intChars_eq, List.append_assoc, natChars]
  refine h.trans ?_
  simp only [List.isEmpty_nil, Option.isNone_none, and_self, if_true, Numeral.toInt,
    ofDigits_decimalDigits, decide_eq_true_eq, Option.some.injEq, Prod.mk.injEq, and_true,
    Json.int.injEq]
  split <;> omega

/-! ## Doubles -/

open Binary64

theorem toBinary64_eq {m : Nat} (negative : Bool) {whole fraction : List Nat} {exponent : Int}
    (h : ReadsBack m (ofDigits (whole ++ fraction)) (exponent - fraction.length)) (hm : 0 < m)
    (hfinite : m < infinityMagnitude) (hlt : ∀ d ∈ whole ++ fraction, d < 10) :
    Numeral.toBinary64 ⟨negative, whole, fraction, exponent⟩ = ofMagnitude negative m := by
  rw [Numeral.toBinary64]
  dsimp only
  rw [h.nearestDecimal_eq hm hfinite (ofDigits_lt hlt)]

theorem isWhole_cons {d : Nat} {ds : List Nat} (hd : 0 < d) (hlt : ∀ e ∈ d :: ds, e < 10) :
    IsWhole (d :: ds) := by
  refine ⟨List.cons_ne_nil d ds, hlt, fun h => ?_⟩
  rw [List.head?_cons, Option.some.injEq] at h
  omega

/-- A number with a point or an exponent is read as the double that its decimal reads back as. -/
theorem number?_double {m : Nat} (negative : Bool) {whole fraction : List Nat}
    {exponent : Option Int} (hwhole : IsWhole whole) (hfraction : ∀ d ∈ fraction, d < 10)
    (hdouble : fraction ≠ [] ∨ exponent ≠ none)
    (h : ReadsBack m (ofDigits (whole ++ fraction)) (exponent.getD 0 - fraction.length))
    (hm : 0 < m) (hfinite : m < infinityMagnitude) {rest : List Char} (hrest : EndsNumber rest) :
    number? (signChars negative ++
        (whole.map digitChar ++ (pointText fraction ++ (exponentText exponent ++ rest)))) =
      some (.double (ofMagnitude negative m), rest) := by
  have hall : ∀ d ∈ whole ++ fraction, d < 10 := fun d hd =>
    (List.mem_append.1 hd).elim (hwhole.2.1 d) (hfraction d)
  have hneither : ¬(fraction.isEmpty = true ∧ exponent.isNone = true) := by
    simpa [or_iff_not_imp_left] using hdouble
  rw [number?_numeral negative exponent hwhole hfraction hrest, if_neg hneither,
    toBinary64_eq negative h hm hfinite hall]

/-! ## Layouts -/

section Layouts

variable {m c : Nat} {cs : List Nat} {e : Int} {rest : List Char} (negative : Bool) (hc : 0 < c)
  (hlt : ∀ x ∈ c :: cs, x < 10) (h : ReadsBack m (ofDigits (c :: cs)) e) (hm : 0 < m)
  (hfinite : m < infinityMagnitude) (hrest : EndsNumber rest)
include hlt h hm hfinite hrest

/-- Zeros stand between the point and the digits. -/
theorem number?_zerosFirst {k : Nat} (hk : e + (cs.length + 1) = -k) :
    number? (signChars negative ++
        ('0' :: '.' :: (List.replicate k '0' ++ (c :: cs).map digitChar) ++ rest)) =
      some (.double (ofMagnitude negative m), rest) := by
  have hfraction : ∀ x ∈ List.replicate k 0 ++ c :: cs, x < 10 := by
    intro x hx
    rcases List.mem_append.1 hx with hx | hx
    · rw [List.eq_of_mem_replicate hx]
      omega
    · exact hlt x hx
  have hdigits : ofDigits ([0] ++ (List.replicate k 0 ++ c :: cs)) = ofDigits (c :: cs) := by
    rw [← ofDigits_zeros_append k (c :: cs)]
    exact ofDigits_zeros_append 1 _
  have hexp : (none : Option Int).getD 0 - (List.replicate k 0 ++ c :: cs).length = e := by
    simp only [Option.getD_none, List.length_append, List.length_replicate, List.length_cons]
    omega
  have hread := @number?_double m negative [0] (List.replicate k 0 ++ c :: cs) none
    ⟨by simp, by simp, by simp⟩ hfraction (by simp) (by rwa [hdigits, hexp]) hm hfinite rest hrest
  rw [← hread]
  simp [pointText, exponentText, digitChar]

include hc

/-- Zeros stand between the digits and the point. -/
theorem number?_zerosLast (he : 0 ≤ e) :
    number? (signChars negative ++
        ((c :: cs).map digitChar ++ List.replicate e.toNat '0' ++ ['.', '0'] ++ rest)) =
      some (.double (ofMagnitude negative m), rest) := by
  have hwhole : IsWhole (c :: (cs ++ List.replicate e.toNat 0)) := by
    refine isWhole_cons hc fun x hx => ?_
    rw [← List.cons_append] at hx
    rcases List.mem_append.1 hx with hx | hx
    · exact hlt x hx
    · rw [List.eq_of_mem_replicate hx]
      omega
  have hdigits : ofDigits (c :: (cs ++ List.replicate e.toNat 0) ++ [0]) =
      ofDigits (c :: cs) * 10 ^ (e.toNat + 1) := by
    rw [← List.cons_append, List.append_assoc, ← List.replicate_succ', ofDigits_append_zeros]
  have hread := @number?_double m negative (c :: (cs ++ List.replicate e.toNat 0)) [0] none
    hwhole (by simp) (by simp) (by rw [hdigits]; exact h.shift he) hm hfinite rest hrest
  rw [← hread]
  simp [pointText, exponentText, digitChar]

/-- The point stands among the digits. -/
theorem number?_pointInside {k : Nat} (hk : e + (cs.length + 1) = (k + 1 : Nat)) (he : e < 0) :
    number? (signChars negative ++ (((c :: cs).map digitChar).take (k + 1) ++
        '.' :: ((c :: cs).map digitChar).drop (k + 1) ++ rest)) =
      some (.double (ofMagnitude negative m), rest) := by
  have hsplit : (c :: cs.take k) ++ cs.drop k = c :: cs := by
    rw [List.cons_append, List.take_append_drop]
  have hne : cs.drop k ≠ [] := by
    rw [ne_eq, List.drop_eq_nil_iff]
    omega
  have hexp : (none : Option Int).getD 0 - (cs.drop k).length = e := by
    simp only [Option.getD_none, List.length_drop]
    omega
  have hread := @number?_double m negative (c :: cs.take k) (cs.drop k) none
    (isWhole_cons hc fun x hx => hlt x (hsplit ▸ List.mem_append_left _ hx))
    (fun x hx => hlt x (hsplit ▸ List.mem_append_right _ hx)) (Or.inl hne)
    (by rwa [hsplit, hexp]) hm hfinite rest hrest
  rw [← hread]
  simp [pointText, exponentText, List.isEmpty_eq_false_iff.2 hne, List.map_take, List.map_drop]

/-- An exponent follows. -/
theorem number?_scientific {k : Int} (hk : e + cs.length = k) :
    number? (signChars negative ++ ((match (c :: cs).map digitChar with
          | [] => []
          | [c] => [c]
          | c :: cs => c :: '.' :: cs) ++
        'e' :: (if k < 0 then '-' else '+') :: natChars k.natAbs ++ rest)) =
      some (.double (ofMagnitude negative m), rest) := by
  have hexp : (some k).getD 0 - (cs.length : Int) = e := by
    simp only [Option.getD_some]
    omega
  have hread := @number?_double m negative [c] cs (some k)
    (isWhole_cons hc fun x hx => hlt x (by simp_all)) (fun x hx => hlt x (by simp [hx])) (by simp)
    (by rwa [List.singleton_append, hexp]) hm hfinite rest hrest
  rw [← hread]
  cases cs <;> simp [pointText, exponentText]

end Layouts

/-- Whatever its layout, a decimal that reads back is read as the magnitude. -/
theorem number?_layout {m d : Nat} {e : Int} (h : ReadsBack m d e) (negative : Bool) (hm : 0 < m)
    (hfinite : m < infinityMagnitude) {rest : List Char} (hrest : EndsNumber rest) :
    number? (signChars negative ++ (layout d e ++ rest)) =
      some (.double (ofMagnitude negative m), rest) := by
  obtain ⟨c, cs, hds, hc⟩ := exists_decimalDigits_eq_cons (h.digits_pos hm)
  have hlt : ∀ x ∈ c :: cs, x < 10 := fun x hx => lt_ten_of_mem_decimalDigits (hds ▸ hx)
  have hread : ReadsBack m (ofDigits (c :: cs)) e := by rwa [← hds, ofDigits_decimalDigits]
  have hlength : ((c :: cs).map digitChar).length = cs.length + 1 := by simp
  unfold layout
  simp only [natChars, hds, hlength]
  split
  · split
    · exact number?_zerosFirst negative hlt hread hm hfinite hrest (by omega)
    · split
      · exact number?_zerosLast negative hc hlt hread hm hfinite hrest ‹_›
      · obtain ⟨k, hk⟩ : ∃ k, ((cs.length + 1 : Nat) + e : Int).toNat = k + 1 :=
          ⟨((cs.length + 1 : Nat) + e : Int).toNat - 1, by omega⟩
        rw [hk]
        exact number?_pointInside negative hc hlt hread hm hfinite hrest (by omega) (by omega)
  · exact number?_scientific negative hc hlt hread hm hfinite hrest (by omega)

/-! ## Finite doubles -/

theorem ofMagnitude_magnitude (x : Binary64) : ofMagnitude x.negative x.magnitude = x := by
  have hbits : x.bits.toNat < 2 ^ 64 := x.bits.toNat_lt
  have hsum : x.magnitude + (if x.negative then Nat.pow 2 63 else 0) = x.bits.toNat := by
    simp only [magnitude, negative, Nat.pow_eq, decide_eq_true_eq]
    split <;> omega
  rw [ofMagnitude, hsum, UInt64.ofNat_toNat]

theorem wireChars_eq (x : Binary64) : x.wireChars = signChars x.negative ++
    if x.magnitude = 0 then ['0', '.', '0']
    else layout (shortest x.magnitude).1 (shortest x.magnitude).2 := by
  unfold wireChars signChars
  by_cases h : x.magnitude = 0 <;> simp [h]

theorem number?_zero (negative : Bool) {rest : List Char} (hrest : EndsNumber rest) :
    number? (signChars negative ++ (['0', '.', '0'] ++ rest)) =
      some (.double (ofMagnitude negative 0), rest) := by
  have hread := @number?_numeral negative [0] [0] none ⟨by simp, by simp, by simp⟩ (by simp)
    rest hrest
  have hvalue : Numeral.toBinary64 ⟨negative, [0], [0], 0⟩ = ofMagnitude negative 0 := rfl
  simpa [pointText, exponentText, digitChar, hvalue] using hread

/-- A finite double is read back with all its bits. -/
theorem number?_wireChars {x : Binary64} (hx : x.isFinite) {rest : List Char}
    (hrest : EndsNumber rest) : number? (x.wireChars ++ rest) = some (.double x, rest) := by
  have hfinite : x.magnitude < infinityMagnitude := of_decide_eq_true hx
  have hbits := ofMagnitude_magnitude x
  rw [wireChars_eq, List.append_assoc]
  split
  · rename_i hzero
    rw [hzero] at hbits
    rw [number?_zero x.negative hrest, hbits]
  · rename_i hzero
    have hm : 0 < x.magnitude := Nat.pos_of_ne_zero hzero
    rw [number?_layout (readsBack_shortest hm) x.negative hm hfinite hrest, hbits]

end SensorRelay.Json
