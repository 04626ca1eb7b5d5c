import Mathlib.Data.List.Induction
import Mathlib.Tactic.Ring
import SensorRelay.Text.Digit

/-!
# Numerals and the digits they are written with

`decimalDigits` writes a number with digits below ten and no zero in front, and `ofDigits` reads
it back (`ofDigits_decimalDigits`). As characters, digits are found again up to the first
character that is none (`leadingDigits_map_digitChar`), and what reads as a number is written with
digits only (`exists_digits_of_readNat?`). With zeros in front a number can be written at any
width that has room for it (`length_paddedNat`), and at one width texts compare as their numbers
(`paddedNat_append_lt`).
-/

namespace SensorRelay.Text

/-! ## Values of digits -/

theorem ofDigits_concat (ds : List Nat) (d : Nat) :
    ofDigits (ds ++ [d]) = 10 * ofDigits ds + d := by
  simp [ofDigits]

theorem ofDigits_append (ds es : List Nat) :
    ofDigits (ds ++ es) = ofDigits ds * 10 ^ es.length + ofDigits es := by
  induction es using List.reverseRecOn with
  | nil => simp [ofDigits]
  | append_singleton es d ih =>
    rw [← List.append_assoc, ofDigits_concat, ofDigits_concat, ih, List.length_append,
      List.length_singleton, pow_succ]
    ring

theorem ofDigits_cons (d : Nat) (ds : List Nat) :
    ofDigits (d :: ds) = d * 10 ^ ds.length + ofDigits ds := by
  have hdigit : ofDigits [d] = d := by simp [ofDigits]
  rw [← List.singleton_append, ofDigits_append, hdigit]

@[simp] theorem ofDigits_replicate_zero (k : Nat) : ofDigits (List.replicate k 0) = 0 := by
  induction k with
  | zero => rfl
  | succ k ih => rw [List.replicate_succ', ofDigits_concat, ih]

theorem ofDigits_zeros_append (k : Nat) (ds : List Nat) :
    ofDigits (List.replicate k 0 ++ ds) = ofDigits ds := by
  rw [ofDigits_append, ofDigits_replicate_zero, Nat.zero_mul, Nat.zero_add]

theorem ofDigits_append_zeros (ds : List Nat) (k : Nat) :
    ofDigits (ds ++ List.replicate k 0) = ofDigits ds * 10 ^ k := by
  rw [ofDigits_append, ofDigits_replicate_zero, List.length_replicate, Nat.add_zero]

/-! ## Decimal digits -/

theorem decimalDigits_of_lt {n : Nat} (h : n < 10) : decimalDigits n = [n] := by
  rw [decimalDigits, if_pos h]

theorem decimalDigits_of_ge {n : Nat} (h : 10 ≤ n) :
    decimalDigits n = decimalDigits (n / 10) ++ [n % 10] := by
  rw [decimalDigits, if_neg (by omega)]

theorem ofDigits_decimalDigits (n : Nat) : ofDigits (decimalDigits n) = n := by
  induction n using decimalDigits.induct with
  | case1 n h => simp [decimalDigits_of_lt h, ofDigits]
  | case2 n h ih =>
    rw [decimalDigits_of_ge (by omega), ofDigits_concat, ih]
    omega

theorem lt_ten_of_mem_decimalDigits {n d : Nat} (h : d ∈ decimalDigits n) : d < 10 := by
  induction n using decimalDigits.induct with
  | case1 n hn =>
    rw [decimalDigits_of_lt hn, List.mem_singleton] at h
    omega
  | case2 n hn ih =>
    rw [decimalDigits_of_ge (by omega), List.mem_append, List.mem_singleton] at h
    rcases h with h | h
    · exact ih h
    · omega

theorem decimalDigits_ne_nil (n : Nat) : decimalDigits n ≠ [] := by
  rcases Nat.lt_or_ge n 10 with h | h
  · simp [decimalDigits_of_lt h]
  · simp [decimalDigits_of_ge h]

/-- No zero stands in front of a positive number. -/
theorem exists_decimalDigits_eq_cons {n : Nat} (h : 0 < n) :
    ∃ d ds, decimalDigits n = d :: ds ∧ 0 < d := by
  induction n using decimalDigits.induct with
  | case1 n hn => exact ⟨n, [], decimalDigits_of_lt hn, h⟩
  | case2 n hn ih =>
    obtain ⟨d, ds, hds, hd⟩ := ih (by omega)
    exact ⟨d, ds ++ [n % 10], by rw [decimalDigits_of_ge (by omega), hds, List.cons_append], hd⟩

theorem length_decimalDigits_le {n width : Nat} (hw : 0 < width) (h : n < 10 ^ width) :
    (decimalDigits n).length ≤ width := by
  induction n using decimalDigits.induct generalizing width with
  | case1 n hn =>
    rw [decimalDigits_of_lt hn]
    exact hw
  | case2 n hn ih =>
    obtain ⟨w, rfl⟩ : ∃ w, width = w + 1 := ⟨width - 1, by omega⟩
    rw [pow_succ] at h
    have hpos : 0 < w := by
      rcases Nat.eq_zero_or_pos w with rfl | hpos
      · omega
      · exact hpos
    have hle := ih hpos (by omega)
    rw [decimalDigits_of_ge (by omega), List.length_append, List.length_singleton]
    omega

theorem ofDigits_lt {ds : List Nat} (h : ∀ d ∈ ds, d < 10) : ofDigits ds < 10 ^ ds.length := by
  induction ds using List.reverseRecOn with
  | nil => simp [ofDigits]
  | append_singleton ds d ih =>
    have hds := ih fun e he => h e (List.mem_append_left _ he)
    have hd := h d (by simp)
    rw [ofDigits_concat, List.length_append, List.length_singleton, pow_succ]
    omega

/-! ## Digits as characters -/

theorem asciiDigit?_digitChar {d : Nat} (h : d < 10) : asciiDigit? (digitChar d) = some d := by
  have hall : ∀ d : Fin 10, asciiDigit? (digitChar d) = some d.val := by decide
  exact hall ⟨d, h⟩

theorem digitChar_lt {d e : Nat} (he : e < 10) (h : d < e) : digitChar d < digitChar e := by
  have hall : ∀ e : Fin 10, ∀ d : Fin 10, d.val < e.val → digitChar d.val < digitChar e.val := by
    decide
  exact hall ⟨e, he⟩ ⟨d, Nat.lt_trans h he⟩ h

/-- Digits are found again up to the first character that is none. -/
theorem leadingDigits_map_digitChar {ds : List Nat} (hds : ∀ d ∈ ds, d < 10) {rest : List Char}
    (hrest : leadingDigits rest = ([], rest)) :
    leadingDigits (ds.map digitChar ++ rest) = (ds, rest) := by
  induction ds with
  | nil => exact hrest
  | cons d ds ih =>
    have hnext := ih fun e he => hds e (List.mem_cons_of_mem d he)
    rw [List.map_cons, List.cons_append, leadingDigits,
      asciiDigit?_digitChar (hds d List.mem_cons_self)]
    simp only [hnext]

theorem mapM_asciiDigit? {ds : List Nat} (hds : ∀ d ∈ ds, d < 10) :
    (ds.map digitChar).mapM asciiDigit? = some ds := by
  induction ds with
  | nil => rfl
  | cons d ds ih =>
    have hnext := ih fun e he => hds e (List.mem_cons_of_mem d he)
    rw [List.map_cons, List.mapM_cons, asciiDigit?_digitChar (hds d List.mem_cons_self), hnext]
    rfl

/-- Of as many digits those of the smaller number come first. -/
theorem map_digitChar_append_lt {ds es : List Nat} (hlength : ds.length = es.length)
    (hds : ∀ d ∈ ds, d < 10) (hes : ∀ e ∈ es, e < 10) (h : ofDigits ds < ofDigits es)
    (u v : List Char) : ds.map digitChar ++ u < es.map digitChar ++ v := by
  induction ds generalizing es with
  | nil =>
    obtain rfl := List.length_eq_zero_iff.1 hlength.symm
    exact absurd h (Nat.lt_irrefl _)
  | cons d ds ih =>
    cases es with
    | nil => cases hlength
    | cons e es =>
      rw [List.forall_mem_cons] at hds hes
      have hrest : ds.length = es.length := Nat.succ.inj hlength
      rw [ofDigits_cons, ofDigits_cons, hrest] at h
      rcases Nat.lt_trichotomy d e with hlt | rfl | hgt
      · exact List.Lex.rel (digitChar_lt hes.1 hlt)
      · exact List.Lex.cons (ih hrest hds.2 hes.2 (Nat.lt_of_add_lt_add_left h))
      · have hdigits := ofDigits_lt hes.2
        have hlead := Nat.mul_le_mul_right (10 ^ es.length) hgt
        rw [Nat.succ_mul] at hlead
        omega

/-- Different numbers are written differently. -/
theorem natChars_injective : Function.Injective natChars := by
  intro m n h
  have hdigits := congrArg (fun cs => cs.mapM asciiDigit?) h
  simp only [natChars] at hdigits
  rw [mapM_asciiDigit? fun d => lt_ten_of_mem_decimalDigits,
    mapM_asciiDigit? fun d => lt_ten_of_mem_decimalDigits, Option.some.injEq] at hdigits
  rw [← ofDigits_decimalDigits m, hdigits, ofDigits_decimalDigits]

/-- A number is told up to the first space. -/
theorem natChars_append_inj {m n : Nat} {u v : List Char}
    (h : natChars m ++ ' ' :: u = natChars n ++ ' ' :: v) : m = n ∧ u = v := by
  have hread (n : Nat) (rest : List Char) :
      leadingDigits (natChars n ++ ' ' :: rest) = (decimalDigits n, ' ' :: rest) :=
    leadingDigits_map_digitChar (fun _ => lt_ten_of_mem_decimalDigits) rfl
  have hdigits := congrArg leadingDigits h
  rw [hread, hread, Prod.mk.injEq, List.cons.injEq] at hdigits
  obtain ⟨hnumber, -, hrest⟩ := hdigits
  exact ⟨by rw [← ofDigits_decimalDigits m, hnumber, ofDigits_decimalDigits], hrest⟩

theorem eq_digitChar_of_asciiDigit? {c : Char} {d : Nat} (h : asciiDigit? c = some d) :
    d < 10 ∧ c = digitChar d := by
  unfold asciiDigit? at h
  split_ifs at h with hc
  obtain rfl := Option.some.inj h
  have hlow : 48 ≤ c.toNat := hc.1
  have hhigh : c.toNat ≤ 57 := hc.2
  refine ⟨by omega, ?_⟩
  rw [digitChar, show 48 + (c.toNat - 48) % 10 = c.toNat by omega, Char.ofNat_toNat]

theorem eq_map_digitChar_of_mapM {cs : List Char} {ds : List Nat}
    (h : cs.mapM asciiDigit? = some ds) : (∀ d ∈ ds, d < 10) ∧ cs = ds.map digitChar := by
  induction cs generalizing ds with
  | nil =>
    obtain rfl := Option.some.inj h
    exact ⟨fun d hd => absurd hd List.not_mem_nil, rfl⟩
  | cons c cs ih =>
    rw [List.mapM_cons] at h
    obtain ⟨d, hd, h⟩ := Option.bind_eq_some_iff.1 h
    obtain ⟨es, hes, h⟩ := Option.bind_eq_some_iff.1 h
    obtain rfl := Option.some.inj h
    obtain ⟨hlt, hc⟩ := eq_digitChar_of_asciiDigit? hd
    obtain ⟨hall, hcs⟩ := ih hes
    exact ⟨List.forall_mem_cons.2 ⟨hlt, hall⟩, by rw [List.map_cons, ← hc, ← hcs]⟩

/-- A numeral is written with the digits of its number. -/
theorem exists_digits_of_readNat? {cs : List Char} {n : Nat} (h : readNat? cs = some n) :
    ∃ ds, ds ≠ [] ∧ (∀ d ∈ ds, d < 10) ∧ cs = ds.map digitChar ∧ ofDigits ds = n := by
  unfold readNat? at h
  split_ifs at h with hempty
  obtain ⟨ds, hds, hn⟩ := Option.map_eq_some_iff.1 h
  obtain ⟨hlt, hcs⟩ := eq_map_digitChar_of_mapM hds
  refine ⟨ds, ?_, hlt, hcs, hn⟩
  rintro rfl
  exact hempty (by rw [hcs]; rfl)

theorem groupedDigits?_map_digitChar {ds : List Nat} (hne : ds ≠ []) (hds : ∀ d ∈ ds, d < 10) :
    groupedDigits? (ds.map digitChar) = some ds := by
  induction ds with
  | nil => exact absurd rfl hne
  | cons d ds ih =>
    have hd := asciiDigit?_digitChar (hds d List.mem_cons_self)
    match ds with
    | [] =>
      rw [List.map_cons, List.map_nil, groupedDigits?, hd]
      rfl
    | e :: ds =>
      have hnext := ih (List.cons_ne_nil e ds) fun x hx => hds x (List.mem_cons_of_mem d hx)
      have he : digitChar e ≠ '_' := fun heq => by
        have hsome := asciiDigit?_digitChar (hds e (by simp))
        rw [heq] at hsome
        cases hsome
      rw [List.map_cons] at hnext
      rw [List.map_cons, List.map_cons, groupedDigits?, hd]
      simp only [if_neg he, hnext, Option.map_some]

/-! ## Numbers of a fixed width -/

/-- The digits of a number with zeros in front. -/
def paddedDigits (width n : Nat) : List Nat :=
  List.replicate (width - (decimalDigits n).length) 0 ++ decimalDigits n

theorem paddedNat_eq (width n : Nat) :
    paddedNat width n = (paddedDigits width n).map digitChar := by
  simp only [paddedNat, natChars, paddedDigits, List.length_map, List.map_append,
    List.map_replicate]
  rfl

theorem lt_ten_of_mem_paddedDigits {width n d : Nat} (h : d ∈ paddedDigits width n) : d < 10 := by
  rcases List.mem_append.1 h with h | h
  · rw [List.eq_of_mem_replicate h]
    omega
  · exact lt_ten_of_mem_decimalDigits h

theorem length_paddedNat {width n : Nat} (hw : 0 < width) (h : n < 10 ^ width) :
    (paddedNat width n).length = width := by
  have hle := length_decimalDigits_le hw h
  rw [paddedNat_eq, List.length_map, paddedDigits, List.length_append, List.length_replicate]
  omega

/-- Texts of one width are in the order of their numbers, and equal ones leave it to the rest. -/
theorem paddedNat_append_lt {width m n : Nat} (hw : 0 < width) (hm : m < 10 ^ width)
    (hn : n < 10 ^ width) {u v : List Char} (h : m < n ∨ m = n ∧ u < v) :
    paddedNat width m ++ u < paddedNat width n ++ v := by
  rcases h with hlt | ⟨rfl, htail⟩
  · have hlength := (length_paddedNat hw hm).trans (length_paddedNat hw hn).symm
    rw [paddedNat_eq, paddedNat_eq, List.length_map, List.length_map] at hlength
    rw [paddedNat_eq, paddedNat_eq]
    refine map_digitChar_append_lt hlength (fun _ => lt_ten_of_mem_paddedDigits)
      (fun _ => lt_ten_of_mem_paddedDigits) ?_ u v
    rwa [paddedDigits, paddedDigits, ofDigits_zeros_append, ofDigits_zeros_append,
      ofDigits_decimalDigits, ofDigits_decimalDigits]
  · exact List.append_left_lt htail

end SensorRelay.Text
