import Mathlib.Data.List.TakeWhile
import SensorRelay.Proofs.Text.Encoding

/-!
# Texts with percent escapes

To resolve the escapes of a text never makes it longer, and leaves it as it is exactly when it
holds none (`percentDecode_eq_self_iff`) : an escape takes three characters and gives one byte,
of which at most one character comes, whether or not the bytes are those of a text.

Bytes that go on with a character are told from those that begin one (`goesOn`), and the bytes of
each character are one that begins it and some that go on with it (`CharBytes`). So the reading
of a byte never takes a part of a character that stands in the text itself : what it takes are
bytes of escapes (`exists_drop_resolved`).
-/

namespace SensorRelay.Text

/-! ## The bytes of a character -/

/-- Does the byte go on with a character? -/
def goesOn (b : UInt8) : Bool := 0x80 ≤ b && b ≤ 0xBF

theorem ofNat_le_ofNat {m n : Nat} (hm : m < 256) (hn : n < 256) :
    UInt8.ofNat m ≤ UInt8.ofNat n ↔ m ≤ n := by
  rw [UInt8.le_iff_toNat_le, UInt8.toNat_ofNat', UInt8.toNat_ofNat', Nat.mod_eq_of_lt hm,
    Nat.mod_eq_of_lt hn]

theorem goesOn_ofNat {n : Nat} (hn : n < 256) :
    goesOn (UInt8.ofNat n) = (decide (0x80 ≤ n) && decide (n ≤ 0xBF)) := by
  have hlow : 0x80 ≤ UInt8.ofNat n ↔ 0x80 ≤ n := ofNat_le_ofNat (by decide) hn
  have hhigh : UInt8.ofNat n ≤ 0xBF ↔ n ≤ 0xBF := ofNat_le_ofNat hn (by decide)
  simp only [goesOn, hlow, hhigh]

theorem followers_ofNat {n : Nat} (hn : n < 256) :
    followers (UInt8.ofNat n) =
      if n < 0xC2 then (0, 0, 0)
      else if n < 0xE0 then (1, 0x80, 0xBF)
      else if n = 0xE0 then (2, 0xA0, 0xBF)
      else if n = 0xED then (2, 0x80, 0x9F)
      else if n < 0xF0 then (2, 0x80, 0xBF)
      else if n = 0xF0 then (3, 0x90, 0xBF)
      else if n < 0xF4 then (3, 0x80, 0xBF)
      else if n = 0xF4 then (3, 0x80, 0x8F)
      else (0, 0, 0) := by
  simp only [followers, UInt8.lt_iff_toNat_lt, ← UInt8.toNat_inj, UInt8.toNat_ofNat',
    Nat.mod_eq_of_lt hn]
  rfl

/-- The bytes of a character : one that begins it, and those that go on with it. -/
structure CharBytes (c : Char) (lead : UInt8) (more : Bytes) : Prop where
  eq : String.utf8EncodeChar c = lead :: more
  begins : goesOn lead = false
  goOn : ∀ b ∈ more, goesOn b
  run : ∀ rest, validRun lead (more ++ rest) = more.length
  ascii : (more = [] ∧ Char.ofNat lead.toNat = c) ∨ (0x80 ≤ lead.toNat ∧ 0x80 ≤ c.toNat)

theorem validRun_of_followers {lead b low high : UInt8} {more : Bytes}
    (h : followers lead = (more.length + 1, low, high)) (hlow : low ≤ b) (hhigh : b ≤ high)
    (hmore : ∀ x ∈ more, goesOn x) (rest : Bytes) :
    validRun lead (b :: more ++ rest) = (b :: more).length := by
  have htake : (b :: more ++ rest).take (more.length + 1) = b :: more :=
    List.take_left' (List.length_cons ..)
  have hwhile : more.takeWhile (fun x => 0x80 ≤ x && x ≤ 0xBF) = more :=
    List.takeWhile_eq_self_iff.2 hmore
  simp only [validRun, h, htake, hlow, hhigh, decide_true, Bool.and_self, if_true, hwhile,
    List.length_cons, Nat.add_comm]

variable {c : Char}

/-- A character of one byte. -/
theorem charBytes_of_ascii (h : c.toNat ≤ 0x7F) : CharBytes c (UInt8.ofNat c.toNat) [] where
  eq := by
    have hcode : c.val.toNat ≤ 0x7F := h
    rw [String.utf8EncodeChar.eq_1, if_pos hcode]
    rfl
  begins := by
    rw [goesOn_ofNat (by omega)]
    simp only [Bool.and_eq_false_iff, decide_eq_false_iff_not]
    omega
  goOn := fun _ h => absurd h List.not_mem_nil
  run := fun rest => by
    have hfollowers := followers_ofNat (n := c.toNat) (by omega)
    rw [if_pos (by omega)] at hfollowers
    simp only [validRun, hfollowers, List.take_zero, List.length_nil]
  ascii := .inl ⟨rfl, by
    rw [UInt8.toNat_ofNat', Nat.mod_eq_of_lt (by omega), Char.ofNat_toNat]⟩

/-- A character of several bytes : the lead tells how many there are, and bounds the second. -/
theorem charBytes_of_followers (low high : Nat) {lead second : Nat} {more : List Nat}
    (heq : String.utf8EncodeChar c = UInt8.ofNat lead :: (second :: more).map UInt8.ofNat)
    (hfollowers : followers (UInt8.ofNat lead)
      = (more.length + 1, UInt8.ofNat low, UInt8.ofNat high))
    (hmore : ∀ n ∈ more, 0x80 ≤ n ∧ n ≤ 0xBF)
    (hbounds : 0x80 ≤ c.toNat ∧ 0xC0 ≤ lead ∧ lead < 256 ∧
      0x80 ≤ low ∧ low ≤ second ∧ second ≤ high ∧ high ≤ 0xBF) :
    CharBytes c (UInt8.ofNat lead) ((second :: more).map UInt8.ofNat) := by
  obtain ⟨hc, hlead, hlt, hlow, hsecond, hsecond', hhigh⟩ := hbounds
  have hgo : ∀ n, 0x80 ≤ n ∧ n ≤ 0xBF → goesOn (UInt8.ofNat n) := fun n hn => by
    rw [goesOn_ofNat (by omega), decide_eq_true hn.1, decide_eq_true hn.2]
    rfl
  have hrest : ∀ b ∈ more.map UInt8.ofNat, goesOn b :=
    List.forall_mem_map.2 fun n hn => hgo n (hmore n hn)
  refine ⟨heq, ?_, List.forall_mem_cons.2 ⟨hgo second (by omega), hrest⟩, ?_, .inr ⟨?_, hc⟩⟩
  · rw [goesOn_ofNat hlt, decide_eq_false (p := lead ≤ 0xBF) (by omega), Bool.and_false]
  · rw [← List.length_map UInt8.ofNat] at hfollowers
    exact validRun_of_followers hfollowers ((ofNat_le_ofNat (by omega) (by omega)).2 hsecond)
      ((ofNat_le_ofNat (by omega) (by omega)).2 hsecond') hrest
  · rw [UInt8.toNat_ofNat', Nat.mod_eq_of_lt hlt]
    omega

theorem exists_charBytes (c : Char) : ∃ lead more, CharBytes c lead more := by
  have hvalid : c.toNat < 0xD800 ∨ 0xDFFF < c.toNat ∧ c.toNat < 0x110000 := c.valid
  have heq := String.utf8EncodeChar.eq_1 c
  rw [show c.val.toNat = c.toNat from rfl] at heq
  split_ifs at heq with hone htwo hthree
  · exact ⟨_, _, charBytes_of_ascii hone⟩
  · have hf := followers_ofNat (n := c.toNat / 64 % 32 + 192) (by omega)
    have hmore : ∀ n ∈ ([] : List Nat), 0x80 ≤ n ∧ n ≤ 0xBF := fun n hn => by cases hn
    rw [if_neg (by omega), if_pos (by omega)] at hf
    exact ⟨_, _, charBytes_of_followers 0x80 0xBF heq hf hmore (by omega)⟩
  -- Of several leads the bounds keep out longer forms than needed, and codes of no characters.
  · have hf := followers_ofNat (n := c.toNat / 4096 % 16 + 224) (by omega)
    have hmore : ∀ n ∈ [c.toNat % 64 + 128], 0x80 ≤ n ∧ n ≤ 0xBF := by simp; omega
    rw [if_neg (by omega), if_neg (by omega)] at hf
    split_ifs at hf with hleast hcodes hthree
    · exact ⟨_, _, charBytes_of_followers 0xA0 0xBF heq hf hmore (by omega)⟩
    · exact ⟨_, _, charBytes_of_followers 0x80 0x9F heq hf hmore (by omega)⟩
    · exact ⟨_, _, charBytes_of_followers 0x80 0xBF heq hf hmore (by omega)⟩
    all_goals omega
  · have hf := followers_ofNat (n := c.toNat / 262144 % 8 + 240) (by omega)
    have hmore : ∀ n ∈ [c.toNat / 64 % 64 + 128, c.toNat % 64 + 128], 0x80 ≤ n ∧ n ≤ 0xBF := by
      simp; omega
    rw [if_neg (by omega), if_neg (by omega), if_neg (by omega), if_neg (by omega),
      if_neg (by omega)] at hf
    split_ifs at hf with hleast hfour hgreatest
    · exact ⟨_, _, charBytes_of_followers 0x90 0xBF heq hf hmore (by omega)⟩
    · exact ⟨_, _, charBytes_of_followers 0x80 0xBF heq hf hmore (by omega)⟩
    · exact ⟨_, _, charBytes_of_followers 0x80 0x8F heq hf hmore (by omega)⟩
    · omega

/-! ## Reading bytes as characters -/

/-- A character is read of its bytes, whatever follows them. -/
theorem utf8Lossy_append (fuel : Nat) (c : Char) (rest : Bytes) :
    utf8Lossy (fuel + 1) (String.utf8EncodeChar c ++ rest) = c :: utf8Lossy fuel rest := by
  obtain ⟨lead, more, hbytes⟩ := exists_charBytes c
  have hwhole : ofUtf8? (lead :: more) = some (String.ofList [c]) := by
    have h := ofUtf8?_utf8 (String.ofList [c])
    rwa [utf8_eq, String.toList_ofList, List.flatMap_singleton, hbytes.eq] at h
  simp only [hbytes.eq, List.cons_append, utf8Lossy, hbytes.run, List.take_left, List.drop_left,
    hwhole, String.toList_ofList, List.nil_append]

theorem utf8Lossy_flatMap {fuel : Nat} {cs : List Char} (h : cs.length ≤ fuel) :
    utf8Lossy fuel (cs.flatMap String.utf8EncodeChar) = cs := by
  induction cs generalizing fuel with
  | nil => cases fuel <;> rfl
  | cons c cs ih =>
    obtain ⟨fuel, rfl⟩ : ∃ n, fuel = n + 1 := ⟨fuel - 1, by rw [List.length_cons] at h; omega⟩
    rw [List.flatMap_cons, utf8Lossy_append, ih (Nat.le_of_succ_le_succ h)]

theorem length_le_length_flatMap (cs : List Char) :
    cs.length ≤ (cs.flatMap String.utf8EncodeChar).length := by
  induction cs with
  | nil => exact Nat.le_refl _
  | cons c cs ih =>
    have hpos : 0 < (String.utf8EncodeChar c).length :=
      List.length_pos_of_ne_nil String.utf8EncodeChar_ne_nil
    rw [List.flatMap_cons, List.length_append, List.length_cons]
    omega

theorem ofUtf8Lossy_utf8 (s : String) : ofUtf8Lossy (utf8 s) = s := by
  rw [ofUtf8Lossy, utf8_eq, utf8Lossy_flatMap (length_le_length_flatMap _), String.ofList_toList]

theorem utf8_of_ofUtf8? {bytes : Bytes} {s : String} (h : ofUtf8? bytes = some s) :
    utf8 s = bytes := by
  unfold ofUtf8? String.fromUTF8? at h
  split at h
  · obtain rfl := Option.some.inj h
    rw [utf8, String.toUTF8_eq_toByteArray, toList_eq_toList_data]
    rfl
  · cases h

/-- Of one byte and such that go on no more than one character is read. -/
theorem length_le_one_of_ofUtf8? {lead : UInt8} {conts : Bytes} {s : String}
    (hconts : ∀ b ∈ conts, goesOn b) (h : ofUtf8? (lead :: conts) = some s) :
    s.toList.length ≤ 1 := by
  have hbytes := utf8_of_ofUtf8? h
  rw [utf8_eq] at hbytes
  match hs : s.toList with
  | [] => exact Nat.zero_le _
  | [_] => exact Nat.le_refl _
  | c :: d :: cs =>
    obtain ⟨_, more, hc⟩ := exists_charBytes c
    obtain ⟨next, _, hd⟩ := exists_charBytes d
    rw [hs, List.flatMap_cons, List.flatMap_cons, hc.eq, hd.eq] at hbytes
    have hnext : next ∈ conts := by
      rw [← (List.cons.inj hbytes).2]
      exact List.mem_append_right _ List.mem_cons_self
    exact absurd (hconts next hnext) (by rw [hd.begins]; exact Bool.false_ne_true)

theorem followers_bounds (lead : UInt8) :
    (followers lead).1 = 0 ∨ 0x80 ≤ (followers lead).2.1 ∧ (followers lead).2.2 ≤ 0xBF := by
  unfold followers
  split_ifs <;> decide

/-- A lead byte takes nothing, or the next byte, if that is within the bounds of the lead, and of
those behind it as many as go on. -/
theorem take_validRun (lead : UInt8) (bs : Bytes) :
    bs.take (validRun lead bs) = [] ∨
      ∃ first more, bs.take (followers lead).1 = first :: more ∧
        (followers lead).2.1 ≤ first ∧ first ≤ (followers lead).2.2 ∧
        bs.take (validRun lead bs) = first :: more.takeWhile goesOn := by
  match htake : bs.take (followers lead).1 with
  | [] => exact .inl (by simp only [validRun, htake, List.take_zero])
  | first :: more =>
    have hbs : bs = first :: more.takeWhile goesOn
        ++ (more.dropWhile goesOn ++ bs.drop (followers lead).1) := by
      rw [List.cons_append, ← List.append_assoc, List.takeWhile_append_dropWhile,
        ← List.cons_append, ← htake, List.take_append_drop]
    simp only [validRun, htake]
    split_ifs with hfirst
    · rw [Bool.and_eq_true, decide_eq_true_eq, decide_eq_true_eq] at hfirst
      refine .inr ⟨first, more, rfl, hfirst.1, hfirst.2, ?_⟩
      conv_lhs => rw [hbs]
      exact List.take_left' (by rw [List.length_cons, Nat.add_comm]; rfl)
    · exact .inl List.take_zero

/-- A lead byte takes none but bytes that go on. -/
theorem goesOn_of_mem_take {lead b : UInt8} {bs : Bytes} (h : b ∈ bs.take (validRun lead bs)) :
    goesOn b := by
  rcases take_validRun lead bs with hnone | ⟨first, more, htake, hlow, hhigh, htaken⟩
  · rw [hnone] at h
    cases h
  · rw [htaken] at h
    rcases List.mem_cons.1 h with rfl | hmem
    · rcases followers_bounds lead with hcount | ⟨hlow', hhigh'⟩
      · rw [hcount, List.take_zero] at htake
        cases htake
      · rw [goesOn, Bool.and_eq_true, decide_eq_true_eq, decide_eq_true_eq]
        exact ⟨UInt8.le_trans hlow' hlow, UInt8.le_trans hhigh hhigh'⟩
    · exact List.mem_takeWhile_imp hmem

theorem length_utf8Lossy_cons (fuel : Nat) (lead : UInt8) (bs : Bytes) :
    ∃ n, (∀ b ∈ bs.take n, goesOn b) ∧
      (utf8Lossy (fuel + 1) (lead :: bs)).length ≤ 1 + (utf8Lossy fuel (bs.drop n)).length := by
  refine ⟨validRun lead bs, fun b => goesOn_of_mem_take, ?_⟩
  simp only [utf8Lossy]
  cases hread : ofUtf8? (lead :: bs.take (validRun lead bs)) with
  | none => simp only [List.length_cons]; omega
  | some s =>
    have hone := length_le_one_of_ofUtf8? (fun b => goesOn_of_mem_take) hread
    simp only [List.length_append]
    omega

/-! ## Escapes -/

/-- The byte of the escape that a text starts with, and what follows it. -/
def escape? : List Char → Option (UInt8 × List Char)
  | '%' :: h :: l :: rest =>
    match hexValue? h, hexValue? l with
    | some hi, some lo => some (UInt8.ofNat (16 * hi + lo), rest)
    | _, _ => none
  | _ => none

/-- Does an escape stand somewhere in the text? -/
def holdsEscape : List Char → Bool
  | [] => false
  | c :: cs => (escape? (c :: cs)).isSome || holdsEscape cs

/-- The bytes of a text with its escapes resolved. -/
def resolvedBytes (cs : List Char) : Bytes :=
  percentDecodeBytes (cs.flatMap String.utf8EncodeChar)

theorem percentDecodeBytes_cons {a : UInt8} {bs : Bytes}
    (h : a = 0x25 → ∀ b c rest, bs = b :: c :: rest →
      hexValue? (Char.ofNat b.toNat) = none ∨ hexValue? (Char.ofNat c.toNat) = none) :
    percentDecodeBytes (a :: bs) = a :: percentDecodeBytes bs := by
  match bs with
  | [] => rfl
  | [_] => rfl
  | b :: c :: rest =>
    rw [percentDecodeBytes]
    split
    · next hhi hlo =>
      split_ifs with ha
      · rcases h ha b c rest rfl with hb | hc
        · rw [hb] at hhi; cases hhi
        · rw [hc] at hlo; cases hlo
      · rfl
    · rfl

theorem percentDecodeBytes_append {xs : Bytes} (h : ∀ b ∈ xs, b ≠ 0x25) (bs : Bytes) :
    percentDecodeBytes (xs ++ bs) = xs ++ percentDecodeBytes bs := by
  induction xs with
  | nil => rfl
  | cons x xs ih =>
    have hx : x ≠ 0x25 := h x List.mem_cons_self
    rw [List.cons_append, percentDecodeBytes_cons fun heq => absurd heq hx,
      ih fun b hb => h b (List.mem_cons_of_mem x hb), List.cons_append]

theorem hexValue?_of_le {c : Char} (h : 0x80 ≤ c.toNat) : hexValue? c = none := by
  have hbeyond : ∀ d : Char, d.toNat < 0x80 → ¬c ≤ d := fun d hd hle => by
    have hcodes : c.toNat ≤ d.toNat := hle
    omega
  rw [hexValue?, if_neg fun hc => hbeyond '9' (by decide) hc.2,
    if_neg fun hc => hbeyond 'f' (by decide) hc.2, if_neg fun hc => hbeyond 'F' (by decide) hc.2]

theorem CharBytes.hexValue?_lead {lead : UInt8} {more : Bytes} (h : CharBytes c lead more) :
    hexValue? (Char.ofNat lead.toNat) = hexValue? c := by
  rcases h.ascii with ⟨-, hc⟩ | ⟨hlead, hc⟩
  · rw [hc]
  · have hcode : (Char.ofNat lead.toNat).toNat = lead.toNat := by
      have hvalid : lead.toNat.isValidChar := .inl (Nat.lt_trans lead.toNat_lt (by decide))
      rw [Char.ofNat, dif_pos hvalid]
      rfl
    rw [hexValue?_of_le hc, hexValue?_of_le (by rw [hcode]; exact hlead)]

theorem CharBytes.more_eq_nil {lead : UInt8} {more : Bytes} (h : CharBytes c lead more)
    (hc : hexValue? c ≠ none) : more = [] := by
  rcases h.ascii with ⟨hmore, -⟩ | ⟨-, hle⟩
  · exact hmore
  · exact absurd (hexValue?_of_le hle) hc

theorem CharBytes.ne_percent {lead : UInt8} {more : Bytes} (h : CharBytes c lead more)
    (hc : c ≠ '%') : ∀ b ∈ lead :: more, b ≠ 0x25 := by
  refine List.forall_mem_cons.2 ⟨?_, fun b hb => ?_⟩
  · rintro rfl
    rcases h.ascii with ⟨-, heq⟩ | ⟨hle, -⟩
    · exact hc heq.symm
    · exact absurd hle (by decide)
  · rintro rfl
    exact absurd (h.goOn _ hb) (by decide)

theorem escape?_eq_some {cs rest : List Char} {b : UInt8} (h : escape? cs = some (b, rest)) :
    ∃ x y hi lo, cs = '%' :: x :: y :: rest ∧ hexValue? x = some hi ∧ hexValue? y = some lo ∧
      b = UInt8.ofNat (16 * hi + lo) := by
  unfold escape? at h
  split at h
  · next x y more =>
    split at h
    · next hi lo hhi hlo =>
      cases h
      exact ⟨x, y, hi, lo, rfl, hhi, hlo, rfl⟩
    · cases h
  · cases h

theorem length_of_escape? {cs rest : List Char} {b : UInt8} (h : escape? cs = some (b, rest)) :
    cs.length = rest.length + 3 := by
  obtain ⟨x, y, -, -, rfl, -⟩ := escape?_eq_some h
  rfl

theorem resolvedBytes_of_escape {cs rest : List Char} {b : UInt8}
    (h : escape? cs = some (b, rest)) : resolvedBytes cs = b :: resolvedBytes rest := by
  obtain ⟨x, y, hi, lo, rfl, hx, hy, rfl⟩ := escape?_eq_some h
  obtain ⟨a, more, ha⟩ := exists_charBytes x
  obtain ⟨b, more', hb⟩ := exists_charBytes y
  have hmore := ha.more_eq_nil (by rw [hx]; exact Option.some_ne_none hi)
  have hmore' := hb.more_eq_nil (by rw [hy]; exact Option.some_ne_none lo)
  have hhi := ha.hexValue?_lead.trans hx
  have hlo := hb.hexValue?_lead.trans hy
  have hpercent : String.utf8EncodeChar '%' = [0x25] := rfl
  simp only [resolvedBytes, List.flatMap_cons, hpercent, ha.eq, hb.eq, hmore, hmore',
    List.cons_append, List.nil_append, percentDecodeBytes, hhi, hlo, if_true]

/-- A byte that reads as a digit is a character of the text. -/
theorem exists_cons_of_flatMap {cs : List Char} {b : UInt8} {rest : Bytes}
    (h : cs.flatMap String.utf8EncodeChar = b :: rest)
    (hb : hexValue? (Char.ofNat b.toNat) ≠ none) :
    ∃ x more, cs = x :: more ∧ hexValue? x = hexValue? (Char.ofNat b.toNat) ∧
      more.flatMap String.utf8EncodeChar = rest := by
  match cs with
  | [] => cases h
  | x :: more =>
    obtain ⟨lead, tail, hx⟩ := exists_charBytes x
    rw [List.flatMap_cons, hx.eq, List.cons_append] at h
    obtain ⟨rfl, hrest⟩ := List.cons.inj h
    rw [hx.hexValue?_lead] at hb
    rw [hx.more_eq_nil hb, List.nil_append] at hrest
    exact ⟨x, more, rfl, hx.hexValue?_lead.symm, hrest⟩

theorem resolvedBytes_cons {cs : List Char} (h : escape? (c :: cs) = none) :
    resolvedBytes (c :: cs) = String.utf8EncodeChar c ++ resolvedBytes cs := by
  rw [resolvedBytes, List.flatMap_cons]
  by_cases hc : c = '%'
  · subst hc
    refine percentDecodeBytes_cons fun _ a b rest hbytes => ?_
    by_contra! hdigits
    obtain ⟨x, xs, rfl, hx, hxs⟩ := exists_cons_of_flatMap hbytes hdigits.1
    obtain ⟨y, ys, rfl, hy, -⟩ := exists_cons_of_flatMap hxs hdigits.2
    rw [← hx, ← hy, Option.ne_none_iff_exists', Option.ne_none_iff_exists'] at hdigits
    obtain ⟨⟨hi, hhi⟩, lo, hlo⟩ := hdigits
    simp only [escape?, hhi, hlo, reduceCtorEq] at h
  · obtain ⟨lead, more, hbytes⟩ := exists_charBytes c
    exact percentDecodeBytes_append (by rw [hbytes.eq]; exact hbytes.ne_percent hc) _

/-- What goes on at the front of a text with its escapes resolved comes of escapes. -/
theorem exists_drop_resolved {n : Nat} {cs : List Char}
    (h : ∀ b ∈ (resolvedBytes cs).take n, goesOn b) :
    ∃ rest, (resolvedBytes cs).drop n = resolvedBytes rest ∧ rest.length ≤ cs.length := by
  induction n generalizing cs with
  | zero => exact ⟨cs, rfl, Nat.le_refl _⟩
  | succ n ih =>
    match cs with
    | [] => exact ⟨[], rfl, Nat.le_refl _⟩
    | c :: cs =>
      match hescape : escape? (c :: cs) with
      | some (b, rest) =>
        have hlength := length_of_escape? hescape
        rw [resolvedBytes_of_escape hescape] at h ⊢
        obtain ⟨rest', hrest, hle⟩ := ih fun b hb => h b (List.mem_cons_of_mem _ hb)
        exact ⟨rest', hrest, by omega⟩
      | none =>
        obtain ⟨lead, more, hbytes⟩ := exists_charBytes c
        rw [resolvedBytes_cons hescape, hbytes.eq] at h
        have hlead := h lead List.mem_cons_self
        rw [hbytes.begins] at hlead
        cases hlead

/-- Each escape takes up more characters than are read of its byte. -/
theorem length_utf8Lossy_resolvedBytes (fuel : Nat) (cs : List Char) :
    (utf8Lossy fuel (resolvedBytes cs)).length + (holdsEscape cs).toNat ≤ cs.length := by
  -- On the reading : behind the byte of an escape it goes on with the rest of the text, or with
  -- less of it when bytes of further escapes are taken for the same character.
  induction fuel generalizing cs with
  | zero =>
    match cs with
    | [] => exact Nat.le_refl _
    | c :: cs =>
      have hone := Bool.toNat_le (holdsEscape (c :: cs))
      rw [utf8Lossy, List.length_nil, List.length_cons]
      omega
  | succ fuel ih =>
    match cs with
    | [] => exact Nat.le_refl _
    | c :: cs =>
      match hescape : escape? (c :: cs) with
      | some (b, rest) =>
        have hlength := length_of_escape? hescape
        obtain ⟨n, hgo, hle⟩ := length_utf8Lossy_cons fuel b (resolvedBytes rest)
        obtain ⟨rest', hrest, hshort⟩ := exists_drop_resolved hgo
        have hone := Bool.toNat_le (holdsEscape (c :: cs))
        have hih := ih rest'
        rw [hrest] at hle
        rw [resolvedBytes_of_escape hescape]
        omega
      | none =>
        have hsame : holdsEscape (c :: cs) = holdsEscape cs := by
          rw [holdsEscape, hescape]
          rfl
        have hih := ih cs
        rw [resolvedBytes_cons hescape, utf8Lossy_append, hsame, List.length_cons,
          List.length_cons]
        omega

theorem resolvedBytes_of_not_holdsEscape {cs : List Char} (h : holdsEscape cs = false) :
    resolvedBytes cs = cs.flatMap String.utf8EncodeChar := by
  induction cs with
  | nil => rfl
  | cons c cs ih =>
    rw [holdsEscape, Bool.or_eq_false_iff, Option.isSome_eq_false_iff, Option.isNone_iff_eq_none]
      at h
    rw [resolvedBytes_cons h.1, ih h.2, List.flatMap_cons]

/-! ## Resolving escapes -/

theorem percentDecode_eq (s : String) :
    percentDecode s =
      String.ofList (utf8Lossy (resolvedBytes s.toList).length (resolvedBytes s.toList)) := by
  rw [percentDecode, ofUtf8Lossy, utf8_eq, resolvedBytes]

/-- Resolving the escapes makes no text longer, and one that holds an escape shorter. -/
theorem length_percentDecode (s : String) :
    (percentDecode s).length + (holdsEscape s.toList).toNat ≤ s.length := by
  rw [percentDecode_eq, String.length_ofList, ← String.length_toList]
  exact length_utf8Lossy_resolvedBytes _ _

theorem length_le_of_percentDecode {cs : List Char} {s : String}
    (h : percentDecode (String.ofList cs) = s) : s.toList.length ≤ cs.length := by
  have hle := length_percentDecode (String.ofList cs)
  rw [h, String.length_ofList, ← String.length_toList] at hle
  omega

/-- Exactly the texts that hold no escape stand for themselves. -/
theorem percentDecode_eq_self_iff {s : String} :
    percentDecode s = s ↔ holdsEscape s.toList = false := by
  constructor
  · intro h
    have hle := length_percentDecode s
    rw [h] at hle
    exact Bool.toNat_eq_zero.1 (by omega)
  · intro h
    rw [percentDecode, utf8_eq]
    show ofUtf8Lossy (resolvedBytes s.toList) = s
    rw [resolvedBytes_of_not_holdsEscape h, ← utf8_eq, ofUtf8Lossy_utf8]

end SensorRelay.Text
