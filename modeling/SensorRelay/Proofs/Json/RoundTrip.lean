import SensorRelay.Proofs.Json.Number
import SensorRelay.Proofs.Text.Encoding

/-!
# JSON text reads back

`TextOf` relates a value to its texts, with spaces wherever they may stand. Reading finds the
value that a text belongs to, up to the end of the text (`value?_of_text`), and what is written
is a text of the value, be it without spaces (`textOf_compactChars`) or with one item to a line
(`textOf_indentedChars`). A document that has settled numbers and is not nested too deeply is
therefore read as what was written (`document?_compact`, `document?_indented`).
-/

namespace SensorRelay.Json

open Text

/-! ## Strings -/

theorem hexNumber?_hexChars {n : Nat} (h : n < 32) : hexNumber? (hexChars 4 n) = some n := by
  have hall : ∀ n : Fin 32, hexNumber? (hexChars 4 n) = some n.val := by decide +kernel
  exact hall ⟨n, h⟩

theorem exists_hexChars_four (n : Nat) : ∃ a b c d, hexChars 4 n = [a, b, c, d] :=
  ⟨_, _, _, _, rfl⟩

theorem stringBody?_quote (rest : List Char) :
    stringBody? none ('"' :: rest) = some ([], rest) := by
  rw [stringBody?.eq_def]
  rfl

theorem stringBody?_plain {c : Char} (hquote : c ≠ '"') (hslash : c ≠ '\\')
    (hspace : 0x20 ≤ c.toNat) (rest : List Char) :
    stringBody? none (c :: rest) = consText c (stringBody? none rest) := by
  have hlow : ¬c.toNat < 0x20 := by omega
  rw [stringBody?.eq_def]
  simp [hquote, hslash, hlow]

theorem stringBody?_escape {e c : Char} (he : e ≠ 'u') (hc : escaped? e = some c)
    (rest : List Char) :
    stringBody? none ('\\' :: e :: rest) = consText c (stringBody? none rest) := by
  rw [stringBody?.eq_def]
  simp [he, hc]

theorem stringBody?_unit {n : Nat} (h : n < 32) (rest : List Char) :
    stringBody? none ('\\' :: 'u' :: (hexChars 4 n ++ rest)) =
      consText (Char.ofNat n) (stringBody? none rest) := by
  have hnumber := hexNumber?_hexChars h
  obtain ⟨x, y, z, w, hhex⟩ := exists_hexChars_four n
  have hhigh : isHighUnit n = false := by simp [isHighUnit]; omega
  have hlow : isLowUnit n = false := by simp [isLowUnit]; omega
  rw [hhex] at hnumber ⊢
  rw [stringBody?.eq_def]
  simp [hnumber, hhigh, hlow]

/-- Whatever is written for a character is read as the character. -/
theorem stringBody?_stringChar (c : Char) (rest : List Char) :
    stringBody? none (stringChar c ++ rest) = consText c (stringBody? none rest) := by
  unfold stringChar
  split
  · rename_i h
    subst h
    exact stringBody?_escape (by decide) (by decide) rest
  split
  · rename_i h
    subst h
    exact stringBody?_escape (by decide) (by decide) rest
  split
  · exact stringBody?_plain ‹_› ‹_› ‹_› rest
  split
  · rename_i h
    subst h
    exact stringBody?_escape (by decide) (by decide) rest
  split
  · rename_i h
    subst h
    exact stringBody?_escape (by decide) (by decide) rest
  split
  · rename_i h
    subst h
    exact stringBody?_escape (by decide) (by decide) rest
  split
  · rename_i h
    subst h
    exact stringBody?_escape (by decide) (by decide) rest
  split
  · rename_i h
    subst h
    exact stringBody?_escape (by decide) (by decide) rest
  · rename_i hspace _ _ _ _ _
    have hunit := stringBody?_unit (n := c.toNat) (by omega) rest
    rwa [Char.ofNat_toNat] at hunit

theorem stringBody?_flatMap (cs rest : List Char) :
    stringBody? none (cs.flatMap stringChar ++ '"' :: rest) = some (cs, rest) := by
  induction cs with
  | nil => exact stringBody?_quote rest
  | cons c cs ih =>
    rw [List.flatMap_cons, List.append_assoc, stringBody?_stringChar, ih]
    rfl

/-! ## Spaces -/

/-- Only spaces. -/
def Spaces (cs : List Char) : Prop :=
  ∀ c ∈ cs, isSpace c = true

theorem skipSpace_append {before : List Char} (h : Spaces before) (cs : List Char) :
    skipSpace (before ++ cs) = skipSpace cs := by
  induction before with
  | nil => rfl
  | cons c before ih =>
    have hc := h c List.mem_cons_self
    have hnext := ih fun d hd => h d (List.mem_cons_of_mem c hd)
    rw [skipSpace] at hnext ⊢
    rw [List.cons_append, List.dropWhile_cons_of_pos hc, hnext]

theorem skipSpace_cons {c : Char} (h : isSpace c = false) (cs : List Char) :
    skipSpace (c :: cs) = c :: cs := by
  rw [skipSpace, List.dropWhile_cons_of_neg (by simp [h])]

theorem skipTo?_self {before : List Char} (h : Spaces before) {c : Char} (hc : isSpace c = false)
    (cs : List Char) : skipTo? c (before ++ c :: cs) = some cs := by
  rw [skipTo?, skipSpace_append h, skipSpace_cons hc]
  simp

theorem skipTo?_ne {before : List Char} (h : Spaces before) {c d : Char} (hd : isSpace d = false)
    (hne : d ≠ c) (cs : List Char) : skipTo? c (before ++ d :: cs) = none := by
  rw [skipTo?, skipSpace_append h, skipSpace_cons hd]
  simp [hne]

/-- Spaces end a number, and so does what may follow an item. -/
theorem endsNumber_spaces {after : List Char} (h : Spaces after) {c : Char}
    (hc : c = ',' ∨ c = ']' ∨ c = '\x7d') (cs : List Char) : EndsNumber (after ++ c :: cs) := by
  cases after with
  | nil => rcases hc with rfl | rfl | rfl <;> exact ⟨by decide, by decide, by decide, by decide⟩
  | cons d after =>
    have hd := h d List.mem_cons_self
    simp only [isSpace, Bool.or_eq_true, beq_iff_eq] at hd
    rcases hd with ((rfl | rfl) | rfl) | rfl <;>
      exact ⟨by decide, by decide, by decide, by decide⟩

/-! ## Texts of values -/

mutual

/-- The characters are a text of the value. -/
inductive TextOf : Json → List Char → Prop
  | null : TextOf .null ['n', 'u', 'l', 'l']
  | boolTrue : TextOf (.bool true) ['t', 'r', 'u', 'e']
  | boolFalse : TextOf (.bool false) ['f', 'a', 'l', 's', 'e']
  | int (n : Int) : TextOf (.int n) (intChars n)
  | double {x : Binary64} : x.isFinite → TextOf (.double x) x.wireChars
  | str (s : String) : TextOf (.str s) (stringChars s)
  | emptyArr {space : List Char} : Spaces space → TextOf (.arr []) ('[' :: (space ++ [']']))
  | arr {items : List Json} {cs : List Char} :
    ItemsText items cs → TextOf (.arr items) ('[' :: (cs ++ [']']))
  | emptyObj {space : List Char} : Spaces space → TextOf (.obj []) ('\x7b' :: (space ++ ['\x7d']))
  | obj {fields : List (String × Json)} {cs : List Char} :
    FieldsText fields cs → TextOf (.obj fields) ('\x7b' :: (cs ++ ['\x7d']))

/-- The characters are texts of the items with commas between them. -/
inductive ItemsText : List Json → List Char → Prop
  | last {j : Json} {before cs after : List Char} : Spaces before → TextOf j cs → Spaces after →
    ItemsText [j] (before ++ (cs ++ after))
  | cons {j : Json} {items : List Json} {before cs after more : List Char} :
    Spaces before → TextOf j cs → Spaces after → ItemsText items more →
    ItemsText (j :: items) (before ++ (cs ++ (after ++ ',' :: more)))

/-- The characters are names and texts of the members with commas between them. -/
inductive FieldsText : List (String × Json) → List Char → Prop
  | last {name : String} {j : Json} {before colon between cs after : List Char} :
    Spaces before → Spaces colon → Spaces between → TextOf j cs → Spaces after →
    FieldsText [(name, j)]
      (before ++ (stringChars name ++ (colon ++ ':' :: (between ++ (cs ++ after)))))
  | cons {name : String} {j : Json} {fields : List (String × Json)}
    {before colon between cs after more : List Char} :
    Spaces before → Spaces colon → Spaces between → TextOf j cs → Spaces after →
    FieldsText fields more →
    FieldsText ((name, j) :: fields)
      (before ++ (stringChars name ++
        (colon ++ ':' :: (between ++ (cs ++ (after ++ ',' :: more))))))

end

/-! ## Reading -/

/-- Does a number begin with this character? -/
def StartsNumber (c : Char) : Prop :=
  c = '-' ∨ (asciiDigit? c).isSome

theorem startsNumber_of_number? {c : Char} {cs : List Char} {r : Json × List Char}
    (h : number? (c :: cs) = some r) : StartsNumber c := by
  by_contra hc
  have hminus : c ≠ '-' := fun e => hc (Or.inl e)
  have hdigit : asciiDigit? c = none := by
    cases hd : asciiDigit? c with
    | none => rfl
    | some d => exact (hc (Or.inr (by simp [hd]))).elim
  have hwhole : wholePart? (c :: cs) = none := by
    rw [wholePart?, leadingDigits_of_not_digit hdigit]
  rw [number?, dropLead?_cons_of_ne hminus] at h
  simp [hwhole] at h

theorem StartsNumber.isSpace_eq {c : Char} (h : StartsNumber c) : isSpace c = false := by
  by_contra hspace
  simp only [isSpace, Bool.not_eq_false, Bool.or_eq_true, beq_iff_eq] at hspace
  rcases hspace with ((rfl | rfl) | rfl) | rfl <;> exact absurd h (by unfold StartsNumber; decide)

theorem value?_number {c : Char} (h : StartsNumber c) (fuel : Nat) (cs : List Char) :
    value? (fuel + 1) (c :: cs) = number? (c :: cs) := by
  rw [value?]
  · exact List.cons_ne_nil c cs
  all_goals
    intro rest heq
    obtain ⟨rfl, -⟩ := List.cons.inj heq
    exact absurd h (by unfold StartsNumber; decide)

theorem exists_cons_of_number? {cs : List Char} {r : Json × List Char} (h : number? cs = some r) :
    ∃ c tail, cs = c :: tail ∧ StartsNumber c := by
  cases cs with
  | nil => cases h
  | cons c tail => exact ⟨c, tail, rfl, startsNumber_of_number? h⟩

theorem exists_cons_intChars (n : Int) : ∃ c tail, intChars n = c :: tail ∧ StartsNumber c :=
  exists_cons_of_number? (by simpa using number?_intChars n (show EndsNumber [] from trivial))

theorem exists_cons_wireChars {x : Binary64} (hx : x.isFinite) :
    ∃ c tail, x.wireChars = c :: tail ∧ StartsNumber c :=
  exists_cons_of_number? (by simpa using number?_wireChars hx (show EndsNumber [] from trivial))

/-- A text begins with no space and does not end an array. -/
theorem TextOf.exists_cons {j : Json} {cs : List Char} (h : TextOf j cs) :
    ∃ c tail, cs = c :: tail ∧ isSpace c = false ∧ c ≠ ']' := by
  have hnumber : ∀ {c : Char}, StartsNumber c → c ≠ ']' := by
    rintro c hc rfl
    exact absurd hc (by unfold StartsNumber; decide)
  cases h with
  | int n =>
    obtain ⟨c, tail, hcs, hc⟩ := exists_cons_intChars n
    exact ⟨c, tail, hcs, hc.isSpace_eq, hnumber hc⟩
  | double hx =>
    obtain ⟨c, tail, hcs, hc⟩ := exists_cons_wireChars hx
    exact ⟨c, tail, hcs, hc.isSpace_eq, hnumber hc⟩
  | _ => exact ⟨_, _, rfl, by decide, by decide⟩

theorem skipSpace_text {before cs : List Char} {j : Json} (hbefore : Spaces before)
    (h : TextOf j cs) (rest : List Char) : skipSpace (before ++ (cs ++ rest)) = cs ++ rest := by
  obtain ⟨c, tail, rfl, hc, -⟩ := h.exists_cons
  rw [skipSpace_append hbefore, List.cons_append, skipSpace_cons hc]

/-- The items of a text do not end at once. -/
theorem ItemsText.skipTo?_eq {items : List Json} {cs : List Char} (h : ItemsText items cs)
    (rest : List Char) : skipTo? ']' (cs ++ rest) = none := by
  cases h with
  | last hbefore htext hafter =>
    obtain ⟨c, tail, rfl, hc, hne⟩ := htext.exists_cons
    rw [List.append_assoc, List.append_assoc, List.cons_append, skipTo?_ne hbefore hc hne]
  | cons hbefore htext hafter hmore =>
    obtain ⟨c, tail, rfl, hc, hne⟩ := htext.exists_cons
    rw [List.append_assoc, List.append_assoc, List.cons_append, skipTo?_ne hbefore hc hne]

/-- Nor do the members. -/
theorem FieldsText.skipTo?_eq {fields : List (String × Json)} {cs : List Char}
    (h : FieldsText fields cs) (rest : List Char) : skipTo? '\x7d' (cs ++ rest) = none := by
  cases h with
  | last hbefore =>
    simp only [stringChars, List.append_assoc, List.cons_append]
    exact skipTo?_ne hbefore (by decide) (by decide) _
  | cons hbefore =>
    simp only [stringChars, List.append_assoc, List.cons_append]
    exact skipTo?_ne hbefore (by decide) (by decide) _

theorem stringBody?_stringChars (s : String) (rest : List Char) :
    stringBody? none (s.toList.flatMap stringChar ++ ['"'] ++ rest) = some (s.toList, rest) := by
  rw [List.append_assoc]
  exact stringBody?_flatMap s.toList rest

theorem skipSpace_mark {after : List Char} (h : Spaces after) {c : Char}
    (hc : c = ',' ∨ c = ']' ∨ c = '\x7d') (cs : List Char) :
    skipSpace (after ++ c :: cs) = c :: cs := by
  rw [skipSpace_append h, skipSpace_cons]
  rcases hc with rfl | rfl | rfl <;> decide

mutual

/-- A value is read from its text. -/
theorem value?_of_text : ∀ {j : Json} {cs : List Char}, TextOf j cs → ∀ (fuel : Nat)
    (rest : List Char), cs.length ≤ fuel → EndsNumber rest →
    value? fuel (cs ++ rest) = some (j, rest)
  | _, _, .null, fuel + 1, rest, _, _ => by simp [value?, dropLead?]
  | _, _, .boolTrue, fuel + 1, rest, _, _ => by simp [value?, dropLead?]
  | _, _, .boolFalse, fuel + 1, rest, _, _ => by simp [value?, dropLead?]
  | _, _, .int n, 0, rest, hfuel, _ => by
    obtain ⟨c, tail, hcs, -⟩ := exists_cons_intChars n
    simp [hcs] at hfuel
  | _, _, .int n, fuel + 1, rest, _, hrest => by
    obtain ⟨c, tail, hcs, hc⟩ := exists_cons_intChars n
    have hnumber := number?_intChars n hrest
    rw [hcs, List.cons_append] at hnumber ⊢
    rw [value?_number hc, hnumber]
  | _, _, .double hx, 0, rest, hfuel, _ => by
    obtain ⟨c, tail, hcs, -⟩ := exists_cons_wireChars hx
    simp [hcs] at hfuel
  | _, _, .double hx, fuel + 1, rest, _, hrest => by
    obtain ⟨c, tail, hcs, hc⟩ := exists_cons_wireChars hx
    have hnumber := number?_wireChars hx hrest
    rw [hcs, List.cons_append] at hnumber ⊢
    rw [value?_number hc, hnumber]
  | _, _, .str s, fuel + 1, rest, _, _ => by
    rw [stringChars, List.cons_append, List.cons_append, value?, stringBody?_stringChars]
    simp
  | _, _, .emptyArr hspace, fuel + 1, rest, _, _ => by
    rw [List.cons_append, List.append_assoc, value?, List.singleton_append,
      skipTo?_self hspace (by decide)]
  | _, _, .arr hitems, fuel + 1, rest, hfuel, _ => by
    have hread := items?_of_text hitems fuel rest (by simp at hfuel; omega)
    rw [List.cons_append, List.append_assoc, value?, hitems.skipTo?_eq, List.singleton_append]
    simp only [hread, Option.map_some]
  | _, _, .emptyObj hspace, fuel + 1, rest, _, _ => by
    rw [List.cons_append, List.append_assoc, value?, List.singleton_append,
      skipTo?_self hspace (by decide)]
  | _, _, .obj hfields, fuel + 1, rest, hfuel, _ => by
    have hread := fields?_of_text hfields fuel rest (by simp at hfuel; omega)
    rw [List.cons_append, List.append_assoc, value?, hfields.skipTo?_eq, List.singleton_append]
    simp only [hread, Option.map_some]

/-- Items are read from their texts, up to the end of the array. -/
theorem items?_of_text : ∀ {items : List Json} {cs : List Char}, ItemsText items cs →
    ∀ (fuel : Nat) (rest : List Char), cs.length + 1 ≤ fuel →
    items? fuel (cs ++ ']' :: rest) = some (items, rest)
  | _, _, .last hbefore htext hafter, fuel + 1, rest, hfuel => by
    have hlength := hfuel
    simp only [List.length_append] at hlength
    rw [List.append_assoc, List.append_assoc, items?, skipSpace_text hbefore htext,
      value?_of_text htext fuel _ (by omega) (endsNumber_spaces hafter (.inr (.inl rfl)) _)]
    simp only [skipSpace_mark hafter (.inr (.inl rfl)) rest]
  | _, _, .cons hbefore htext hafter hmore, fuel + 1, rest, hfuel => by
    have hlength := hfuel
    simp only [List.length_append, List.length_cons] at hlength
    have hnext := items?_of_text hmore fuel rest (by omega)
    simp only [List.append_assoc, List.cons_append]
    rw [items?, skipSpace_text hbefore htext,
      value?_of_text htext fuel _ (by omega) (endsNumber_spaces hafter (.inl rfl) _)]
    simp only [skipSpace_mark hafter (.inl rfl), hnext, Option.map_some]

/-- Members are read from their texts, up to the end of the object. -/
theorem fields?_of_text : ∀ {fields : List (String × Json)} {cs : List Char},
    FieldsText fields cs → ∀ (fuel : Nat) (rest : List Char), cs.length + 1 ≤ fuel →
    fields? fuel (cs ++ '\x7d' :: rest) = some (fields, rest)
  | _, _, .last hbefore hcolon hbetween htext hafter, fuel + 1, rest, hfuel => by
    have hlength := hfuel
    simp only [List.length_append, List.length_cons] at hlength
    simp only [stringChars, List.append_assoc, List.cons_append]
    rw [fields?, skipSpace_append hbefore, skipSpace_cons (by decide)]
    simp only [stringBody?_flatMap, List.nil_append]
    rw [skipTo?_self hcolon (by decide)]
    simp only [skipSpace_text hbetween htext]
    rw [value?_of_text htext fuel _ (by omega) (endsNumber_spaces hafter (.inr (.inr rfl)) _)]
    simp only [skipSpace_mark hafter (.inr (.inr rfl)), String.ofList_toList]
  | _, _, .cons hbefore hcolon hbetween htext hafter hmore, fuel + 1, rest, hfuel => by
    have hlength := hfuel
    simp only [List.length_append, List.length_cons] at hlength
    have hnext := fields?_of_text hmore fuel rest (by omega)
    simp only [stringChars, List.append_assoc, List.cons_append]
    rw [fields?, skipSpace_append hbefore, skipSpace_cons (by decide)]
    simp only [stringBody?_flatMap, List.nil_append]
    rw [skipTo?_self hcolon (by decide)]
    simp only [skipSpace_text hbetween htext]
    rw [value?_of_text htext fuel _ (by omega) (endsNumber_spaces hafter (.inl rfl) _)]
    simp only [skipSpace_mark hafter (.inl rfl), hnext, Option.map_some, String.ofList_toList]

end

theorem skipSpace_spaces {cs : List Char} (h : Spaces cs) : skipSpace cs = [] := by
  have hskip := skipSpace_append h []
  rwa [List.append_nil] at hskip

theorem Spaces.endsNumber {cs : List Char} (h : Spaces cs) : EndsNumber cs := by
  cases cs with
  | nil => trivial
  | cons c cs =>
    have hc := h c List.mem_cons_self
    simp only [isSpace, Bool.or_eq_true, beq_iff_eq] at hc
    rcases hc with ((rfl | rfl) | rfl) | rfl <;>
      exact ⟨by decide, by decide, by decide, by decide⟩

/-- A text with spaces around it is read as its value. -/
theorem parse?_of_text {j : Json} {before cs after : List Char} (hbefore : Spaces before)
    (h : TextOf j cs) (hafter : Spaces after) : parse? (before ++ (cs ++ after)) = some j := by
  rw [parse?, skipSpace_text hbefore h,
    value?_of_text h _ after (by simp only [List.length_append]; omega) hafter.endsNumber]
  simp [skipSpace_spaces hafter]

/-! ## Settled values -/

theorem settle?_of_items {j : Json} {items : List Json}
    (h : settleItems? (j :: items) = some (j :: items)) :
    settle? j = some j ∧ settleItems? items = some items := by
  rw [settleItems?] at h
  split at h
  · rename_i hj hitems
    obtain ⟨rfl, rfl⟩ := List.cons.inj (Option.some.inj h)
    exact ⟨hj, hitems⟩
  · cases h

theorem settle?_of_fields {name : String} {j : Json} {fields : List (String × Json)}
    (h : settleFields? ((name, j) :: fields) = some ((name, j) :: fields)) :
    settle? j = some j ∧ settleFields? fields = some fields := by
  rw [settleFields?] at h
  split at h
  · rename_i hj hfields
    simp only [Option.some.injEq, List.cons.injEq, Prod.mk.injEq, true_and] at h
    obtain ⟨rfl, rfl⟩ := h
    exact ⟨hj, hfields⟩
  · cases h

theorem isFinite_of_settle? {x : Binary64} (h : settle? (.double x) = some (.double x)) :
    x.isFinite := by
  by_contra hx
  simp [settle?, hx] at h

/-! ## Writing without spaces -/

theorem spaces_nil : Spaces [] :=
  fun _ h => absurd h List.not_mem_nil

theorem ItemsText.single {j : Json} {cs : List Char} (h : TextOf j cs) : ItemsText [j] cs := by
  simpa using ItemsText.last spaces_nil h spaces_nil

theorem ItemsText.comma {j : Json} {items : List Json} {cs more : List Char} (h : TextOf j cs)
    (hmore : ItemsText items more) : ItemsText (j :: items) (cs ++ ',' :: more) :=
  ItemsText.cons spaces_nil h spaces_nil hmore

theorem FieldsText.single {name : String} {j : Json} {cs : List Char} (h : TextOf j cs) :
    FieldsText [(name, j)] (stringChars name ++ ':' :: cs) := by
  simpa using @FieldsText.last name j [] [] [] cs [] spaces_nil spaces_nil spaces_nil h spaces_nil

theorem FieldsText.comma {name : String} {j : Json} {fields : List (String × Json)}
    {cs more : List Char} (h : TextOf j cs) (hmore : FieldsText fields more) :
    FieldsText ((name, j) :: fields) (stringChars name ++ ':' :: (cs ++ ',' :: more)) :=
  FieldsText.cons spaces_nil spaces_nil spaces_nil h spaces_nil hmore

mutual

/-- What is written is a text of the value, if its doubles are finite. -/
theorem textOf_compactChars : ∀ {j : Json}, settle? j = some j → TextOf j (compactChars j)
  | .null, _ => .null
  | .bool true, _ => .boolTrue
  | .bool false, _ => .boolFalse
  | .int n, _ => .int n
  | .double x, h => by
    have hx := isFinite_of_settle? h
    simp only [compactChars, leafChars, doubleChars, if_pos hx]
    exact .double hx
  | .str s, _ => .str s
  | .arr [], _ => .emptyArr spaces_nil
  | .arr (j :: items), h =>
    .arr (itemsText_compactItems (List.cons_ne_nil j items) (by simpa [settle?] using h))
  | .obj [], _ => .emptyObj spaces_nil
  | .obj (f :: fields), h =>
    .obj (fieldsText_compactFields (List.cons_ne_nil f fields) (by simpa [settle?] using h))

theorem itemsText_compactItems : ∀ {items : List Json}, items ≠ [] →
    settleItems? items = some items → ItemsText items (compactItems items)
  | [], hne, _ => absurd rfl hne
  | [_], _, h => .single (textOf_compactChars (settle?_of_items h).1)
  | _ :: k :: items, _, h =>
    .comma (textOf_compactChars (settle?_of_items h).1)
      (itemsText_compactItems (List.cons_ne_nil k items) (settle?_of_items h).2)

theorem fieldsText_compactFields : ∀ {fields : List (String × Json)}, fields ≠ [] →
    settleFields? fields = some fields → FieldsText fields (compactFields fields)
  | [], hne, _ => absurd rfl hne
  | [(_, _)], _, h => .single (textOf_compactChars (settle?_of_fields h).1)
  | (name, j) :: g :: fields, _, h => by
    have hj := textOf_compactChars (settle?_of_fields h).1
    rw [compactFields, List.append_assoc, List.cons_append]
    · exact .comma hj (fieldsText_compactFields (List.cons_ne_nil g fields) (settle?_of_fields h).2)
    · exact List.cons_ne_nil g fields

end

/-! ## Writing with indentation -/

theorem spaces_newLine (level : Nat) : Spaces (newLine level) := by
  intro c hc
  rcases List.mem_cons.1 hc with rfl | hc
  · rfl
  · rw [List.eq_of_mem_replicate hc]
    rfl

theorem spaces_singleton : Spaces [' '] := by
  simp [Spaces, isSpace]

mutual

/-- What is written with one item or member to a line is a text of the value too. -/
theorem textOf_indentedChars : ∀ {j : Json} (level : Nat), settle? j = some j →
    TextOf j (indentedChars level j)
  | .null, _, _ => .null
  | .bool true, _, _ => .boolTrue
  | .bool false, _, _ => .boolFalse
  | .int n, _, _ => .int n
  | .double x, _, h => by
    have hx := isFinite_of_settle? h
    simp only [indentedChars, leafChars, doubleChars, if_pos hx]
    exact .double hx
  | .str s, _, _ => .str s
  | .arr [], _, _ => .emptyArr spaces_nil
  | .arr (j :: items), level, h => by
    rw [indentedChars, List.append_assoc, List.cons_append]
    · rw [← List.append_assoc]
      exact .arr (itemsText_indentedItems (level + 1) (List.cons_ne_nil j items)
        (by simpa [settle?] using h) (spaces_newLine level))
    · simp
  | .obj [], _, _ => .emptyObj spaces_nil
  | .obj (f :: fields), level, h => by
    rw [indentedChars, List.append_assoc, List.cons_append]
    · rw [← List.append_assoc]
      exact .obj (fieldsText_indentedFields (level + 1) (List.cons_ne_nil f fields)
        (by simpa [settle?] using h) (spaces_newLine level))
    · simp

theorem itemsText_indentedItems : ∀ {items : List Json} (level : Nat) {after : List Char},
    items ≠ [] → settleItems? items = some items → Spaces after →
    ItemsText items (indentedItems level items ++ after)
  | [], _, _, hne, _, _ => absurd rfl hne
  | [_], level, _, _, h, hafter => by
    rw [indentedItems, List.append_assoc]
    exact .last (spaces_newLine level) (textOf_indentedChars level (settle?_of_items h).1) hafter
  | j :: k :: items, level, after, _, h, hafter => by
    have hj := textOf_indentedChars level (settle?_of_items h).1
    have hmore := itemsText_indentedItems level (List.cons_ne_nil k items)
      (settle?_of_items h).2 hafter
    rw [indentedItems, List.append_assoc, List.append_assoc, List.cons_append]
    · exact ItemsText.cons (spaces_newLine level) hj spaces_nil hmore
    · simp

theorem fieldsText_indentedFields : ∀ {fields : List (String × Json)} (level : Nat)
    {after : List Char}, fields ≠ [] → settleFields? fields = some fields → Spaces after →
    FieldsText fields (indentedFields level fields ++ after)
  | [], _, _, hne, _, _ => absurd rfl hne
  | [(name, j)], level, after, _, h, hafter => by
    have hj := textOf_indentedChars level (settle?_of_fields h).1
    have htext := @FieldsText.last name j _ [] [' '] _ after (spaces_newLine level) spaces_nil
      spaces_singleton hj hafter
    simpa [indentedFields] using htext
  | (name, j) :: g :: fields, level, after, _, h, hafter => by
    have hj := textOf_indentedChars level (settle?_of_fields h).1
    have hmore := fieldsText_indentedFields level (List.cons_ne_nil g fields)
      (settle?_of_fields h).2 hafter
    have htext := @FieldsText.cons name j _ _ [] [' '] _ [] _ (spaces_newLine level) spaces_nil
      spaces_singleton hj spaces_nil hmore
    simpa [indentedFields] using htext

end

/-! ## Documents -/

/-- A text of a value that has settled numbers and is not nested too deeply is a document of the
value. -/
theorem document?_of_text {j : Json} {cs : List Char} (h : TextOf j cs)
    (hsettled : settle? j = some j) (hdepth : j.depth ≤ maxDepth) :
    document? (utf8 (String.ofList cs)) = some j := by
  have hparse : parse? cs = some j := by
    simpa using parse?_of_text spaces_nil h spaces_nil
  rw [document?, ofUtf8?_utf8]
  simp only [String.toList_ofList, hparse, if_pos hdepth, hsettled]

/-- A document is read as it was written, without spaces. -/
theorem document?_compact {j : Json} (hsettled : settle? j = some j) (hdepth : j.depth ≤ maxDepth) :
    document? (utf8 j.compact) = some j :=
  document?_of_text (textOf_compactChars hsettled) hsettled hdepth

/-- A document is read as it was written, with one item or member to a line. -/
theorem document?_indented {j : Json} (hsettled : settle? j = some j)
    (hdepth : j.depth ≤ maxDepth) : document? (utf8 j.indented) = some j :=
  document?_of_text (textOf_indentedChars 0 hsettled) hsettled hdepth

end SensorRelay.Json
