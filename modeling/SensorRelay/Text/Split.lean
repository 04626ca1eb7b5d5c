/-!
# Cutting text at separators

`splitOn sep` cuts a text at every `sep`, keeping empty pieces, and `joinWith sep` puts the
pieces together again (`joinWith_splitOn`); pieces without `sep` come back out of their join
(`splitOn_joinWith`). `cutFirst?` and `cutLast?` cut at one occurrence only.
-/

namespace SensorRelay.Text

/-- The pieces between occurrences of `sep`; there is always at least one. -/
def splitOn (sep : Char) : List Char → List (List Char)
  | [] => [[]]
  | c :: cs =>
    if c = sep then [] :: splitOn sep cs
    else match splitOn sep cs with
      | [] => [[c]]
      | piece :: pieces => (c :: piece) :: pieces

/-- The pieces with `sep` between them. -/
def joinWith (sep : Char) : List (List Char) → List Char
  | [] => []
  | [piece] => piece
  | piece :: pieces => piece ++ sep :: joinWith sep pieces

theorem splitOn_ne_nil (sep : Char) : ∀ cs : List Char, splitOn sep cs ≠ []
  | [] => by simp [splitOn]
  | c :: cs => by
    unfold splitOn
    split
    · simp
    · split <;> simp

/-- Joining the pieces gives the text back. -/
theorem joinWith_splitOn (sep : Char) : ∀ cs : List Char, joinWith sep (splitOn sep cs) = cs
  | [] => rfl
  | c :: cs => by
    have ih := joinWith_splitOn sep cs
    unfold splitOn
    split
    · rename_i h
      cases hs : splitOn sep cs with
      | nil => exact absurd hs (splitOn_ne_nil sep cs)
      | cons p ps => rw [hs] at ih; simp [joinWith, ih, h]
    · cases hs : splitOn sep cs with
      | nil => exact absurd hs (splitOn_ne_nil sep cs)
      | cons p ps =>
        rw [hs] at ih
        cases ps with
        | nil => simpa [joinWith] using ih
        | cons q qs => simpa [joinWith] using ih

/-- A piece holds no separator. -/
theorem not_mem_of_mem_splitOn {sep : Char} {piece : List Char} :
    ∀ {cs : List Char}, piece ∈ splitOn sep cs → sep ∉ piece
  | [], h => by simp [splitOn] at h; simp [h]
  | c :: cs, h => by
    unfold splitOn at h
    split at h
    · rcases List.mem_cons.mp h with h | h
      · simp [h]
      · exact not_mem_of_mem_splitOn h
    · rename_i hc
      cases hs : splitOn sep cs with
      | nil => exact absurd hs (splitOn_ne_nil sep cs)
      | cons p ps =>
        rw [hs] at h
        rcases List.mem_cons.mp h with h | h
        · have hp : sep ∉ p := @not_mem_of_mem_splitOn sep p cs (by simp [hs])
          subst h
          simp only [List.mem_cons, not_or]
          exact ⟨fun e => hc e.symm, hp⟩
        · exact @not_mem_of_mem_splitOn sep piece cs (by simp [hs, h])

/-- A text without the separator is one piece. -/
theorem splitOn_eq_singleton {sep : Char} :
    ∀ {cs : List Char}, sep ∉ cs → splitOn sep cs = [cs]
  | [], _ => rfl
  | c :: cs, h => by
    simp only [List.mem_cons, not_or] at h
    unfold splitOn
    rw [if_neg (fun e => h.1 e.symm), splitOn_eq_singleton h.2]

/-- The first piece ends at the first separator. -/
theorem splitOn_append_cons {sep : Char} :
    ∀ {cs : List Char}, sep ∉ cs →
      ∀ rest, splitOn sep (cs ++ sep :: rest) = cs :: splitOn sep rest
  | [], _, rest => by simp [splitOn]
  | c :: cs, h, rest => by
    simp only [List.mem_cons, not_or] at h
    rw [List.cons_append, splitOn, if_neg (fun e => h.1 e.symm), splitOn_append_cons h.2 rest]

/-- Pieces without the separator come back out of their join. -/
theorem splitOn_joinWith {sep : Char} :
    ∀ {pieces : List (List Char)}, pieces ≠ [] → (∀ p ∈ pieces, sep ∉ p) →
      splitOn sep (joinWith sep pieces) = pieces
  | [], h, _ => absurd rfl h
  | [p], _, h => by simpa [joinWith] using splitOn_eq_singleton (h p (by simp))
  | p :: q :: ps, _, h => by
    have ih := @splitOn_joinWith sep (q :: ps) (by simp)
      (fun r hr => h r (List.mem_cons_of_mem _ hr))
    show splitOn sep (p ++ sep :: joinWith sep (q :: ps)) = _
    rw [splitOn_append_cons (h p (by simp)), ih]

/-- What stands before and after the first occurrence of `sep`. -/
def cutFirst? (sep : Char) : List Char → Option (List Char × List Char)
  | [] => none
  | c :: cs =>
    if c = sep then some ([], cs)
    else (cutFirst? sep cs).map fun (before, after) => (c :: before, after)

theorem cutFirst?_of_not_mem {sep : Char} {cs : List Char} (h : sep ∉ cs) :
    cutFirst? sep cs = none := by
  induction cs with
  | nil => rfl
  | cons c cs ih =>
    rw [List.mem_cons, not_or] at h
    rw [cutFirst?, if_neg (Ne.symm h.1), ih h.2]
    rfl

/-- What stands before and after the last occurrence of `sep`. -/
def cutLast? (sep : Char) (cs : List Char) : Option (List Char × List Char) :=
  (cutFirst? sep cs.reverse).map fun (after, before) => (before.reverse, after.reverse)

/-- The text after `lead` when it starts with it. -/
def dropLead? (lead : List Char) (cs : List Char) : Option (List Char) :=
  if lead.isPrefixOf cs then some (cs.drop lead.length) else none

theorem dropLead?_eq_some_iff {lead cs rest : List Char} :
    dropLead? lead cs = some rest ↔ lead ++ rest = cs := by
  rw [dropLead?]
  constructor
  · intro h
    split at h
    · rename_i hlead
      obtain ⟨tail, rfl⟩ := List.isPrefixOf_iff_prefix.1 hlead
      rw [List.drop_left] at h
      rw [Option.some.inj h]
    · cases h
  · rintro rfl
    rw [if_pos (List.isPrefixOf_iff_prefix.2 (List.prefix_append lead rest)), List.drop_left]

/-- Does `part` occur in the text? -/
def occursIn (part : List Char) : List Char → Bool
  | [] => part.isEmpty
  | c :: cs => part.isPrefixOf (c :: cs) || occursIn part cs

/-- Every occurrence of `part`, from the left, becomes `new`. -/
def replaceChar (c : Char) (new : List Char) (cs : List Char) : List Char :=
  cs.flatMap fun d => if d = c then new else [d]

end SensorRelay.Text
