import Mathlib.Data.String.Basic
import SensorRelay.Proofs.Store.Listing
import SensorRelay.Proofs.Time.IsoText

/-!
# Wall clocks in columns

A column of times holds texts, and the database compares the texts and not the times. All their
fields have a fixed width and the greater ones come first, so the texts are in the order of the
times (`WallClock.columnText_lt_iff`) : the calendar goes by years, months and days
(`Date.before_ofDayNumber`), and digits of one width compare as numbers
(`Text.paddedNat_append_lt`). Hence windows select, and listings sort, by the texts
(`Store.Window.holds_iff_texts`, `Store.recordLe_iff_texts`).
-/

namespace SensorRelay

/-! ## Dates -/

namespace Date

/-- Earlier dates have texts that come first, and equal ones leave it to what follows. -/
theorem isoChars_append_lt {d e : Date} (hd : d.isValid = true) (he : e.isValid = true)
    {u v : List Char} (h : d.Before e ∨ d = e ∧ u < v) : d.isoChars ++ u < e.isoChars ++ v := by
  obtain ⟨hyear, hmonth, hday⟩ := fields_lt hd
  obtain ⟨hyear', hmonth', hday'⟩ := fields_lt he
  simp only [isoChars, List.append_assoc, List.cons_append]
  refine Text.paddedNat_append_lt (by decide) hyear hyear' ?_
  rcases h with (hlt | ⟨heq, h⟩) | ⟨rfl, htail⟩
  · exact Or.inl hlt
  · refine Or.inr ⟨heq, List.Lex.cons (Text.paddedNat_append_lt (by decide) hmonth hmonth' ?_)⟩
    rcases h with hlt | ⟨heq, hlt⟩
    · exact Or.inl hlt
    · exact Or.inr ⟨heq, List.Lex.cons
        (Text.paddedNat_append_lt (by decide) hday hday' (Or.inl hlt))⟩
  · exact Or.inr ⟨rfl, List.Lex.cons (List.append_left_lt (List.Lex.cons
      (List.append_left_lt htail)))⟩

end Date

/-! ## Wall clocks -/

namespace WallClock

/-- The parts of an earlier time come first. -/
theorem parts_lt {v w : WallClock} (h : v.micros < w.micros) :
    v.micros / microsPerDay < w.micros / microsPerDay ∨
      v.micros / microsPerDay = w.micros / microsPerDay ∧ (v.hour < w.hour ∨
        v.hour = w.hour ∧ (v.minute < w.minute ∨ v.minute = w.minute ∧ (v.second < w.second ∨
          v.second = w.second ∧ v.microsecond < w.microsecond))) := by
  unfold hour minute second microsecond timeOfDay microsPerDay
  omega

theorem columnText_lt {v w : WallClock} (h : v.micros < w.micros) :
    v.columnText < w.columnText := by
  obtain ⟨hhour, hminute, hsecond, hmicro⟩ := v.fields_lt
  obtain ⟨hhour', hminute', hsecond', hmicro'⟩ := w.fields_lt
  rw [String.lt_iff, columnText, columnText, String.toList_ofList, String.toList_ofList]
  simp only [List.append_assoc, List.cons_append]
  refine Date.isoChars_append_lt v.isValid_date w.isValid_date ?_
  rcases parts_lt h with hlt | ⟨heq, h⟩
  · exact Or.inl (Date.before_ofDayNumber hlt)
  -- Each part decides if it is smaller, and leaves it to the next one if it is equal.
  refine Or.inr ⟨congrArg Date.ofDayNumber heq, List.Lex.cons ?_⟩
  refine Text.paddedNat_append_lt (by decide) hhour hhour' (h.imp_right (And.imp_right fun h => ?_))
  refine List.Lex.cons (Text.paddedNat_append_lt (by decide) hminute hminute'
    (h.imp_right (And.imp_right fun h => ?_)))
  refine List.Lex.cons (Text.paddedNat_append_lt (by decide) hsecond hsecond'
    (h.imp_right (And.imp_right fun h => ?_)))
  have hlast := @Text.paddedNat_append_lt 6 _ _ (by decide) hmicro hmicro' [] [] (Or.inl h)
  rw [List.append_nil, List.append_nil] at hlast
  exact List.Lex.cons hlast

/-- Texts in a column are in the order of the times. -/
theorem columnText_lt_iff {v w : WallClock} :
    v.columnText < w.columnText ↔ v.micros < w.micros := by
  refine ⟨fun h => ?_, columnText_lt⟩
  rcases Nat.lt_trichotomy v.micros w.micros with hlt | heq | hgt
  · exact hlt
  · obtain ⟨n, hn⟩ := v
    obtain rfl : n = w.micros := heq
    exact absurd h (lt_irrefl _)
  · exact absurd h (lt_asymm (columnText_lt hgt))

end WallClock

/-! ## Windows and listings -/

namespace Store

/-- A window holds a wall clock if no end of it is beyond the text of the wall clock. -/
theorem Window.holds_iff_texts {window : Window} {wall : WallClock} : window.holds wall = true ↔
    (∀ t ∈ window.earliest, ¬wall.columnText < t.wall.columnText) ∧
      ∀ t ∈ window.latest, ¬t.wall.columnText < wall.columnText := by
  simp only [Window.holds, Bool.and_eq_true, Option.all_eq_true, decide_eq_true_eq,
    WallClock.columnText_lt_iff, Nat.not_lt, Option.mem_def]

/-- Records are listed in the order of the texts of their times, and then of their ids. -/
theorem recordLe_iff_texts {a b : RecordRow} : recordLe a b = true ↔
    a.wall.columnText < b.wall.columnText ∨
      ¬b.wall.columnText < a.wall.columnText ∧ a.id ≤ b.id := by
  simp only [recordLe, Bool.or_eq_true, Bool.and_eq_true, decide_eq_true_eq, beq_iff_eq,
    WallClock.columnText_lt_iff]
  omega

end Store
end SensorRelay
