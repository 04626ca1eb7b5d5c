import SensorRelay.Proofs.Text.Digit
import SensorRelay.Proofs.Time.Calendar
import SensorRelay.Time.IsoText

/-!
# Timestamps read back from their text

Each number of an ISO 8601 text is written at a fixed width, so it is read back whatever follows
(`takeNat?_paddedNat`), and so is each part : the date (`dayOfDateText?_isoChars`), the time of day
with or without a fraction (`clockText?_clockChars`) and the offset with or without seconds
(`offsetText?_isoText`). Together they give the timestamp (`Timestamp.ofIso?_iso`), except that
reading takes an offset without a whole second for none (`UtcOffset.asRead`).
-/

namespace SensorRelay

open Text

/-! ## Numbers of a fixed width -/

/-- A number with zeros in front is read by its width, whatever follows. -/
theorem takeNat?_paddedNat {width n : Nat} (hw : 0 < width) (h : n < 10 ^ width)
    (rest : List Char) : takeNat? width (paddedNat width n ++ rest) = some (n, rest) := by
  have hlength := length_paddedNat hw h
  have htake : (paddedNat width n ++ rest).take width = paddedNat width n := by
    rw [List.take_append_of_le_length hlength.ge, List.take_of_length_le hlength.le]
  have hdrop : (paddedNat width n ++ rest).drop width = rest := by
    rw [List.drop_append_of_le_length hlength.ge, List.drop_of_length_le hlength.le,
      List.nil_append]
  rw [takeNat?, if_pos (by rw [List.length_append]; omega), htake, hdrop, paddedNat_eq,
    mapM_asciiDigit? fun d => lt_ten_of_mem_paddedDigits, Option.map_some, paddedDigits,
    ofDigits_zeros_append, ofDigits_decimalDigits]

/-- A number of a fixed width is written with digits. -/
theorem isDigit_of_mem_paddedNat {width n : Nat} {c : Char} (h : c ∈ paddedNat width n) :
    (asciiDigit? c).isSome := by
  rw [paddedNat_eq] at h
  obtain ⟨d, hd, rfl⟩ := List.mem_map.1 h
  rw [asciiDigit?_digitChar (lt_ten_of_mem_paddedDigits hd)]
  rfl

theorem ne_of_isDigit {c mark : Char} (h : (asciiDigit? c).isSome)
    (hmark : asciiDigit? mark = none) : c ≠ mark := by
  rintro rfl
  rw [hmark] at h
  exact Bool.noConfusion h

theorem exists_paddedNat_two {n : Nat} (h : n < 100) :
    ∃ a b, paddedNat 2 n = [a, b] ∧ (asciiDigit? a).isSome ∧ (asciiDigit? b).isSome := by
  have hlength : (paddedNat 2 n).length = 2 := length_paddedNat (by omega) h
  have hdigits := fun c => @isDigit_of_mem_paddedNat 2 n c
  obtain ⟨a, b, hab⟩ := List.length_eq_two.1 hlength
  rw [hab] at hdigits
  exact ⟨a, b, hab, hdigits a (by simp), hdigits b (by simp)⟩

theorem exists_paddedNat_four {n : Nat} (h : n < 10000) :
    ∃ a b c d, paddedNat 4 n = [a, b, c, d] := by
  have hlength : (paddedNat 4 n).length = 4 := length_paddedNat (by omega) h
  match hn : paddedNat 4 n, hlength with
  | [a, b, c, d], _ => exact ⟨a, b, c, d, rfl⟩

/-! ## The date -/

theorem Date.monthLength_le (d : Date) : d.monthLength ≤ 31 := by
  have hall : ∀ leap : Bool, ∀ n ∈ monthLengths leap, n ≤ 31 := by decide
  unfold Date.monthLength
  rw [List.getD_eq_getElem?_getD]
  rcases h : (monthLengths (isLeapYear d.year))[d.month - 1]? with _ | n
  · simp
  · exact hall _ n (List.mem_of_getElem? h)

/-- Every part of a date has room at its width. -/
theorem Date.fields_lt {d : Date} (h : d.isValid = true) :
    d.year < 10000 ∧ d.month < 100 ∧ d.day < 100 := by
  have hlength := d.monthLength_le
  simp only [Date.isValid, Bool.and_eq_true, decide_eq_true_eq] at h
  omega

theorem dropDash?_dash (cs : List Char) : dropDash? true ('-' :: cs) = some cs := by
  simp [dropDash?, dropLead?]

/-- A date text names the day of its date. -/
theorem dayOfDateText?_isoChars {d : Date} (h : d.isValid = true) :
    dayOfDateText? d.isoChars = some d.dayNumber := by
  obtain ⟨hyear, hmonth, hday⟩ := Date.fields_lt h
  obtain ⟨a, b, hab, ha, -⟩ := exists_paddedNat_two hmonth
  have hreadYear := @takeNat?_paddedNat 4 d.year (by omega) hyear
    ('-' :: paddedNat 2 d.month ++ '-' :: paddedNat 2 d.day)
  have hreadMonth := @takeNat?_paddedNat 2 d.month (by omega) hmonth ('-' :: paddedNat 2 d.day)
  have hreadDay := @takeNat?_paddedNat 2 d.day (by omega) hday []
  have hne : a ≠ 'W' := ne_of_isDigit ha rfl
  rw [List.append_nil] at hreadDay
  rw [hab] at hreadYear hreadMonth
  rw [dayOfDateText?, Date.isoChars, hab, List.append_assoc, hreadYear]
  simp only [Option.bind_eq_bind, Option.bind_some, List.cons_append, List.nil_append,
    List.head?_cons, beq_self_eq_true, dropDash?_dash]
  simp only [List.cons_append, List.nil_append] at hreadMonth
  split
  · rename_i heq
    exact absurd (List.cons.inj heq).1 hne
  · simp only [hreadMonth, Option.bind_some, dropDash?_dash, hreadDay, h, if_true]

theorem length_isoChars {d : Date} (h : d.isValid = true) : d.isoChars.length = 10 := by
  obtain ⟨hyear, hmonth, hday⟩ := Date.fields_lt h
  simp [Date.isoChars, @length_paddedNat 4 d.year (by omega) hyear,
    @length_paddedNat 2 d.month (by omega) hmonth, @length_paddedNat 2 d.day (by omega) hday]

/-- The date of a longer text is found by its dashes. -/
theorem dateLength_isoChars_append {d : Date} (h : d.isValid = true) (rest : List Char) :
    dateLength (d.isoChars ++ rest) = some 10 := by
  have hlength := length_isoChars h
  obtain ⟨hyear, hmonth, hday⟩ := Date.fields_lt h
  obtain ⟨y₁, y₂, y₃, y₄, hy⟩ := exists_paddedNat_four hyear
  obtain ⟨m₁, m₂, hm, hm₁, -⟩ := exists_paddedNat_two hmonth
  have hne : m₁ ≠ 'W' := ne_of_isDigit hm₁ rfl
  have hlong : (d.isoChars ++ rest).length ≠ 7 := by
    rw [List.length_append]
    omega
  rw [dateLength, if_neg hlong]
  simp [Date.isoChars, hy, hm, hne]

/-! ## The time of day -/

/-- Hours and minutes with a colon between them. -/
def minuteChars (hour minute : Nat) : List Char :=
  paddedNat 2 hour ++ ':' :: paddedNat 2 minute

/-- Hours, minutes and seconds, with the fraction if there is one. -/
def clockChars (hour minute second micros : Nat) : List Char :=
  minuteChars hour minute ++ ':' :: paddedNat 2 second ++ fractionChars micros

/-- After a pair of digits and a colon at least one more pair stands. -/
theorem clockNext?_colon {n : Nat} (h : n < 100) (rest : List Char) :
    clockNext? true (':' :: paddedNat 2 n ++ rest) = some (.pair (paddedNat 2 n ++ rest)) := by
  obtain ⟨a, b, hab, -, -⟩ := exists_paddedNat_two h
  rw [hab]
  simp [clockNext?]

theorem clockText?_minuteChars {hour minute : Nat} (hh : hour < 100) (hm : minute < 100) :
    clockText? (minuteChars hour minute) = some ⟨hour, minute, 0, 0, true⟩ := by
  have hreadHour := @takeNat?_paddedNat 2 hour (by omega) hh (':' :: paddedNat 2 minute)
  have hreadMinute := @takeNat?_paddedNat 2 minute (by omega) hm []
  have hnext := clockNext?_colon hm []
  rw [List.append_nil] at hreadMinute
  rw [List.append_nil, List.append_nil] at hnext
  rw [clockText?, minuteChars, hreadHour]
  simp only [Option.bind_eq_bind, Option.bind_some, List.head?_cons, beq_self_eq_true, hnext,
    hreadMinute]
  rfl

theorem clockNext?_fractionChars {micros : Nat} (h : micros < 1000000) :
    clockNext? true (fractionChars micros) = some (.done true) ∧ micros = 0 ∨
      clockNext? true (fractionChars micros) = some (.fraction (paddedNat 6 micros)) := by
  unfold fractionChars
  split
  · rename_i hzero
    exact Or.inl ⟨rfl, hzero⟩
  · right
    have hlength : (paddedNat 6 micros).length = 6 := length_paddedNat (by omega) h
    obtain ⟨a, as, has⟩ := List.exists_cons_of_length_pos (l := paddedNat 6 micros) (by omega)
    rw [has]
    simp [clockNext?]

theorem withFraction?_paddedNat (t : ClockText) {micros : Nat} (h : micros < 1000000) :
    t.withFraction? (paddedNat 6 micros) = some { t with micros := micros, complete := true } := by
  have hlength : (paddedNat 6 micros).length = 6 := length_paddedNat (by omega) h
  have hread := @takeNat?_paddedNat 6 micros (by omega) h []
  rw [List.append_nil] at hread
  rw [ClockText.withFraction?, hlength, Nat.min_self, hread]
  simp [leadingDigits]

theorem clockText?_clockChars {hour minute second micros : Nat} (hh : hour < 100)
    (hm : minute < 100) (hs : second < 100) (hf : micros < 1000000) :
    clockText? (clockChars hour minute second micros) =
      some ⟨hour, minute, second, micros, true⟩ := by
  have htext : clockChars hour minute second micros =
      paddedNat 2 hour ++ (':' :: paddedNat 2 minute ++
        (':' :: paddedNat 2 second ++ fractionChars micros)) := by
    simp only [clockChars, minuteChars, List.append_assoc, List.cons_append]
  have hreadHour := @takeNat?_paddedNat 2 hour (by omega) hh
  have hreadMinute := @takeNat?_paddedNat 2 minute (by omega) hm
  have hreadSecond := @takeNat?_paddedNat 2 second (by omega) hs
  rw [clockText?, htext, hreadHour]
  simp only [Option.bind_eq_bind, Option.bind_some, List.cons_append, List.head?_cons,
    beq_self_eq_true]
  rw [← List.cons_append, clockNext?_colon hm]
  simp only [Option.bind_some, hreadMinute]
  rw [← List.cons_append, clockNext?_colon hs]
  simp only [Option.bind_some, hreadSecond]
  rcases clockNext?_fractionChars hf with ⟨hnext, rfl⟩ | hnext
  · rw [hnext]
    rfl
  · rw [hnext]
    exact withFraction?_paddedNat _ hf

/-! ## The offset -/

/-- A distance from UTC without its sign. -/
def distanceChars (n : Nat) : List Char :=
  if n / 1000000 % 60 = 0 ∧ n % 1000000 = 0 then
    minuteChars (n / 3600000000) (n / 60000000 % 60)
  else clockChars (n / 3600000000) (n / 60000000 % 60) (n / 1000000 % 60) (n % 1000000)

theorem UtcOffset.isoChars_eq (o : UtcOffset) :
    o.isoChars = (if o.micros < 0 then '-' else '+') :: distanceChars o.micros.natAbs := by
  unfold UtcOffset.isoChars distanceChars clockChars minuteChars
  by_cases h : o.micros.natAbs / 1000000 % 60 = 0 ∧ o.micros.natAbs % 1000000 = 0
  · simp [h]
  · simp [h]

theorem clockText?_distanceChars {n : Nat} (h : n < 86400000000) :
    clockText? (distanceChars n) =
      some ⟨n / 3600000000, n / 60000000 % 60, n / 1000000 % 60, n % 1000000, true⟩ := by
  unfold distanceChars
  split
  · rename_i hzero
    rw [clockText?_minuteChars (by omega) (by omega), hzero.1, hzero.2]
  · exact clockText?_clockChars (by omega) (by omega) (by omega) (by omega)

theorem UtcOffset.natAbs_lt (o : UtcOffset) : o.micros.natAbs < 86400000000 := by
  have := o.bounded
  omega

/-- What the text of a distance is read as. -/
theorem offsetText?_distanceChars {n : Nat} (h : n < 86400000000) (negative : Bool) :
    offsetText? negative (distanceChars n) =
      if n < 1000000 then some UtcOffset.utc
      else UtcOffset.ofMicros? (if negative then -(n : Int) else n) := by
  have hseconds : n / 3600000000 * 3600 + n / 60000000 % 60 * 60 + n / 1000000 % 60 =
      n / 1000000 := by omega
  have hmicros : n / 1000000 * 1000000 + n % 1000000 = n := Nat.div_add_mod' n 1000000
  rw [offsetText?, clockText?_distanceChars h]
  simp only [Option.bind_eq_bind, Option.bind_some, hseconds, hmicros]
  by_cases hshort : n < 1000000
  · have hzero : n / 1000000 = 0 := by omega
    simp [hzero, hshort]
  · have hpos : n / 1000000 ≠ 0 := by omega
    simp [hpos, hshort]

/-- The offset that the text of an offset is read as: one without a whole second is lost. -/
def UtcOffset.asRead (o : UtcOffset) : UtcOffset :=
  if o.micros.natAbs < 1000000 then utc else o

theorem UtcOffset.asRead_eq {o : UtcOffset} (h : o.micros = 0 ∨ 1000000 ≤ o.micros.natAbs) :
    o.asRead = o := by
  unfold asRead
  rcases h with h | h
  · have ho : utc = o := by
      cases o
      simp_all [utc]
    rw [if_pos (by omega), ho]
  · rw [if_neg (by omega)]

theorem offsetText?_isoText (o : UtcOffset) :
    offsetText? (decide (o.micros < 0)) (distanceChars o.micros.natAbs) = some o.asRead := by
  have hsign : (if decide (o.micros < 0) = true then -(o.micros.natAbs : Int)
      else o.micros.natAbs) = o.micros := by
    simp only [decide_eq_true_eq]
    split <;> omega
  rw [offsetText?_distanceChars o.natAbs_lt, hsign, UtcOffset.ofMicros?, dif_pos o.bounded,
    UtcOffset.asRead]
  split <;> rfl

/-! ## The whole text -/

/-- The marks that stand between the digits of a time of day. -/
theorem mem_clockChars {hour minute second micros : Nat} {c : Char}
    (h : c ∈ clockChars hour minute second micros) :
    (asciiDigit? c).isSome ∨ c = ':' ∨ c = '.' := by
  have hdigit := fun width n => @isDigit_of_mem_paddedNat width n c
  unfold clockChars minuteChars fractionChars at h
  simp only [List.mem_append, List.mem_cons] at h
  rcases h with ((h | rfl | h) | rfl | h) | h
  · exact Or.inl (hdigit _ _ h)
  · exact Or.inr (Or.inl rfl)
  · exact Or.inl (hdigit _ _ h)
  · exact Or.inr (Or.inl rfl)
  · exact Or.inl (hdigit _ _ h)
  · split at h
    · simp at h
    · rcases List.mem_cons.1 h with rfl | h
      · exact Or.inr (Or.inr rfl)
      · exact Or.inl (hdigit _ _ h)

/-- A time text is cut before the first sign. -/
theorem cutOffset_append {time : List Char} (h : ∀ c ∈ time, c ≠ '+' ∧ c ≠ '-') {sign : Char}
    (hsign : sign = '+' ∨ sign = '-') (offset : List Char) :
    cutOffset (time ++ sign :: offset) = (time, some (sign == '-', offset)) := by
  have hpass : ∀ c ∈ time, (c != '+' && c != '-') = true := by
    intro c hc
    simp [(h c hc).1, (h c hc).2]
  have hstop : (sign != '+' && sign != '-') = false := by
    rcases hsign with rfl | rfl <;> rfl
  rw [cutOffset, List.span_eq_takeWhile_dropWhile, List.takeWhile_append_of_pos hpass,
    List.dropWhile_append_of_pos hpass, List.takeWhile_cons_of_neg (by simp [hstop]),
    List.dropWhile_cons_of_neg (by simp [hstop]), List.append_nil]

namespace WallClock

theorem isValid_date (w : WallClock) : w.date.isValid = true := by
  refine Date.isValid_ofDayNumber ?_
  have := w.isLt
  unfold wallLimit at this
  unfold microsPerDay dayLimit
  omega

/-- The fields of a wall clock name it. -/
theorem ofDay?_fields (w : WallClock) :
    ofDay? w.date.dayNumber w.hour w.minute w.second w.microsecond = some w := by
  have hlt := w.isLt
  have hsum : w.micros / microsPerDay * microsPerDay + w.hour * 3600000000 +
      w.minute * 60000000 + w.second * 1000000 + w.microsecond = w.micros := by
    unfold hour minute second microsecond timeOfDay microsPerDay
    omega
  have hfields : w.hour ≤ 23 ∧ w.minute ≤ 59 ∧ w.second ≤ 59 ∧ w.microsecond ≤ 999999 := by
    unfold hour minute second microsecond timeOfDay microsPerDay
    omega
  rw [ofDay?, if_pos hfields, date, Date.dayNumber_ofDayNumber, hsum, ofMicros?, Int.toNat_natCast,
    dif_pos hlt, if_pos (Int.natCast_nonneg _)]

theorem fields_lt (w : WallClock) :
    w.hour < 100 ∧ w.minute < 100 ∧ w.second < 100 ∧ w.microsecond < 1000000 := by
  unfold hour minute second microsecond timeOfDay microsPerDay
  omega

theorem isoChars_eq (separator : Char) (w : WallClock) :
    w.isoChars separator =
      w.date.isoChars ++ separator :: clockChars w.hour w.minute w.second w.microsecond := by
  simp [isoChars, clockChars, minuteChars]

end WallClock

/-- The text of a timestamp with an offset is its date, its time of day and its offset. -/
theorem Timestamp.isoChars_eq (w : WallClock) (o : UtcOffset) :
    isoChars ⟨w, some o⟩ = w.date.isoChars ++
      'T' :: (clockChars w.hour w.minute w.second w.microsecond ++
        (if o.micros < 0 then '-' else '+') :: distanceChars o.micros.natAbs) := by
  simp [isoChars, WallClock.isoChars_eq, UtcOffset.isoChars_eq]

/-- A time of day and an offset are read back. -/
theorem timeText?_isoText (w : WallClock) (o : UtcOffset) :
    timeText? (clockChars w.hour w.minute w.second w.microsecond ++
        (if o.micros < 0 then '-' else '+') :: distanceChars o.micros.natAbs) =
      some (⟨w.hour, w.minute, w.second, w.microsecond, true⟩, some o.asRead) := by
  obtain ⟨hhour, hminute, hsecond, hmicros⟩ := w.fields_lt
  have hsigns : ∀ c ∈ clockChars w.hour w.minute w.second w.microsecond, c ≠ '+' ∧ c ≠ '-' := by
    intro c hc
    rcases mem_clockChars hc with hc | rfl | rfl
    · exact ⟨ne_of_isDigit hc rfl, ne_of_isDigit hc rfl⟩
    · decide
    · decide
  have hsign : ((if o.micros < 0 then '-' else '+') == '-') = decide (o.micros < 0) := by
    by_cases hneg : o.micros < 0
    · simp [hneg]
    · simp [hneg]
  rw [timeText?, cutOffset_append hsigns (by split <;> simp), hsign]
  simp only [clockText?_clockChars hhour hminute hsecond hmicros, offsetText?_isoText]
  rfl

theorem Timestamp.ofIsoChars?_isoChars (w : WallClock) (o : UtcOffset) :
    ofIsoChars? (isoChars ⟨w, some o⟩) = some ⟨w, some o.asRead⟩ := by
  have hvalid := w.isValid_date
  have hlength := length_isoChars hvalid
  rw [isoChars_eq, ofIsoChars?, dateLength_isoChars_append hvalid,
    if_neg (by rw [List.length_append]; omega)]
  simp only [Option.bind_eq_bind, Option.bind_some, List.take_left' hlength,
    List.drop_left' hlength, dayOfDateText?_isoChars hvalid, timeText?_isoText,
    WallClock.ofDay?_fields]
  rfl

theorem mem_dateChars {d : Date} {c : Char} (h : c ∈ d.isoChars) :
    (asciiDigit? c).isSome ∨ c = '-' := by
  unfold Date.isoChars at h
  simp only [List.mem_append, List.mem_cons] at h
  rcases h with (h | rfl | h) | rfl | h
  · exact Or.inl (isDigit_of_mem_paddedNat h)
  · exact Or.inr rfl
  · exact Or.inl (isDigit_of_mem_paddedNat h)
  · exact Or.inr rfl
  · exact Or.inl (isDigit_of_mem_paddedNat h)

theorem mem_distanceChars {n : Nat} {c : Char} (h : c ∈ distanceChars n) :
    (asciiDigit? c).isSome ∨ c = ':' ∨ c = '.' := by
  unfold distanceChars at h
  split at h
  · exact @mem_clockChars _ _ 0 0 c (List.mem_append_left _ (List.mem_append_left _ h))
  · exact mem_clockChars h

/-- The text holds no `Z` that reading could take for an offset. -/
theorem not_mem_isoChars (w : WallClock) (o : UtcOffset) :
    'Z' ∉ Timestamp.isoChars ⟨w, some o⟩ := by
  intro h
  rw [Timestamp.isoChars_eq, List.mem_append, List.mem_cons, List.mem_append, List.mem_cons] at h
  rcases h with h | h | h | h | h
  · exact absurd (mem_dateChars h) (by decide)
  · exact absurd h (by decide)
  · exact absurd (mem_clockChars h) (by decide)
  · exact absurd h (by split <;> decide)
  · exact absurd (mem_distanceChars h) (by decide)

theorem replaceChar_of_not_mem {c : Char} {new cs : List Char} (h : c ∉ cs) :
    replaceChar c new cs = cs := by
  induction cs with
  | nil => rfl
  | cons d cs ih =>
    rw [List.mem_cons, not_or] at h
    have hrest := ih h.2
    rw [replaceChar] at hrest ⊢
    rw [List.flatMap_cons, hrest, if_neg (Ne.symm h.1), List.singleton_append]

/-- The text of a timestamp names its wall clock, and its offset up to those that are lost. -/
theorem Timestamp.ofIso?_iso (t : Timestamp) :
    ofIso? t.asUtc.iso = some ⟨t.wall, some (t.offset.getD UtcOffset.utc).asRead⟩ := by
  rw [ofIso?, iso, String.toList_ofList, asUtc, replaceChar_of_not_mem (not_mem_isoChars _ _)]
  exact ofIsoChars?_isoChars t.wall _

end SensorRelay
