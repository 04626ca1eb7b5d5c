import SensorRelay.Text.Digit
import SensorRelay.Text.Split
import SensorRelay.Time.Timestamp

/-!
# Timestamps as ISO 8601 text

`Timestamp.isoChars` writes the one form that payloads hold: date, `T`, time, the six digits
of a fraction if there is one, and the offset with seconds and fraction only as needed.
`Timestamp.ofIso?` reads that form and many others: compact and week dates, any separator
between date and time, times without colons or cut short, fractions of any length.
-/

namespace SensorRelay

open Text

/-! ## Writing -/

/-- The fraction of a second, with its point, unless it is zero. -/
def fractionChars (microsecond : Nat) : List Char :=
  if microsecond = 0 then [] else '.' :: paddedNat 6 microsecond

/-- `YYYY-MM-DD`. -/
def Date.isoChars (d : Date) : List Char :=
  paddedNat 4 d.year ++ '-' :: paddedNat 2 d.month ++ '-' :: paddedNat 2 d.day

/-- The date and the time with `separator` between them. -/
def WallClock.isoChars (separator : Char) (w : WallClock) : List Char :=
  w.date.isoChars ++ separator :: paddedNat 2 w.hour ++ ':' :: paddedNat 2 w.minute
    ++ ':' :: paddedNat 2 w.second ++ fractionChars w.microsecond

/-- The date and the time with all six digits of the fraction, as a table column shows them. -/
def WallClock.columnText (w : WallClock) : String :=
  String.ofList (w.date.isoChars ++ ' ' :: paddedNat 2 w.hour ++ ':' :: paddedNat 2 w.minute
    ++ ':' :: paddedNat 2 w.second ++ '.' :: paddedNat 6 w.microsecond)

/-- `±HH:MM`, with seconds and their fraction only if there are any. -/
def UtcOffset.isoChars (o : UtcOffset) : List Char :=
  let n := o.micros.natAbs
  let seconds := n / 1000000 % 60
  let micros := n % 1000000
  (if o.micros < 0 then '-' else '+') :: paddedNat 2 (n / 3600000000) ++
    ':' :: paddedNat 2 (n / 60000000 % 60) ++
    (if seconds = 0 ∧ micros = 0 then [] else ':' :: paddedNat 2 seconds ++ fractionChars micros)

/-- A timestamp as payloads hold it. -/
def Timestamp.isoChars (t : Timestamp) : List Char :=
  t.wall.isoChars 'T' ++ (t.offset.map UtcOffset.isoChars).getD []

/-- A timestamp as payloads hold it. -/
def Timestamp.iso (t : Timestamp) : String := String.ofList t.isoChars

/-! ## Reading -/

/-- The number that exactly `n` digits at the start of a text stand for. -/
def takeNat? (n : Nat) (cs : List Char) : Option (Nat × List Char) :=
  if n ≤ cs.length then
    ((cs.take n).mapM asciiDigit?).map fun ds => (ofDigits ds, cs.drop n)
  else none

/-- How many characters of the text are its date. Only the characters after the year tell,
and in the compact week form the parity of the digits that follow. -/
def dateLength (cs : List Char) : Option Nat :=
  if cs.length = 7 then some 7
  else if cs[4]? = some '-' then
    if cs[5]? = some 'W' then
      if cs[8]? = some '-' then
        if cs.length = 9 then none
        else if ((cs[10]?).bind asciiDigit?).isSome then some 8
        else some 10
      else some 8
    else some 10
  else if cs[4]? = some 'W' then
    let last := 7 + (leadingDigits (cs.drop 7)).1.length
    if last < 9 then some last else if last % 2 = 0 then some 7 else some 8
  else some 8

/-- Skips a dash where the form has dashes. -/
def dropDash? (dashes : Bool) (cs : List Char) : Option (List Char) :=
  if dashes then dropLead? ['-'] cs else some cs

/-- The number of the day that a date text of any form names. -/
def dayOfDateText? (cs : List Char) : Option Nat := do
  let (year, rest) ← takeNat? 4 cs
  let dashes := rest.head? == some '-'
  let rest ← dropDash? dashes rest
  match rest with
  | 'W' :: rest =>
    let (week, rest) ← takeNat? 2 rest
    if rest.isEmpty then weekDate? year week 1
    else
      let rest ← dropDash? dashes rest
      let (weekday, _) ← takeNat? 1 rest
      weekDate? year week weekday
  | rest =>
    let (month, rest) ← takeNat? 2 rest
    let rest ← dropDash? dashes rest
    let (day, _) ← takeNat? 2 rest
    let date : Date := ⟨year, month, day⟩
    if date.isValid then some date.dayNumber else none

/-- Hours, minutes, seconds and microseconds that a text names. `complete` says that nothing
is left over; what is left over does not matter when an offset follows. -/
structure ClockText where
  hour : Nat
  minute : Nat := 0
  second : Nat := 0
  micros : Nat := 0
  complete : Bool := true

/-- The fraction after the seconds: up to six digits count, more are dropped. -/
def ClockText.withFraction? (t : ClockText) (cs : List Char) : Option ClockText := do
  let places := min 6 cs.length
  let (n, rest) ← takeNat? places cs
  let left := (leadingDigits rest).2
  return { t with micros := n * Nat.pow 10 (6 - places)
                  complete := left.isEmpty || left.head? == some '\x00' }

/-- What may follow a pair of digits: the end, one last ASCII character, a fraction, or the next
pair (after a colon if the first pair had one). -/
inductive ClockNext where
  | done (complete : Bool)
  | fraction (rest : List Char)
  | pair (rest : List Char)

/-- Decides how the text goes on after a pair of digits. -/
def clockNext? (colons : Bool) : List Char → Option ClockNext
  | [] => some (.done true)
  | [c] => if c.toNat < 0x80 then some (.done (c == '\x00')) else none
  | c :: rest =>
    if colons && c == ':' then some (.pair rest)
    else if c == '.' || c == ',' then some (.fraction rest)
    else if colons then none
    else some (.pair (c :: rest))

/-- Reads `HH`, `HH:MM` or `HH:MM:SS`, with all colons or none, and a fraction after any of
them. -/
def clockText? (cs : List Char) : Option ClockText := do
  let (hour, rest) ← takeNat? 2 cs
  let colons := rest.head? == some ':'
  let t : ClockText := ⟨hour, 0, 0, 0, true⟩
  match ← clockNext? colons rest with
  | .done complete => return { t with complete }
  | .fraction rest => t.withFraction? rest
  | .pair rest =>
    let (minute, rest) ← takeNat? 2 rest
    let t := { t with minute }
    match ← clockNext? colons rest with
    | .done complete => return { t with complete }
    | .fraction rest => t.withFraction? rest
    | .pair rest =>
      let (second, rest) ← takeNat? 2 rest
      let t := { t with second }
      match ← clockNext? colons rest with
      | .done complete => return { t with complete }
      | .fraction rest => t.withFraction? rest
      | .pair rest => t.withFraction? rest

/-- Cuts a time text at the sign of its offset. -/
def cutOffset (cs : List Char) : List Char × Option (Bool × List Char) :=
  let (time, rest) := cs.span fun c => c != '+' && c != '-'
  match rest with
  | [] => (time, none)
  | sign :: offset => (time, some (sign == '-', offset))

/-- The offset that a text after its sign names. Without a whole second it is none at all. -/
def offsetText? (negative : Bool) (cs : List Char) : Option UtcOffset := do
  let t ← clockText? cs
  if !t.complete then none
  let seconds := t.hour * 3600 + t.minute * 60 + t.second
  if seconds = 0 then return UtcOffset.utc
  let n : Int := (seconds * 1000000 + t.micros : Nat)
  UtcOffset.ofMicros? (if negative then -n else n)

/-- The time of day and the offset that a text names. -/
def timeText? (cs : List Char) : Option (ClockText × Option UtcOffset) := do
  match cutOffset cs with
  | (time, none) =>
    let t ← clockText? time
    if t.complete then return (t, none) else none
  | (time, some (negative, offset)) =>
    let t ← clockText? time
    return (t, some (← offsetText? negative offset))

/-- Reads a timestamp in any of the accepted forms. -/
def Timestamp.ofIsoChars? (cs : List Char) : Option Timestamp := do
  if cs.length < 7 then none
  let n ← dateLength cs
  let day ← dayOfDateText? (cs.take n)
  match cs.drop n with
  | [] => return ⟨← WallClock.ofDay? day 0 0 0 0, none⟩
  | _ :: time =>
    let (t, offset) ← timeText? time
    return ⟨← WallClock.ofDay? day t.hour t.minute t.second t.micros, offset⟩

/-- Reads a timestamp in which every `Z` stands for the offset zero. -/
def Timestamp.ofIso? (s : String) : Option Timestamp :=
  ofIsoChars? (replaceChar 'Z' ['+', '0', '0', ':', '0', '0'] s.toList)

end SensorRelay
