import SensorRelay.Time.IsoText

/-!
# Timestamps in queries

A time bound in a query is a date, a date and a time, or a number of seconds since 1970 in
UTC; a number beyond `2 * 10 ^ 10` counts milliseconds. Unlike payload timestamps these have
one form per part: dashes and colons are required and the offset is below 24 hours with
minutes below 60.
-/

namespace SensorRelay

open Text

/-- Reads `n` digits as a number, then the text `lead`. -/
def takeNatThen? (n : Nat) (lead : List Char) (cs : List Char) :
    Option (Nat × List Char) := do
  let (v, rest) ← takeNat? n cs
  return (v, ← dropLead? lead rest)

/-- `YYYY-MM-DD` at the start of a text. -/
def queryDate? (cs : List Char) : Option (Date × List Char) := do
  let (year, rest) ← takeNatThen? 4 ['-'] cs
  let (month, rest) ← takeNatThen? 2 ['-'] rest
  let (day, rest) ← takeNat? 2 rest
  let date : Date := ⟨year, month, day⟩
  if date.isValid then return (date, rest) else none

/-- The seconds and the microseconds after `HH:MM`, both optional; digits of a fraction
beyond the sixth are dropped. -/
def querySeconds? (cs : List Char) : Option (Nat × Nat × List Char) :=
  match cs with
  | ':' :: rest => do
    let (second, rest) ← takeNat? 2 rest
    match rest with
    | c :: more =>
      if c = '.' ∨ c = ',' then
        let (ds, rest) := leadingDigits more
        if ds.isEmpty then none
        let used := ds.take 6
        return (second, ofDigits used * Nat.pow 10 (6 - used.length), rest)
      else return (second, 0, c :: more)
    | [] => return (second, 0, [])
  | _ => some (0, 0, cs)

/-- Nothing, `Z`, or a signed `HH:MM` with or without its colon. -/
def queryOffset? (cs : List Char) : Option (Option UtcOffset) :=
  match cs with
  | [] => some none
  | ['Z'] => some (some UtcOffset.utc)
  | ['z'] => some (some UtcOffset.utc)
  | sign :: rest => do
    let negative := sign = '-' ∨ sign = '−'
    if ¬negative ∧ sign ≠ '+' then none
    let (hours, rest) ← takeNat? 2 rest
    let (minutes, rest) ← takeNat? 2 ((dropLead? [':'] rest).getD rest)
    if ¬rest.isEmpty ∨ 59 < minutes then none
    let n : Int := (hours * 3600000000 + minutes * 60000000 : Nat)
    return some (← UtcOffset.ofMicros? (if negative then -n else n))

/-- The text of a date with or without a time. -/
def queryDateTime? (cs : List Char) : Option Timestamp := do
  let (date, rest) ← queryDate? cs
  match rest with
  | [] => return ⟨← WallClock.ofFields? date 0 0 0 0, none⟩
  | separator :: rest =>
    if ¬['T', 't', ' ', '_'].contains separator then none
    let (hour, rest) ← takeNatThen? 2 [':'] rest
    let (minute, rest) ← takeNat? 2 rest
    let (second, micros, rest) ← querySeconds? rest
    let offset ← queryOffset? rest
    return ⟨← WallClock.ofFields? date hour minute second micros, offset⟩

/-- The instants that a number may name: from 1600 to the last second of 9999. -/
def queryEpochRange (seconds : Int) : Bool :=
  -11676096000 ≤ seconds && seconds ≤ 253402300799

/-- A number of seconds or milliseconds since 1970. -/
def queryEpoch? (cs : List Char) : Option Timestamp := do
  let (negative, cs) := match cs with
    | '-' :: rest => (true, rest)
    | '+' :: rest => (false, rest)
    | rest => (false, rest)
  let (whole, rest) := leadingDigits cs
  if whole.isEmpty then none
  let fraction ← match rest with
    | [] => some []
    | '.' :: rest =>
      let (ds, rest) := leadingDigits rest
      if rest.isEmpty then some ds else none
    | _ => none
  -- The amount in units of `10 ^ -9` of a second or a millisecond.
  let used := (fraction.take 9)
  let amount : Nat := ofDigits whole * 1000000000 + ofDigits used * Nat.pow 10 (9 - used.length)
  let nanos : Int := if negative then -(amount : Int) else amount
  let micros : Int :=
    if 20000000000000000000 < amount then Int.fdiv (nanos + 500000) 1000000
    else Int.fdiv (nanos + 500) 1000
  if queryEpochRange (Int.fdiv micros 1000000) then
    Timestamp.ofInstant? (Timestamp.epoch + micros)
  else none

/-- Reads a time bound of a query. -/
def Timestamp.ofQuery? (s : String) : Option Timestamp :=
  match queryDateTime? s.toList with
  | some t => some t
  | none => queryEpoch? s.toList

end SensorRelay
