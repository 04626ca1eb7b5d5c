import SensorRelay.Text.Digit
import SensorRelay.Text.Encoding
import SensorRelay.Text.Split

/-!
# Host addresses

A host between brackets is an address of the sixth version of the protocol, `isIPv6`, or of a
version to come, `isFutureAddress`. An address has eight groups of up to four hexadecimal
digits, the last two of which may be written as an address of the fourth version, `isIPv4`;
one `::` stands for one or more groups of zeros.
-/

namespace SensorRelay.Net

open Text

/-- A decimal number up to 255 without leading zeros. -/
def isOctet (cs : List Char) : Bool :=
  match readNat? cs with
  | some n => n ≤ 255 && cs == natChars n
  | none => false

/-- Four octets with dots between them. -/
def isIPv4 (cs : List Char) : Bool :=
  let octets := splitOn '.' cs
  octets.length == 4 && octets.all isOctet

/-- A group of one to four hexadecimal digits. -/
def isGroup (cs : List Char) : Bool :=
  !cs.isEmpty && cs.length ≤ 4 && cs.all fun c => (hexValue? c).isSome

/-- The parts between colons, with an address of the fourth version at the end taken as the
two groups that it stands for. -/
def groupParts? (parts : List (List Char)) : Option (List (List Char)) :=
  match parts.getLast? with
  | some last =>
    if !last.contains '.' then some parts
    else if isIPv4 last then some (parts.dropLast ++ [['0'], ['0']])
    else none
  | none => none

/-- The groups on one side of `::`; a colon at the very end of the address has nothing beyond
it. -/
def sideGroups (side : List (List Char)) : List (List Char) :=
  if side == [[]] then [] else side

/-- Eight groups, or fewer with one `::`. -/
def areGroups (parts : List (List Char)) : Bool :=
  match (parts.drop 1).dropLast.findIdx? List.isEmpty with
  | none => parts.length == 8 && parts.all isGroup
  | some k =>
    let before := sideGroups (parts.take (k + 1))
    let after := sideGroups (parts.drop (k + 2))
    before.length + after.length ≤ 7 && before.all isGroup && after.all isGroup

/-- The address and the zone after `%`, which must not be empty. -/
def dropZone? (cs : List Char) : Option (List Char) :=
  match cutFirst? '%' cs with
  | none => some cs
  | some (address, zone) =>
    if zone.isEmpty || zone.contains '%' then none else some address

/-- An address of the sixth version. -/
def isIPv6 (cs : List Char) : Bool :=
  !cs.contains '/' &&
  match dropZone? cs with
  | none => false
  | some address =>
    let parts := splitOn ':' address
    3 ≤ parts.length && (groupParts? parts).any areGroups

/-- A `v`, hexadecimal digits, a dot and at least one character. -/
def isFutureAddress (cs : List Char) : Bool :=
  match cs with
  | 'v' :: rest =>
    match cutFirst? '.' rest with
    | some (version, address) =>
      !version.isEmpty && version.all (fun c => (hexValue? c).isSome) && !address.isEmpty
    | none => false
  | _ => false

end SensorRelay.Net
