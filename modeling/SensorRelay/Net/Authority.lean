import SensorRelay.Error
import SensorRelay.Net.Host
import SensorRelay.Text.Casing

/-!
# The authority of a URL

The authority of a URL is what stands between `//` and the path: user information, a host and
a port. A URL is read leniently: blanks and controls in front of it and line ends and tabs
anywhere do not count, and a text without `//` has no authority. Only brackets that do not
match, a host between them that is no address, and characters that stand for delimiters make
it unreadable; the port is checked when it is asked for.
-/

namespace SensorRelay.Net

open Text

/-- A host, in small letters up to a zone, and the text of the port, if they are there. -/
structure Authority where
  host : Option String
  port : Option String
deriving DecidableEq

/-! ## Finding the authority -/

/-- The URL without the characters that do not count. -/
def cleanUrl (cs : List Char) : List Char :=
  (cs.dropWhile fun c => c.toNat ≤ 0x20).filter fun c => c != '\t' && c != '\r' && c != '\n'

/-- May the character stand in a scheme? -/
def isSchemeChar (c : Char) : Bool :=
  c.isAlphanum || c == '+' || c == '-' || c == '.'

/-- What follows the scheme, if there is one. -/
def afterScheme (cs : List Char) : List Char :=
  match cutFirst? ':' cs with
  | some (c :: scheme, rest) =>
    if c.isAlpha && scheme.all isSchemeChar then rest else cs
  | _ => cs

/-- Does the character end the authority? -/
def endsAuthority (c : Char) : Bool :=
  c == '/' || c == '?' || c == '#'

/-- The text of the authority, empty if there is none. -/
def authorityChars (url : String) : List Char :=
  match afterScheme (cleanUrl url.toList) with
  | '/' :: '/' :: rest => rest.takeWhile fun c => !endsAuthority c
  | _ => []

/-! ## Checks -/

/-- The characters that stand for texts with one of the delimiters `/`, `?`, `#`, `@` and `:`
under compatibility. -/
def disguisedDelimiters : List Nat :=
  [0x2047, 0x2048, 0x2049, 0x2100, 0x2101, 0x2105, 0x2106, 0x2A74, 0xFE13, 0xFE16, 0xFE55,
   0xFE56, 0xFE5F, 0xFE6B, 0xFF03, 0xFF0F, 0xFF1A, 0xFF1F, 0xFF20]

/-- The host between brackets must be an address, and not one of the fourth version. -/
def checkBracketed (host : List Char) : Except Failure Unit :=
  if host.head? = some 'v' then
    if isFutureAddress host then .ok () else .error (.invalidValue "IPvFuture address is invalid")
  else if isIPv4 host then .error (.invalidValue "An IPv4 address cannot be in brackets")
  else if isIPv6 host then .ok ()
  else .error (.invalidValue (quoted (String.ofList host)
    ++ " does not appear to be an IPv4 or IPv6 address"))

/-- Brackets come in pairs. -/
def checkBrackets (cs : List Char) : Except Failure Unit :=
  if cs.contains '[' != cs.contains ']' then .error (.invalidValue "Invalid IPv6 URL")
  else match cutFirst? '[' cs with
    | none => .ok ()
    | some (_, rest) => checkBracketed (rest.takeWhile (· != ']'))

/-- No character may stand for a delimiter. -/
def checkDisguise (cs : List Char) : Except Failure Unit :=
  if cs.any fun c => disguisedDelimiters.contains c.toNat then
    .error (.invalidValue ("netloc '" ++ String.ofList cs
      ++ "' contains invalid characters under NFKC normalization"))
  else .ok ()

/-! ## Parts -/

/-- The text in front of the first `sep` and after it, which is empty without one. -/
def cutAt (sep : Char) (cs : List Char) : List Char × List Char :=
  (cutFirst? sep cs).getD (cs, [])

/-- Host and port, which stand after the last `@`. -/
def hostAndPort (cs : List Char) : List Char × List Char :=
  let info := ((cutLast? '@' cs).map (·.2)).getD cs
  match cutFirst? '[' info with
  | some (_, bracketed) =>
    let (host, rest) := cutAt ']' bracketed
    (host, (cutAt ':' rest).2)
  | none => cutAt ':' info

/-- The host in small letters; a zone stays as it is. -/
def lowerHost (cs : List Char) : String :=
  match cutFirst? '%' cs with
  | none => lower (String.ofList cs)
  | some (host, zone) => lower (String.ofList host) ++ "%" ++ String.ofList zone

/-- Reads the authority of a URL. -/
def Authority.ofUrl (url : String) : Except Failure Authority := do
  let cs := authorityChars url
  checkBrackets cs
  checkDisguise cs
  let (host, port) := hostAndPort cs
  return ⟨if host.isEmpty then none else some (lowerHost host),
    if port.isEmpty then none else some (String.ofList port)⟩

end SensorRelay.Net
