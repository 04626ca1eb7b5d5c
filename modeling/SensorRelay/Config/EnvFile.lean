import SensorRelay.Config.Variables
import SensorRelay.Error
import SensorRelay.Files
import SensorRelay.Text.Blank

/-!
# Environment files

An environment file sets variables, one per entry: a name, `=` and a value, with `export` in
front if one likes. A value stands between quotes, where it may go over several lines and has
escapes, or reaches to a blank with `#` or to the end of its line. A name without `=` sets
nothing, and an entry that cannot be read is skipped to the end of its line. `$` with a name
in braces stands for the variable's value, or for a text after `:-` if it has none.

The file never replaces a variable that the process already has.
-/

namespace SensorRelay.Config

open Text

/-- An entry of the file: a name, and the value if there is an `=`. -/
structure Entry where
  name : String
  value : Option String
deriving DecidableEq

namespace Entry

/-! ## Lines -/

/-- The text with `\n` for every line end. -/
def plainLines : List Char → List Char
  | '\r' :: '\n' :: cs => '\n' :: plainLines cs
  | '\r' :: cs => '\n' :: plainLines cs
  | c :: cs => c :: plainLines cs
  | [] => []

/-- A blank that does not end the line. -/
def isInlineBlank (c : Char) : Bool := isBlank c && c != '\n'

/-- What follows the blanks of the line. -/
def skipBlanks (cs : List Char) : List Char := cs.dropWhile isInlineBlank

/-- What follows the rest of the line. -/
def skipLine (cs : List Char) : List Char := (cs.dropWhile (· != '\n')).drop 1

/-- What follows the end of the line, after a comment if there is one; nothing else may stand
there. -/
def endLine? (cs : List Char) : Option (List Char) :=
  match skipBlanks cs with
  | [] => some []
  | '\n' :: rest => some rest
  | '#' :: rest => some (skipLine rest)
  | _ => none

/-! ## Quotes -/

/-- The text up to the first quote that no backslash precedes, and what follows the quote. -/
def closeAtFree (quote : Char) : Bool → List Char → Option (List Char × List Char)
  | _, [] => none
  | escaped, c :: cs =>
    if c = quote ∧ !escaped then some ([], cs)
    else (closeAtFree quote (c == '\\') cs).map fun (inside, rest) => (c :: inside, rest)

/-- What stands between quotes: up to the first free quote, or else up to the last quote. -/
def quotedText? (quote : Char) (cs : List Char) : Option (List Char × List Char) :=
  (closeAtFree quote false cs).or (cutLast? quote cs)

/-- The character that a letter after a backslash stands for between double quotes. -/
def doubleEscape? : Char → Option Char
  | '\\' => some '\\'
  | '\'' => some '\''
  | '"' => some '"'
  | 'a' => some (Char.ofNat 7)
  | 'b' => some (Char.ofNat 8)
  | 'f' => some (Char.ofNat 12)
  | 'n' => some '\n'
  | 'r' => some '\r'
  | 't' => some '\t'
  | 'v' => some (Char.ofNat 11)
  | _ => none

/-- Between single quotes only the backslash and the single quote are escaped. -/
def singleEscape? : Char → Option Char
  | '\\' => some '\\'
  | '\'' => some '\''
  | _ => none

/-- The text with its escapes resolved; a backslash in front of anything else stays. -/
def resolveEscapes (escape? : Char → Option Char) : List Char → List Char
  | '\\' :: c :: cs =>
    match escape? c with
    | some d => d :: resolveEscapes escape? cs
    | none => '\\' :: resolveEscapes escape? (c :: cs)
  | c :: cs => c :: resolveEscapes escape? cs
  | [] => []

/-! ## Entries -/

/-- The text in front of a comment, which starts with blanks and `#`. -/
def beforeComment : List Char → List Char
  | [] => []
  | c :: cs =>
    if isBlank c && (cs.dropWhile isBlank).head? == some '#' then [] else c :: beforeComment cs

/-- A value without quotes: the line without its comment and the blanks at its end. -/
def bareValue (line : List Char) : List Char :=
  ((beforeComment line).reverse.dropWhile isBlank).reverse

/-- Reads a value. -/
def value? : List Char → Option (List Char × List Char)
  | '\'' :: cs =>
    (quotedText? '\'' cs).map fun (inside, rest) => (resolveEscapes singleEscape? inside, rest)
  | '"' :: cs =>
    (quotedText? '"' cs).map fun (inside, rest) => (resolveEscapes doubleEscape? inside, rest)
  | cs => some (bareValue (cs.takeWhile (· != '\n')), cs.dropWhile (· != '\n'))

/-- What follows the word `export` and blanks, if they are there. -/
def skipExport (cs : List Char) : List Char :=
  match dropLead? "export".toList cs with
  | some rest => if rest.head?.any isInlineBlank then skipBlanks rest else cs
  | none => cs

/-- May the character stand in a name without quotes? -/
def isNameChar (c : Char) : Bool :=
  c != '=' && c != '#' && !isBlank c

/-- Reads a name: none in front of a comment. -/
def name? : List Char → Option (Option (List Char) × List Char)
  | '#' :: cs => some (none, '#' :: cs)
  | '\'' :: cs =>
    match cutFirst? '\'' cs with
    | some (name, rest) => if name.isEmpty then none else some (some name, rest)
    | none => none
  | cs =>
    let name := cs.takeWhile isNameChar
    if name.isEmpty then none else some (some name, cs.drop name.length)

/-- What one attempt at an entry comes to: an entry or nothing but a comment, and the rest; or
the place from which the line is skipped. -/
inductive Attempt where
  | read (entry : Option Entry) (rest : List Char)
  | skip (rest : List Char)

/-- Ends an entry with its line. -/
def close (entry : Option Entry) (cs : List Char) : Attempt :=
  match endLine? cs with
  | some rest => .read entry rest
  | none => .skip cs

/-- The entry for a name, if there is one. -/
def ofName (name : Option (List Char)) (value : Option (List Char)) : Option Entry :=
  name.map fun n => ⟨String.ofList n, value.map String.ofList⟩

/-- Reads the entry that the text starts with. -/
def attempt (cs : List Char) : Attempt :=
  let cs := skipExport cs
  match name? cs with
  | none => .skip cs
  | some (name, rest) =>
    match skipBlanks rest with
    | '=' :: rest =>
      let rest := skipBlanks rest
      match value? rest with
      | none => .skip rest
      | some (value, rest) => close (ofName name (some value)) rest
    | rest => close (ofName name none) rest

/-- Reads entries; each takes at least one character. -/
def readMany : Nat → List Char → List Entry
  | 0, _ => []
  | fuel + 1, cs =>
    match cs.dropWhile isBlank with
    | [] => []
    | cs =>
      match attempt cs with
      | .read entry rest => entry.toList ++ readMany fuel rest
      | .skip rest => readMany fuel (skipLine rest)

/-- The entries of a file. -/
def ofText (text : String) : List Entry :=
  let cs := plainLines text.toList
  readMany (cs.length + 1) cs

end Entry

/-! ## Variables in values -/

/-- The value for `name` in braces with an optional text after `:-`: what follows the brace,
and the name with that text. -/
def reference? (cs : List Char) : Option (List Char × List Char × List Char) :=
  let name := cs.takeWhile fun c => c != '}' && c != ':'
  match cs.drop name.length with
  | '}' :: rest => some (name, [], rest)
  | ':' :: '-' :: more =>
    (cutFirst? '}' more).map fun (fallback, rest) => (name, fallback, rest)
  | _ => none

/-- Replaces references to variables; `lookup` gives a variable's value. -/
def expand (lookup : String → Option String) : Nat → List Char → List Char
  | 0, cs => cs
  | _, [] => []
  | fuel + 1, c :: cs =>
    match c, cs with
    | '$', '{' :: rest =>
      match reference? rest with
      | some (name, fallback, after) =>
        (((lookup (String.ofList name)).map String.toList).getD fallback)
          ++ expand lookup fuel after
      | none => '$' :: expand lookup fuel cs
    | _, _ => c :: expand lookup fuel cs

/-- What a reference in an environment file stands for: a variable of the process, then what
the file has set so far; a name without value is empty. -/
def lookupIn (process : Variables) (seen : List Entry) (name : String) : Option String :=
  (process.find? name).or ((seen.find? fun e => e.name == name).map fun e => e.value.getD "")

/-- The entries with their references resolved; the last entry comes first. -/
def resolve (process : Variables) (seen : List Entry) : List Entry → List Entry
  | [] => seen
  | e :: es =>
    let value := e.value.map fun v =>
      String.ofList (expand (lookupIn process seen) v.length v.toList)
    resolve process (⟨e.name, value⟩ :: seen) es

/-! ## Setting variables -/

/-- The character that ends a text of the system. -/
def hasNul (s : String) : Bool := s.toList.contains (Char.ofNat 0)

/-- Refuses a variable that a process cannot have. -/
def checkVariable (name value : String) : Except Failure Unit :=
  if hasNul name || hasNul value then .error (.invalidValue "embedded null byte")
  else if name.toList.contains '=' then
    .error (.invalidValue "illegal environment variable name")
  else .ok ()

/-- The names of entries in the order of their first mention. -/
def firstNames (es : List Entry) : List String := (es.map (·.name)).eraseDups

/-- The variables of the entries that the process does not have; the first entry of a name
counts. -/
def newVariables (process : Variables) (latest : List Entry) :
    List String → Except Failure Variables
  | [] => .ok []
  | name :: names => do
    match process.find? name, (latest.find? fun e => e.name == name).bind (·.value) with
    | none, some value =>
      checkVariable name value
      return (name, value) :: (← newVariables process latest names)
    | _, _ => newVariables process latest names

/-- The variables of a process with those of an environment file. -/
def Variables.withFile (process : Variables) (text : String) : Except Failure Variables := do
  let entries := Entry.ofText text
  let more ← newVariables process (resolve process [] entries) (firstNames entries)
  return process.extend more

/-- The environment file of a process: the usual one, unless a variable names another; none, if
the variable is empty. -/
def Variables.file? (process : Variables) : Option String :=
  let path := process.get "IOT_ENV_FILE" ".env"
  if path.isEmpty then none else some path

/-- The variables of a process with those of its environment file, if it has one. -/
def Variables.load (process : Variables) (folder : Folder) : Except Failure Variables :=
  match process.file? with
  | none => .ok process
  | some path =>
    match folder.read path with
    | .error _ => .ok process
    | .ok bytes =>
      match Text.ofUtf8? bytes with
      | some text => process.withFile text
      | none => .error (.invalidValue "invalid UTF-8")

end SensorRelay.Config
