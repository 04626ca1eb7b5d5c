import SensorRelay.Number.Reading
import SensorRelay.Text.Split

/-!
# The command line

The first argument that is no option names a command; the arguments after it are the
command's. A long option may be shortened as long as it stays clear which is meant, and its
value may follow `=` or come as the next argument. After `--` nothing is an option. Arguments
that nobody knows are gathered and refused in the end, so that a mistake in a known option is
reported first.
-/

namespace SensorRelay

open Text

/-- What a process is asked to do. -/
inductive Command where
  | reconcile (writeBack : Bool)
  | processor
  | saver
  | run (writeBack : Bool)
  | api
  | simulate (interval : Option Int)
deriving DecidableEq

namespace Command

/-- Why there is no command to carry out: help was asked for, or the arguments are wrong. -/
inductive Refusal where
  | help
  | wrong (message : String)
deriving DecidableEq

/-- The name of the program. -/
def program : String := "telemetry-ingest"

/-- The names of the commands. -/
def names : List String := ["reconcile", "processor", "saver", "run", "api", "simulate"]

/-- The name of a command. -/
def name : Command → String
  | reconcile _ => "reconcile"
  | processor => "processor"
  | saver => "saver"
  | run _ => "run"
  | api => "api"
  | simulate _ => "simulate"

/-- The refusal that a program reports. -/
def refuse {α : Type} (program message : String) : Except Refusal α :=
  .error (.wrong (program ++ ": error: " ++ message))

/-! ## Options -/

/-- The options there are. -/
inductive Switch where
  | help
  | writeBack
  | interval
deriving DecidableEq

/-- The spellings of an option. -/
def Switch.spellings : Switch → List String
  | .help => ["-h", "--help"]
  | .writeBack => ["--write-back"]
  | .interval => ["--interval-ms"]

/-- The option in messages. -/
def Switch.label (s : Switch) : String := "/".intercalate s.spellings

/-- The refusal of what is given to an option. -/
def refuseSwitch {α : Type} (program : String) (s : Switch) (message : String) :
    Except Refusal α :=
  refuse program ("argument " ++ s.label ++ ": " ++ message)

/-- An option as it is written: its full spelling, and the text that follows in the same
argument, after `=` or directly. -/
structure Written where
  switch : Switch
  spelling : String
  attached : Option String
  marked : Bool

/-- What an argument is to a program with options. -/
inductive Shape where
  | plain
  | separator
  | unknown
  | option (w : Written)

/-- The spellings of all options. -/
def spellings (switches : List Switch) : List (Switch × String) :=
  switches.flatMap fun s => s.spellings.map fun spelling => (s, spelling)

/-- What stands before and after the first `=`. -/
def cutValue? (arg : String) : Option (String × String) :=
  (cutFirst? '=' arg.toList).map fun (a, b) => (String.ofList a, String.ofList b)

/-- Does a text start with another? -/
def startsWith (text lead : String) : Bool := lead.toList.isPrefixOf text.toList

/-- The options that a shortened long option may mean. -/
def longCandidates (known : List (Switch × String)) (arg : String) : List Written :=
  let (lead, value, marked) := match cutValue? arg with
    | some (lead, value) => (lead, some value, true)
    | none => (arg, none, false)
  (known.filter fun k => startsWith k.2 lead).map fun k => ⟨k.1, k.2, value, marked⟩

/-- The options that one dash may mean: a letter with a text right after it. -/
def shortCandidates (known : List (Switch × String)) (arg : String) : List Written :=
  let letter := String.ofList (arg.toList.take 2)
  known.filterMap fun k =>
    if k.2 = letter then some ⟨k.1, k.2, some (String.ofList (arg.toList.drop 2)), false⟩
    else if startsWith k.2 arg then some ⟨k.1, k.2, none, false⟩
    else none

/-- Does the text look like a negative number? -/
def looksNegative (arg : String) : Bool :=
  match arg.toList with
  | '-' :: cs =>
    let cs := if cs.getLast? = some '\n' then cs.dropLast else cs
    let isDigits := fun (ds : List Char) => !ds.isEmpty && ds.all fun c => (digitValue? c).isSome
    isDigits cs || match cutFirst? '.' cs with
      | some (whole, fraction) => (whole.isEmpty || isDigits whole) && isDigits fraction
      | none => false
  | _ => false

/-- An argument that is no option: a number, or a text with a space, may well be meant. -/
def unlisted (arg : String) : Shape :=
  if looksNegative arg || arg.toList.contains ' ' then .plain else .unknown

/-- The shape of an argument that starts with a dash and is no spelling of an option. -/
def shapeOfDashed (program : String) (known : List (Switch × String)) (arg : String) :
    Except Refusal Shape :=
  let candidates :=
    if startsWith arg "--" then longCandidates known arg else shortCandidates known arg
  match candidates with
  | [] => .ok (unlisted arg)
  | [w] => .ok (.option w)
  | ws => refuse program ("ambiguous option: " ++ arg ++ " could match "
      ++ ", ".intercalate (ws.map (·.spelling)))

/-- The option with exactly this spelling. -/
def spelled? (known : List (Switch × String)) (spelling : String) (attached : Option String) :
    Option Shape :=
  (known.find? fun k => k.2 == spelling).map fun k =>
    .option ⟨k.1, spelling, attached, attached.isSome⟩

/-- The shape of an argument in front of `--`. -/
def shapeOf (program : String) (known : List (Switch × String)) (arg : String) :
    Except Refusal Shape :=
  if arg.length ≤ 1 || !startsWith arg "-" then .ok .plain
  else
    match (spelled? known arg none).or
        ((cutValue? arg).bind fun (spelling, value) => spelled? known spelling (some value)) with
    | some shape => .ok shape
    | none => shapeOfDashed program known arg

/-- The shapes of arguments. -/
def shapes (program : String) (known : List (Switch × String)) :
    List String → Except Refusal (List (String × Shape))
  | [] => .ok []
  | arg :: args =>
    if arg = "--" then .ok ((arg, .separator) :: args.map fun a => (a, .plain))
    else do
      let shape ← shapeOf program known arg
      return (arg, shape) :: (← shapes program known args)

/-! ## Help -/

/-- What letters after `-h` come to: further letters are looked at only if they ask for help
again, and none takes a value. -/
def helpLetters (program : String) (marked : Bool) : List Char → Refusal
  | [] => wrongValue []
  | c :: cs =>
    if marked || c == '-' then wrongValue (c :: cs)
    else if c != 'h' then .help
    else match cs with
      | [] => .help
      | '=' :: value => wrongValue value
      | cs => helpLetters program false cs
where
  /-- The refusal of a value. -/
  wrongValue (value : List Char) : Refusal :=
    .wrong (program ++ ": error: argument " ++ Switch.help.label ++ ": ignored explicit argument "
      ++ quoted (String.ofList value))

/-- What asking for help comes to. -/
def askHelp (program : String) (w : Written) : Refusal :=
  match w.attached with
  | none => .help
  | some value =>
    helpLetters program (w.marked || w.spelling != "-h") value.toList

/-! ## The arguments of a command -/

/-- What the arguments of a command have set so far, and those that nobody knows. -/
structure Given where
  writeBack : Bool
  interval : Option Int
  unknown : List String

/-- Sets the interval. -/
def setInterval (program : String) (g : Given) (value : String) : Except Refusal Given :=
  match Number.readInteger value with
  | .ok n => .ok { g with interval := some n }
  | .error _ => refuseSwitch program .interval ("invalid int value: " ++ quoted value)

/-- Sets what an option says on its own, or with the text attached to it. -/
def takeOption (program : String) (g : Given) (w : Written) : Except Refusal Given :=
  match w.switch, w.attached with
  | .help, _ => .error (askHelp program w)
  | .writeBack, none => .ok { g with writeBack := true }
  | .writeBack, some value =>
    refuseSwitch program .writeBack ("ignored explicit argument " ++ quoted value)
  | .interval, some value => setInterval program g value
  | .interval, none => refuseSwitch program .interval "expected one argument"

/-- Reads the arguments of a command in order; an interval may be the next argument. -/
def readOptions (program : String) : Given → List (String × Shape) → Except Refusal Given
  | g, [] => .ok g
  | g, (_, .option ⟨.interval, _, none, _⟩) :: (value, .plain) :: rest => do
    readOptions program (← setInterval program g value) rest
  | g, (arg, shape) :: rest =>
    match shape with
    | .option w => do readOptions program (← takeOption program g w) rest
    | _ => readOptions program { g with unknown := g.unknown ++ [arg] } rest

/-- The options of a command besides help. -/
def switchesOf (name : String) : List Switch :=
  if name = "reconcile" ∨ name = "run" then [.help, .writeBack]
  else if name = "simulate" then [.help, .interval]
  else [.help]

/-- The command with what its arguments have set. -/
def ofName (name : String) (g : Given) : Command :=
  if name = "reconcile" then .reconcile g.writeBack
  else if name = "processor" then .processor
  else if name = "saver" then .saver
  else if name = "run" then .run g.writeBack
  else if name = "api" then .api
  else .simulate g.interval

/-- Reads the name of a command and its arguments; `unknown` are arguments in front of it. -/
def ofArguments (unknown : List String) (name : String) (args : List String) :
    Except Refusal Command :=
  if !names.contains name then
    refuse program ("argument command: invalid choice: " ++ quoted name ++ " (choose from "
      ++ ", ".intercalate (names.map quoted) ++ ")")
  else do
    let own := program ++ " " ++ name
    let shaped ← shapes own (spellings (switchesOf name)) args
    let g ← readOptions own ⟨false, none, []⟩ shaped
    let unknown := unknown ++ g.unknown
    if unknown.isEmpty then return ofName name g
    else refuse program ("unrecognized arguments: " ++ " ".intercalate unknown)

/-- Finds the command behind the options of the program itself. -/
def find (unknown : List String) : List (String × Shape) → Except Refusal Command
  | [] => refuse program "the following arguments are required: command"
  | (arg, shape) :: rest =>
    match shape with
    | .option w => .error (askHelp program w)
    | .unknown => find (unknown ++ [arg]) rest
    | .separator =>
      if rest.isEmpty then find unknown [] else ofArguments unknown arg (rest.map (·.1))
    | .plain => ofArguments unknown arg (rest.map (·.1))

/-- Reads the arguments of a process. -/
def parse (args : List String) : Except Refusal Command := do
  find [] (← shapes program (spellings [.help]) args)

end Command
end SensorRelay
