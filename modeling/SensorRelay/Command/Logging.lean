import SensorRelay.Error

/-!
# The log

A process writes a log from the level on that its settings name. The name is looked up among the
constants of the logging library, and one that is no constant stands for the usual level. Two of
the constants are no levels (`notLevels`): with one of their names the log cannot be set up.
-/

namespace SensorRelay

/-- The usual form of a line of the log. -/
def lineForm : String := "%(levelname)s:%(name)s:%(message)s"

/-- The styles of forms, each with its usual form, as a failure shows them. -/
def lineStyles : String :=
  "\x7b'%': (<class 'logging.PercentStyle'>, '%(levelname)s:%(name)s:%(message)s'), "
    ++ "'\x7b': (<class 'logging.StrFormatStyle'>, "
    ++ "'\x7blevelname\x7d:\x7bname\x7d:\x7bmessage\x7d'), "
    ++ "'$': (<class 'logging.StringTemplateStyle'>, "
    ++ "'$\x7blevelname\x7d:$\x7bname\x7d:$\x7bmessage\x7d')\x7d"

/-- The constants in capitals that are no levels, with the failure of a log that is set up with
one. -/
def notLevels : List (String × Failure) :=
  [("BASIC_FORMAT", .invalidValue ("Unknown level: " ++ Text.quoted lineForm)),
   ("_STYLES", .invalidType ("Level not an integer or a valid string: " ++ lineStyles))]

/-- Refuses the name of a constant that is no level. -/
def checkLogLevel (name : String) : Except Failure Unit :=
  match notLevels.lookup name with
  | some f => .error f
  | none => .ok ()

end SensorRelay
