/-!
# Variables of the environment

A process is configured by variables, each a name with a text. Of two variables with one name
the first counts.
-/

namespace SensorRelay.Config

/-- The variables of a process. -/
abbrev Variables := List (String × String)

namespace Variables

/-- The text of a variable. -/
def find? (v : Variables) (name : String) : Option String :=
  (List.find? (fun p => p.1 == name) v).map (·.2)

/-- The text of a variable, or the usual one. -/
def get (v : Variables) (name usual : String) : String :=
  (v.find? name).getD usual

/-- The text of a variable unless it is empty. -/
def given? (v : Variables) (name : String) : Option String :=
  (v.find? name).filter fun s => !s.isEmpty

/-- The variables with more of them, whose names are not taken yet. -/
def extend (v more : Variables) : Variables := v ++ more

end Variables
end SensorRelay.Config
