import ColonySearch.Settings.Library
import ColonySearch.Settings.Reading
import ColonySearch.Settings.Variables

/-!
# Building settings

The library that the program runs with. Arguments are found by their names in any case, and of several the first counts; of variables the last counts. Only the value that wins is read, so a bad value that is overruled does no harm, and all bad values that win are reported together.
-/

namespace ColonySearch.Settings

/-- Whether an argument of that name sets the field; the case of the name does not matter. -/
def Field.isNamed (f : Field) (name : String) : Bool := Text.lower name == f.name

/-- Whether a variable of that name sets the field; the case of the name does not matter. -/
def Field.isSetBy (f : Field) (variableName : String) : Bool :=
  Text.lower variableName == Text.lower (variableStart ++ f.name)

/-- The first of the arguments that set a field. -/
def argumentGiven (arguments : List (String × Raw)) (f : Field) : Option Raw :=
  (arguments.find? fun entry => f.isNamed entry.1).map (·.2)

/-- The value of the last of the variables that set a field, if it has one. -/
def lastGiven (vars : Variables) (f : Field) : Option Raw :=
  (vars.reverse.find? fun entry => f.isSetBy entry.1).bind fun entry => entry.2.map .text

/-- Reads a value for the field. -/
def Field.read : (f : Field) → Raw → Except Fault f.Value
  | .appName | .defaultSearchTerm | .logLevel => readText
  | .debounceTicks => readPositive
  | .settingsFile => readPath
  | .worldFlagEnabled => readBool

/-- The value of a field as an argument can give it. -/
def Field.raw : (f : Field) → f.Value → Raw
  | .appName | .defaultSearchTerm | .logLevel => .text
  | .debounceTicks => .int
  | .settingsFile => .path
  | .worldFlagEnabled => .bool

/-- What becomes of a field: the value given for it is read, or else its default. -/
def Field.outcome (given : Field → Option Raw) (f : Field) : Except Fault f.Value :=
  f.read ((given f).getD (f.raw f.unset))

def faultOf {α : Type} (f : Field) : Except Fault α → List (Field × Fault)
  | .ok _ => []
  | .error fault => [(f, fault)]

/-- The faults of all fields in the order of their names. -/
def faultsOf (given : Field → Option Raw) : List (Field × Fault) :=
  Field.all.flatMap fun f => faultOf f (f.outcome given)

/-- The settings of the values given for the fields, or the faults. -/
def readAll (given : Field → Option Raw) : Except (List (Field × Fault)) Settings :=
  match faultsOf given with
  | [] => .ok (ofValues fun f => (f.outcome given).toOption.getD f.unset)
  | faults => .error faults

namespace Sources

variable (s : Sources Raw)

def environmentVariables : Variables := s.environment.map fun (name, value) => (name, some value)

def textVariables : Variables := Variables.ofText s.environment s.text

/-- The value that wins for a field, if any source gives one. -/
def winning (f : Field) : Option Raw :=
  (argumentGiven s.arguments f).or
    ((lastGiven s.environmentVariables f).or (lastGiven s.textVariables f))

def resolve : Except (List (Field × Fault)) Settings := readAll s.winning

end Sources

/-- The library that the program runs with. -/
def standard : Library where
  Raw := Raw
  Fault := Fault
  ofText := .text
  ofValue := Field.raw
  isNamed := Field.isNamed
  assignments environment text := Variables.given environment [] (Assignment.readAll text)
  fromArguments s := argumentGiven s.arguments
  fromEnvironment s := lastGiven s.environmentVariables
  fromText s := lastGiven s.textVariables
  merge first second f := (first f).or (second f)
  convert := Field.read
  validate := readAll
  build := Sources.resolve

end ColonySearch.Settings
