import ColonySearch.Settings.Basic
import ColonySearch.Settings.PlainText
import ColonySearch.Text.Case

/-!
# Settings libraries

The program declares its settings and has a library build them from arguments, variables of the environment and a text of assignments. A library is a parameter here. `Library` names its parts and `Library.Lawful` the documented behaviour of each part that is relied upon: what a plain text assigns, what a source gives a field, that what the sources give is merged by their priority and validated field by field, and that a value of the declared type within its bound is taken as it is. How values are converted is left to the library, and so is how a text is read in which not all lines are plain.
-/

namespace ColonySearch.Settings

/-- What settings are built from. Arguments can be values of any kind. -/
structure Sources (ρ : Type) where
  arguments : List (String × ρ) := []
  environment : List (String × String) := []
  /-- A text of assignments, one a line. -/
  text : String := ""

structure Library where
  /-- Values as sources give them. -/
  Raw : Type
  /-- Why a value is refused. -/
  Fault : Type
  ofText : String → Raw
  ofValue : (f : Field) → f.Value → Raw
  /-- Whether an argument of that name is meant for the field. -/
  isNamed : Field → String → Bool
  /-- The names that the lines of a text assign to, in order, each with its value if the line gives one. Values may refer to the environment. -/
  assignments : (environment : List (String × String)) → (text : String) → List (String × Option String)
  fromArguments : Sources Raw → Field → Option Raw
  fromEnvironment : Sources Raw → Field → Option Raw
  fromText : Sources Raw → Field → Option Raw
  /-- What two sources give together, the first of which has priority. -/
  merge : (Field → Option Raw) → (Field → Option Raw) → Field → Option Raw
  /-- Converts a value to the type of the field and checks its bound. -/
  convert : (f : Field) → Raw → Except Fault f.Value
  /-- Turns what was given for the fields into settings, or reports the fields whose values are refused. -/
  validate : (Field → Option Raw) → Except (List (Field × Fault)) Settings
  build : Sources Raw → Except (List (Field × Fault)) Settings

namespace Library

variable (lib : Library)

/-! ### What the sources give -/

/-- An argument gives the field a value. -/
def ArgumentGives (s : Sources lib.Raw) (f : Field) (raw : lib.Raw) : Prop :=
  ∃ name, (name, raw) ∈ s.arguments ∧ lib.isNamed f name = true

/-- A variable of the environment gives the field a value; the case of its name does not matter. -/
def EnvironmentGives (s : Sources lib.Raw) (f : Field) (raw : lib.Raw) : Prop :=
  ∃ name text, (name, text) ∈ s.environment ∧ Text.lower name = Text.lower (variableStart ++ f.name) ∧
    raw = lib.ofText text

/-- The last line that assigns to the variable of the field gives it a value; the case of its name does not matter. -/
def TextGives (s : Sources lib.Raw) (f : Field) (raw : lib.Raw) : Prop :=
  ∃ before name text after, lib.assignments s.environment s.text = before ++ (name, some text) :: after ∧
    Text.lower name = Text.lower (variableStart ++ f.name) ∧
    (∀ entry ∈ after, Text.lower entry.1 ≠ Text.lower (variableStart ++ f.name)) ∧
    raw = lib.ofText text

/-- The last of the lines that assign to the variable of the field assigns it the value. -/
def LinesGive (lines : List TextLine) (f : Field) (value : String) : Prop :=
  ∃ before name after, lines = before ++ .assignment name value :: after ∧
    Text.lower name = Text.lower (variableStart ++ f.name) ∧
    ∀ other text, .assignment other text ∈ after → Text.lower other ≠ Text.lower (variableStart ++ f.name)

/-- No source has two different spellings of one name. A text may have several lines for one spelling. -/
structure Consistent (s : Sources lib.Raw) : Prop where
  arguments : ∀ f, ∀ a ∈ s.arguments, ∀ b ∈ s.arguments,
    lib.isNamed f a.1 = true → lib.isNamed f b.1 = true → a = b
  environment : ∀ a ∈ s.environment, ∀ b ∈ s.environment, Text.lower a.1 = Text.lower b.1 → a = b
  text : ∀ a ∈ lib.assignments s.environment s.text, ∀ b ∈ lib.assignments s.environment s.text,
    Text.lower a.1 = Text.lower b.1 → a.1 = b.1

/-! ### What is documented -/

/-- What a field is validated from: the value that was given for it, or else its default. -/
def taken (given : Field → Option lib.Raw) (f : Field) : lib.Raw :=
  (given f).getD (lib.ofValue f f.unset)

structure Lawful : Prop where
  /-- The name of a field is meant for this field and for no other. -/
  isNamed : ∀ {f g : Field}, lib.isNamed f g.name = true ↔ f = g
  /-- Of a plain text every line is read as it stands. -/
  assignments : ∀ {environment} {lines : List TextLine}, (∀ line ∈ lines, line.Plain) →
    lib.assignments environment (TextLine.join lines) = lines.filterMap TextLine.assigned?
  fromArguments : ∀ {s f raw}, lib.Consistent s →
    (lib.fromArguments s f = some raw ↔ lib.ArgumentGives s f raw)
  fromEnvironment : ∀ {s f raw}, lib.Consistent s →
    (lib.fromEnvironment s f = some raw ↔ lib.EnvironmentGives s f raw)
  fromText : ∀ {s f raw}, lib.Consistent s → (lib.fromText s f = some raw ↔ lib.TextGives s f raw)
  /-- Of two values for one field the one from the first source is kept. -/
  merge : ∀ first second f, lib.merge first second f = (first f).or (second f)
  /-- A value of the declared type is taken as it is if it is within the bound. -/
  convert_ofValue : ∀ {f : Field} {x : f.Value}, f.Admits x → lib.convert f (lib.ofValue f x) = .ok x
  /-- No value outside its bound is let through. -/
  admits : ∀ {f : Field} {raw} {x : f.Value}, lib.convert f raw = .ok x → f.Admits x
  /-- Settings hold what all their fields were converted to, defaults included. -/
  validate_ok : ∀ {given cfg}, lib.validate given = .ok cfg ↔
    ∀ f, lib.convert f (lib.taken given f) = .ok (cfg.value f)
  /-- All refused values are reported, each field once. -/
  validate_error : ∀ {given faults}, lib.validate given = .error faults →
    (faults.map (·.1)).Nodup ∧
      ∀ f fault, (f, fault) ∈ faults ↔ lib.convert f (lib.taken given f) = .error fault
  /-- Arguments come before the environment, and this before the text. -/
  build : ∀ s, lib.build s =
    lib.validate (lib.merge (lib.fromArguments s) (lib.merge (lib.fromEnvironment s) (lib.fromText s)))

end Library

end ColonySearch.Settings
