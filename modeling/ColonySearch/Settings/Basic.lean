import ColonySearch.Path

/-!
# Settings

The six settings of the program as it declares them: their names, their types with the one bound that is set, and their defaults. Variables that set them have names of their own.
-/

namespace ColonySearch

structure Settings where
  appName : String := "rim-search"
  logLevel : String := "INFO"
  /-- The term a new session starts with. -/
  defaultSearchTerm : String := "-."
  /-- The ticks of quiet after the last edit before a search runs. -/
  debounceTicks : Int := 40
  /-- Whether `<` is the flag of the world map. -/
  worldFlagEnabled : Bool := false
  /-- Where the stored default term lives. -/
  settingsFile : Path := .ofText "~/.config/rim-search/settings.json"
deriving DecidableEq, Repr

namespace Settings

inductive Field where
  | appName
  | debounceTicks
  | defaultSearchTerm
  | logLevel
  | settingsFile
  | worldFlagEnabled
deriving DecidableEq, Repr

def Field.name : Field → String
  | .appName => "app_name"
  | .debounceTicks => "debounce_ticks"
  | .defaultSearchTerm => "default_search_term"
  | .logLevel => "log_level"
  | .settingsFile => "settings_file"
  | .worldFlagEnabled => "world_flag_enabled"

/-- The fields in the order of their names. -/
def Field.all : List Field :=
  [.appName, .debounceTicks, .defaultSearchTerm, .logLevel, .settingsFile, .worldFlagEnabled]

theorem Field.mem_all (f : Field) : f ∈ Field.all := by
  cases f <;> decide

/-- What the names of variables that set a field start with. -/
def variableStart : String := "RIM_SEARCH_"

/-! ### Fields one by one -/

abbrev Field.Value : Field → Type
  | .appName | .defaultSearchTerm | .logLevel => String
  | .debounceTicks => Int
  | .settingsFile => Path
  | .worldFlagEnabled => Bool

def value (cfg : Settings) : (f : Field) → f.Value
  | .appName => cfg.appName
  | .debounceTicks => cfg.debounceTicks
  | .defaultSearchTerm => cfg.defaultSearchTerm
  | .logLevel => cfg.logLevel
  | .settingsFile => cfg.settingsFile
  | .worldFlagEnabled => cfg.worldFlagEnabled

/-- The default of a field. -/
def Field.unset (f : Field) : f.Value := ({} : Settings).value f

/-- The bound of a field. Only the ticks have one. -/
def Field.Admits : (f : Field) → f.Value → Prop
  | .debounceTicks, n => 1 ≤ n
  | _, _ => True

/-- Every default is within its bound. -/
theorem Field.admits_unset (f : Field) : f.Admits f.unset := by
  cases f with
  | debounceTicks => exact (by decide : (1 : Int) ≤ 40)
  | _ => trivial

def ofValues (x : (f : Field) → f.Value) : Settings where
  appName := x .appName
  logLevel := x .logLevel
  defaultSearchTerm := x .defaultSearchTerm
  debounceTicks := x .debounceTicks
  worldFlagEnabled := x .worldFlagEnabled
  settingsFile := x .settingsFile

@[simp]
theorem value_ofValues (x : (f : Field) → f.Value) (f : Field) : (ofValues x).value f = x f := by
  cases f <;> rfl

/-- Settings are their fields. -/
theorem ofValues_value (cfg : Settings) : ofValues cfg.value = cfg := rfl

end Settings

end ColonySearch
