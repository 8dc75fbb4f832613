import ColonySearch.CommandLine.Program

/-!
# Printed lines

What the program prints, as lines of plain text: fields one to a line, and tables with their columns side by side.
-/

namespace ColonySearch.CommandLine

def fieldLine (name value : String) : String := name ++ ": " ++ value

def yesNo (value : Bool) : String := if value then "true" else "false"

def wordsLine (words : List String) : String := " ".intercalate words

def settingsLines (cfg : Settings) : List String :=
  [fieldLine "app_name" cfg.appName, fieldLine "log_level" cfg.logLevel,
   fieldLine "default_search_term" cfg.defaultSearchTerm,
   fieldLine "debounce_ticks" (toString cfg.debounceTicks),
   fieldLine "world_flag_enabled" (yesNo cfg.worldFlagEnabled),
   fieldLine "settings_file" cfg.settingsFile.text]

def queryLines (k : Compiled) : List String :=
  [fieldLine "raw" k.query.raw, fieldLine "label" k.query.label,
   fieldLine "flags" (wordsLine (k.query.flags.map Flag.name)),
   fieldLine "things" (wordsLine (k.things.map ThingPredicate.name)),
   fieldLine "world_objects" (wordsLine (k.sites.map SitePredicate.name))]

/-- The columns of a row, a bar between them. -/
def rowLine (row : List String) : String := " | ".intercalate row

def Output.lines : Output → List String
  | .settings cfg => settingsLines cfg
  | .query k => queryLines k
  | .noResults label => [fieldLine "results" "none", fieldLine "label" label]
  | .table t => t.title :: rowLine t.columns :: t.rows.map rowLine
  | .defaultTerm term path => [fieldLine "default_search_term" term, fieldLine "path" path]

end ColonySearch.CommandLine
