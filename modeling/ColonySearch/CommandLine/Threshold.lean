import ColonySearch.Event
import ColonySearch.Text.Case
import ColonySearch.Text.Quoted

/-!
# Log thresholds

The names of the levels below which records are dropped. A name is known in any case.
-/

namespace ColonySearch.CommandLine

/-- A name that no level has. -/
structure UnknownLevel where
  name : String
deriving DecidableEq, Repr

def UnknownLevel.message (e : UnknownLevel) : String := "Unknown level: " ++ Text.quoted e.name

def thresholds : List (String × Nat) :=
  [("CRITICAL", 50), ("FATAL", 50), ("ERROR", 40), ("WARN", 30), ("WARNING", 30), ("INFO", 20),
   ("DEBUG", 10), ("NOTSET", 0)]

def threshold (name : String) : Except UnknownLevel Nat :=
  match thresholds.lookup (Text.upper name) with
  | some rank => .ok rank
  | none => .error ⟨Text.upper name⟩

def kept (rank : Nat) (log : List Event) : List Event := log.filter fun e => rank ≤ e.level.rank

/-- The part of the program that writes a record. -/
def loggerName : Event → String
  | .queryEvaluated .. => "rim_search.query.engine"
  | .searchTriggered .. => "rim_search.session"
  | .termUnreadable .. | .termSaved .. => "rim_search.settings_store"

def logLine (e : Event) : String := e.level.name ++ ":" ++ loggerName e ++ ":" ++ e.name

end ColonySearch.CommandLine
