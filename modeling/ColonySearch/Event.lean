/-!
# Log records

What searches and the term store report, with the level of each report.
-/

namespace ColonySearch

/-- The importance of a record, in rising order. -/
inductive Level where
  | debug
  | info
  | warning
deriving DecidableEq, Repr

def Level.name : Level → String
  | .debug => "DEBUG"
  | .info => "INFO"
  | .warning => "WARNING"

/-- The number that thresholds are compared with. -/
def Level.rank : Level → Nat
  | .debug => 10
  | .info => 20
  | .warning => 30

inductive Trigger where
  | debounce
  | submit
deriving DecidableEq, Repr

def Trigger.name : Trigger → String
  | .debounce => "debounce"
  | .submit => "submit"

inductive Event where
  /-- A query was evaluated, with the numbers of matches. -/
  | queryEvaluated (raw label : String) (pawns things sites : Nat)
  /-- A session replaced its results. -/
  | searchTriggered (trigger : Trigger) (term : String) (resultCount : Nat)
  /-- The stored term could not be read. -/
  | termUnreadable (path : String)
  /-- A term was stored. -/
  | termSaved (path term : String)
deriving DecidableEq, Repr

namespace Event

def level : Event → Level
  | .queryEvaluated .. => .debug
  | .searchTriggered .. => .info
  | .termUnreadable .. => .warning
  | .termSaved .. => .info

def name : Event → String
  | .queryEvaluated .. => "query_evaluated"
  | .searchTriggered .. => "session_search_triggered"
  | .termUnreadable .. => "default_term_unreadable"
  | .termSaved .. => "default_term_saved"

end Event

end ColonySearch
