import ColonySearch.Query.Evaluation
import ColonySearch.Text.Decimal

/-!
# Search sessions

A session holds the term that is being typed and searches for it once the typing has paused. A changing edit makes the session dirty and restarts the count of ticks; the tick that completes the count searches, and so does a submit at any time. A search, whether it succeeds or not, ends the wait, and only a successful one replaces the results. The count itself is restarted by changing edits alone.
-/

namespace ColonySearch

/-- A number of quiet ticks that no session can wait for. -/
structure BadDebounce where
  ticks : Int
deriving DecidableEq, Repr

/-- The message names the number, unless it is too long to be written out. -/
def BadDebounce.message (e : BadDebounce) : String :=
  match Text.decimal e.ticks with
  | .ok ticks => s!"debounce_ticks must be at least 1, got {ticks}"
  | .error error => error.message

structure Session where
  alphabet : Alphabet
  term : String
  debounce : Nat
  one_le_debounce : 1 ≤ debounce
  dirty : Bool := false
  ticksSinceEdit : Nat := 0
  results : Option Results := none

/-- What a call on a session came to: its answer or the failure of its search, the session after it, and what it logged. -/
structure Turn (α : Type) where
  outcome : Except MissingTrait α
  session : Session
  log : List Event := []

namespace Session

/-- A session that waits the given number of quiet ticks, at least one. -/
def start (alphabet : Alphabet) (term : String) (debounce : Int) : Except BadDebounce Session :=
  if h : 1 ≤ debounce then
    .ok { alphabet, term, debounce := debounce.toNat, one_le_debounce := by omega }
  else .error ⟨debounce⟩

/-- Takes over the text of the search field. The same text again changes nothing. -/
def edit (s : Session) (term : String) : Session :=
  if term = s.term then s else { s with term, dirty := true, ticksSinceEdit := 0 }

def query (s : Session) : Query := .parse s.alphabet s.term

def run (s : Session) (trigger : Trigger) (c : Colony) (scope : Scope) : Turn Results :=
  let evaluation := s.query.compile.evaluation c scope
  match evaluation.outcome with
  | .error e => ⟨.error e, { s with dirty := false }, evaluation.log⟩
  | .ok r =>
    ⟨.ok r, { s with dirty := false, results := some r },
      evaluation.log ++ [.searchTriggered trigger s.term r.total]⟩

/-- Counts one tick and searches if the wait is over; the answer is whether it did. -/
def tick (s : Session) (c : Colony) (scope : Scope) : Turn Bool :=
  if s.dirty then
    let counted := { s with ticksSinceEdit := s.ticksSinceEdit + 1 }
    if counted.ticksSinceEdit < s.debounce then ⟨.ok false, counted, []⟩
    else
      let turn := counted.run .debounce c scope
      ⟨turn.outcome.map fun _ => true, turn.session, turn.log⟩
  else ⟨.ok false, s, []⟩

def submit (s : Session) (c : Colony) (scope : Scope) : Turn Results := s.run .submit c scope

end Session

end ColonySearch
