import ColonySearch.Event
import ColonySearch.Query.Chain
import ColonySearch.Query.Compiled

/-!
# Evaluation

A compiled query evaluated on what is loaded: the maps, the one on show, and the sites of the world. The result is three collections without repeats, in the order in which their members are first listed. Evaluation fails when a chain fails on some candidate, and only pawns can make a chain fail.
-/

namespace ColonySearch

/-- What a query can reach. The map on show need not be among the loaded ones. -/
structure Scope where
  maps : List MapKey := []
  current : Option MapKey := none
  sites : List SiteKey := []
deriving DecidableEq, Repr

structure Results where
  things : List ThingKey := []
  pawns : List ThingKey := []
  sites : List SiteKey := []
deriving DecidableEq, Repr

namespace Results

def total (r : Results) : Nat := r.things.length + r.pawns.length + r.sites.length

def isEmpty (r : Results) : Bool := r.total == 0

end Results

/-- The maps that a query visits: every loaded one, or the one on show. -/
def Scope.selected (s : Scope) (q : Query) : List MapKey :=
  if q.allMaps then s.maps else s.current.toList

/-- The things among the given ones that a chain accepts; the first failure ends the search. -/
def Colony.accepted (c : Colony) (chain : List ThingPredicate) :
    List ThingKey → Except MissingTrait (List ThingKey)
  | [] => .ok []
  | k :: rest => do
    let holds ← Chain.run (ThingPredicate.judge c (c.thing k)) chain
    let others ← c.accepted chain rest
    return if holds then k :: others else others

/-- The sites among the given ones that a chain accepts. -/
def Colony.acceptedSites (c : Colony) (chain : List SitePredicate) (sites : List SiteKey) :
    List SiteKey :=
  sites.filter fun k => chain.all (·.holds (c.site k))

/-- What the query finds. -/
def Compiled.evaluate (k : Compiled) (c : Colony) (s : Scope) : Except MissingTrait Results := do
  let maps := s.selected k.query
  let pawns ← if k.query.pawns then c.accepted k.things (maps.flatMap c.pawnsOn) else .ok []
  let things ← if k.query.items then c.accepted k.things (maps.flatMap c.haulablesOn) else .ok []
  let sites := if k.query.worldMap then c.acceptedSites k.sites s.sites else []
  return ⟨things.eraseDups, pawns.eraseDups, sites.eraseDups⟩

/-- A computation that can fail and that writes a log. What was written before a failure stays. -/
abbrev Logging (ε α : Type) : Type := ExceptT ε (StateM (List Event)) α

namespace Logging

variable {ε α : Type}

def record (event : Event) : Logging ε Unit := modify (· ++ [event])

def outcome (x : Logging ε α) : Except ε α := (x.run.run []).1

def log (x : Logging ε α) : List Event := (x.run.run []).2

end Logging

def Query.evaluated (q : Query) (r : Results) : Event :=
  .queryEvaluated q.raw q.debugLabel r.pawns.length r.things.length r.sites.length

namespace Compiled

/-- The evaluation with its log: when all candidates have been judged, the numbers of matches are recorded. -/
def evaluation (k : Compiled) (c : Colony) (s : Scope) : Logging MissingTrait Results := do
  let results ← k.evaluate c s
  Logging.record (k.query.evaluated results)
  return results

variable {k : Compiled} {c : Colony} {s : Scope}

@[simp]
theorem outcome_evaluation : (k.evaluation c s).outcome = k.evaluate c s := by
  unfold evaluation
  cases k.evaluate c s <;> rfl

theorem log_evaluation_of_ok {r : Results} (h : k.evaluate c s = .ok r) :
    (k.evaluation c s).log = [k.query.evaluated r] := by
  rw [evaluation, h]
  rfl

theorem log_evaluation_of_error {e : MissingTrait} (h : k.evaluate c s = .error e) :
    (k.evaluation c s).log = [] := by
  rw [evaluation, h]
  rfl

end Compiled

/-- Searches for a term: reads it, compiles it and evaluates it. -/
def search (a : Alphabet) (raw : String) (c : Colony) (s : Scope) : Except MissingTrait Results :=
  (Query.parse a raw).compile.evaluate c s

end ColonySearch
