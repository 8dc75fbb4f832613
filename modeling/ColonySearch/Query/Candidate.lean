import ColonySearch.Query.Predicate

/-!
# Candidates

Chains over candidates of either kind. The predicates on sites ask for a label alone, so a thing can answer them as well. The predicates on things ask for more than a site has.
-/

namespace ColonySearch

/-- Anything that a chain can judge. -/
inductive Candidate where
  | thing (t : Thing)
  | site (s : Site)
deriving DecidableEq, Repr

/-- Anything that a candidate can be asked. -/
inductive Predicate where
  | ofThing (p : ThingPredicate)
  | ofSite (p : SitePredicate)
deriving DecidableEq, Repr

inductive SiteLack where
  /-- A map that holds it. -/
  | mapHeld
  /-- Whether it is a pawn. -/
  | isPawn
deriving DecidableEq, Repr

/-- Why a candidate cannot be judged. -/
inductive JudgeError where
  | missingTrait (error : MissingTrait)
  | siteLacks (lack : SiteLack)
deriving DecidableEq, Repr

def SiteLack.name : SiteLack → String
  | .mapHeld => "map_held"
  | .isPawn => "is_pawn"

def JudgeError.message : JudgeError → String
  | .missingTrait error => error.message
  | .siteLacks lack => "'WorldObject' object has no attribute '" ++ lack.name ++ "'"

/-- What a predicate on things asks for first. -/
def ThingPredicate.siteLack : ThingPredicate → SiteLack
  | .visible => .mapHeld
  | .labelMatch _ | .colonyOnly | .notContained => .isPawn

namespace Predicate

def name : Predicate → String
  | .ofThing p => p.name
  | .ofSite p => p.name

def judge (c : Colony) : Candidate → Predicate → Except JudgeError Bool
  | .thing t, .ofThing p => (p.judge c t).mapError .missingTrait
  | .thing t, .ofSite p => .ok (p.holdsOfLabel t.label)
  | .site s, .ofSite p => .ok (p.holds s)
  | .site _, .ofThing p => .error (.siteLacks p.siteLack)

end Predicate

end ColonySearch
