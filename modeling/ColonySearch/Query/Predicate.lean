import ColonySearch.Colony.State
import ColonySearch.Text.Substring

/-!
# Predicates

What a compiled query asks of a thing and of a site. A predicate is a value that carries the text it matches against, so that chains of predicates can be inspected and compared.
-/

namespace ColonySearch

inductive ThingPredicate where
  /-- No fog hides the thing. -/
  | visible
  /-- The text occurs in one of the thing's labels, whatever the case of either. -/
  | labelMatch (text : String)
  /-- The thing, if it is a pawn, belongs to the player's side. -/
  | colonyOnly
  /-- The thing, if it is a pawn, is in no container. -/
  | notContained
deriving DecidableEq, Repr

inductive SitePredicate where
  | alwaysTrue
  /-- The text occurs in the site's label, in the same case. -/
  | labelMatch (text : String)
deriving DecidableEq, Repr

namespace ThingPredicate

def name : ThingPredicate → String
  | .visible => "visible"
  | .labelMatch _ => "label_match"
  | .colonyOnly => "colony_only"
  | .notContained => "not_contained"

/-- The text that the predicate matches against, if it has one. -/
def text? : ThingPredicate → Option String
  | .labelMatch text => some text
  | _ => none

/-- Whether the text occurs in the label when both are lower-cased. -/
def labelMatches (text label : String) : Bool := Text.contains (Text.lower label) (Text.lower text)

/-- The answer for a thing. A pawn that is no actor has no kind label to match and no side to belong to. -/
def judge (c : Colony) (t : Thing) : ThingPredicate → Except MissingTrait Bool
  | .visible => .ok !c.hides t
  | .labelMatch text =>
    if t.isPawn then
      (t.actorFor .kindLabel).map fun a =>
        labelMatches text a.kindLabel || labelMatches text a.kindDefLabel || labelMatches text t.label
    else .ok (labelMatches text t.label)
  | .colonyOnly => if t.isPawn then (t.actorFor .colonist).map (·.isColonist) else .ok true
  | .notContained => .ok !(t.isPawn && t.isContained)

end ThingPredicate

namespace SitePredicate

def name : SitePredicate → String
  | .alwaysTrue => "always_true"
  | .labelMatch _ => "world_label_match"

/-- The text that the predicate matches against, if it has one. -/
def text? : SitePredicate → Option String
  | .alwaysTrue => none
  | .labelMatch text => some text

def holdsOfLabel (label : String) : SitePredicate → Bool
  | .alwaysTrue => true
  | .labelMatch text => Text.contains label text

def holds (s : Site) (p : SitePredicate) : Bool := p.holdsOfLabel s.label

end SitePredicate

end ColonySearch
