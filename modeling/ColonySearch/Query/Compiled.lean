import ColonySearch.Query.Predicate
import ColonySearch.Query.Term

/-!
# Compiled queries

A query as two chains of predicates, one for things and one for sites. Visibility always comes first, so that nothing else is ever asked of a thing that fog hides. A query that matches all asks nothing more.
-/

namespace ColonySearch

structure Compiled where
  query : Query
  things : List ThingPredicate
  sites : List SitePredicate
deriving DecidableEq, Repr

def Query.thingChain (q : Query) : List ThingPredicate :=
  if q.matchAll then [.visible]
  else
    .visible :: ((if q.label = "" then [] else [.labelMatch q.label]) ++
      (if q.colonyOnly then [.colonyOnly] else []) ++ [.notContained])

def Query.siteChain (q : Query) : List SitePredicate :=
  if q.matchAll then [.alwaysTrue]
  else if q.label = "" then [] else [.labelMatch q.label]

def Query.compile (q : Query) : Compiled := ⟨q, q.thingChain, q.siteChain⟩

end ColonySearch
