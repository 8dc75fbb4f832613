/-!
# Search terms

A term is a run of flag characters followed by a label. The run is as long as it can be; from the first character that is no flag on, everything is label, flag characters included. Which characters are flags depends on the alphabet: the one for the world map is optional.
-/

namespace ColonySearch

/-- What a term can switch on, in the order of the names. -/
inductive Flag where
  | allMaps
  | colonyOnly
  | items
  | matchAll
  | pawns
  | worldMap
deriving DecidableEq, Repr

def Flag.name : Flag → String
  | .allMaps => "all_maps"
  | .colonyOnly => "colony_only"
  | .items => "items"
  | .matchAll => "match_all"
  | .pawns => "pawns"
  | .worldMap => "world_map"

def Flag.all : List Flag := [.allMaps, .colonyOnly, .items, .matchAll, .pawns, .worldMap]

/-- The flag characters in force. -/
structure Alphabet where
  worldFlag : Bool := false
deriving DecidableEq, Repr

namespace Alphabet

def entries (a : Alphabet) : List (Char × Flag) :=
  [('!', .allMaps), ('-', .pawns), ('#', .colonyOnly), ('.', .items), ('*', .matchAll)] ++
    if a.worldFlag then [('<', .worldMap)] else []

def flag? (a : Alphabet) (c : Char) : Option Flag := a.entries.lookup c

def isFlag (a : Alphabet) (c : Char) : Bool := (a.flag? c).isSome

def chars (a : Alphabet) : String := String.ofList (a.entries.map Prod.fst)

end Alphabet

/-- What is asked of a search: the flags and the label, the term they were read from, and the label under which the search is reported. -/
structure Query where
  raw : String := ""
  label : String := ""
  allMaps : Bool := false
  worldMap : Bool := false
  pawns : Bool := false
  colonyOnly : Bool := false
  items : Bool := false
  matchAll : Bool := false
  debugLabel : String := ""
deriving DecidableEq, Repr

namespace Query

def has (q : Query) : Flag → Bool
  | .allMaps => q.allMaps
  | .colonyOnly => q.colonyOnly
  | .items => q.items
  | .matchAll => q.matchAll
  | .pawns => q.pawns
  | .worldMap => q.worldMap

/-- The flags that are on, in the order of their names. -/
def flags (q : Query) : List Flag := Flag.all.filter q.has

/-- The query with exactly the given flags and the given label. -/
def ofFlags (raw : String) (flags : List Flag) (label : String) : Query where
  raw := raw
  label := label
  allMaps := flags.contains .allMaps
  worldMap := flags.contains .worldMap
  pawns := flags.contains .pawns
  colonyOnly := flags.contains .colonyOnly
  items := flags.contains .items
  matchAll := flags.contains .matchAll
  debugLabel := label

def parse (a : Alphabet) (raw : String) : Query :=
  ofFlags raw ((raw.toList.takeWhile a.isFlag).filterMap a.flag?)
    (String.ofList (raw.toList.dropWhile a.isFlag))

end Query

end ColonySearch
