import ColonySearch.View

/-!
# The demo colony

A small fixed colony to search in: a home map with a fogged corner, an outpost, and three sites. It is founded inside whatever colony there is already, with keys of its own.
-/

namespace ColonySearch.Demo

def player : Faction := { name := "New Arbor", isPlayer := true }

def pirates : Faction := { name := "Red Fang pirates" }

def pawn (id label : String) (cell : Cell) (actor : Actor) (description : Option String := none) :
    Thing :=
  Thing.withActor { id, label, cell, description } actor

def haul (id label : String) (cell : Cell) (description : Option String := none) : Thing :=
  { id, label, cell, haulable := true, description }

/-- A member of the colony. -/
def colonist (kindLabel : String) : Actor :=
  { kindLabel, kindDefLabel := "colonist", faction := some player }

def homeThings : List Thing :=
  [pawn "pawn-joe" "Trader Joe" ⟨10, 12⟩ (colonist "colonist") (some "Trade lead"),
   pawn "pawn-ada" "Ada" ⟨14, 8⟩ (colonist "doctor"),
   pawn "pawn-sleeper" "Sleeper" ⟨3, 3⟩ { colonist "colonist" with enclosed := true },
   pawn "pawn-husky" "Husky" ⟨20, 4⟩ { kindLabel := "husky", kindDefLabel := "husky" },
   pawn "pawn-raider" "Grim" ⟨90, 90⟩
     { kindLabel := "pirate gunner", kindDefLabel := "pirate", faction := some pirates },
   haul "thing-steel" "steel chunk" ⟨11, 11⟩ (some "Scrap steel"),
   haul "thing-meal" "simple meal x4" ⟨12, 11⟩,
   haul "thing-gold" "gold x12" ⟨90, 90⟩,
   { id := "thing-wall", label := "granite wall", kind := .building, cell := ⟨9, 9⟩ }]

def outpostThings : List Thing :=
  [pawn "pawn-mira" "Mira" ⟨5, 5⟩ (colonist "colonist"),
   haul "thing-jade" "jade x30" ⟨6, 5⟩]

def sites : List Site :=
  [{ id := "wo-home", label := "New Arbor", tile := 1204, description := some "Player colony" },
   { id := "wo-outpost", label := "Kestrel outpost", tile := 1310 },
   { id := "wo-pirates", label := "Red Fang camp", tile := 877 }]

/-- Adds things to a colony and spawns them on a map. -/
def settle (c : Colony) (m : MapKey) (things : List Thing) : Colony :=
  things.foldl (fun c t => let (key, c) := c.addThing t; c.spawn m key) c

def addSites (c : Colony) : List Site → List SiteKey × Colony
  | [] => ([], c)
  | s :: rest =>
    let (key, c) := c.addSite s
    let (keys, c) := addSites c rest
    (key :: keys, c)

/-- Founds the demo colony; the view shows its home map. -/
def found (c : Colony) : View × Colony :=
  let (home, c) := c.addMap "home" [⟨90, 90⟩]
  let c := settle c home homeThings
  let (outpost, c) := c.addMap "outpost" []
  let c := settle c outpost outpostThings
  let (keys, c) := addSites c sites
  (View.ofMaps [home, outpost] (some home) keys, c)

end ColonySearch.Demo
