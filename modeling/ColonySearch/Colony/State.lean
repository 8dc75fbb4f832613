import ColonySearch.Colony.Thing

/-!
# The colony

The whole game state that searches read: all things, maps and sites under their keys. Every key reads as something: a key that was never handed out is a blank thing that no map lists, an empty map without fog, or a blank site. A thing knows the map that holds it and a map lists what was spawned on it, and the two lists are kept apart on purpose: spawning a thing elsewhere changes the map that holds it and leaves the old map's list as it was.
-/

namespace ColonySearch

/-- A bounded local area: its fogged cells, and what was spawned on it in order of spawning, repeats included. -/
structure LocalMap where
  id : String := ""
  fogged : List Cell := []
  spawned : List ThingKey := []
deriving DecidableEq, Repr

/-- Everything that exists; `next` is the first number that no key has yet. -/
structure Colony where
  thing : ThingKey → Thing := fun _ => {}
  map : MapKey → LocalMap := fun _ => {}
  site : SiteKey → Site := fun _ => {}
  next : Nat := 0

namespace Colony

/-! ### Making entities -/

/-- Adds a thing, which no map holds yet. -/
def addThing (c : Colony) (t : Thing) : ThingKey × Colony :=
  let key : ThingKey := ⟨c.next⟩
  let new := { t with mapHeld := none }
  (key, { c with thing := fun k => if k = key then new else c.thing k, next := c.next + 1 })

/-- Adds a map with the given fogged cells, on which nothing was spawned yet. -/
def addMap (c : Colony) (id : String) (fogged : List Cell) : MapKey × Colony :=
  let key : MapKey := ⟨c.next⟩
  let new : LocalMap := { id, fogged := fogged.eraseDups }
  (key, { c with map := fun k => if k = key then new else c.map k, next := c.next + 1 })

def addSite (c : Colony) (s : Site) : SiteKey × Colony :=
  let key : SiteKey := ⟨c.next⟩
  (key, { c with site := fun k => if k = key then s else c.site k, next := c.next + 1 })

/-! ### Changing entities -/

def setThing (c : Colony) (key : ThingKey) (t : Thing) : Colony :=
  { c with thing := fun k => if k = key then t else c.thing k }

def setMap (c : Colony) (key : MapKey) (m : LocalMap) : Colony :=
  { c with map := fun k => if k = key then m else c.map k }

/-- Puts a thing on a map: the map holds it from now on and lists it once more. -/
def spawn (c : Colony) (m : MapKey) (key : ThingKey) : Colony :=
  let held := c.setThing key { c.thing key with mapHeld := some m }
  held.setMap m { c.map m with spawned := (c.map m).spawned ++ [key] }

def spawnAll (c : Colony) (m : MapKey) (keys : List ThingKey) : Colony :=
  keys.foldl (·.spawn m ·) c

def addFog (c : Colony) (m : MapKey) (cells : List Cell) : Colony :=
  c.setMap m { c.map m with fogged := ((c.map m).fogged ++ cells).eraseDups }

def removeFog (c : Colony) (m : MapKey) (cells : List Cell) : Colony :=
  c.setMap m { c.map m with fogged := (c.map m).fogged.filter (!cells.contains ·) }

/-! ### What changes leave alone -/

@[simp] theorem thing_setThing (c : Colony) (key : ThingKey) (t : Thing) :
    (c.setThing key t).thing key = t := by
  simp [setThing]

theorem thing_setThing_of_ne {c : Colony} {key k : ThingKey} {t : Thing} (h : k ≠ key) :
    (c.setThing key t).thing k = c.thing k := by
  simp [setThing, h]

@[simp] theorem map_setThing (c : Colony) (key : ThingKey) (t : Thing) :
    (c.setThing key t).map = c.map := rfl

@[simp] theorem map_setMap (c : Colony) (key : MapKey) (m : LocalMap) :
    (c.setMap key m).map key = m := by
  simp [setMap]

theorem map_setMap_of_ne {c : Colony} {key k : MapKey} {m : LocalMap} (h : k ≠ key) :
    (c.setMap key m).map k = c.map k := by
  simp [setMap, h]

@[simp] theorem thing_setMap (c : Colony) (key : MapKey) (m : LocalMap) :
    (c.setMap key m).thing = c.thing := rfl

theorem mapHeld_spawn (c : Colony) (m : MapKey) (key : ThingKey) :
    ((c.spawn m key).thing key).mapHeld = some m := by
  simp [spawn]

theorem spawned_spawn (c : Colony) (m : MapKey) (key : ThingKey) :
    ((c.spawn m key).map m).spawned = (c.map m).spawned ++ [key] := by
  simp [spawn]

theorem thing_spawn_of_ne {c : Colony} {m : MapKey} {key k : ThingKey} (h : k ≠ key) :
    (c.spawn m key).thing k = c.thing k := by
  rw [spawn, thing_setMap, thing_setThing_of_ne h]

/-- Spawning on a map changes no other map: the one that held the thing before still lists it. -/
theorem map_spawn_of_ne {c : Colony} {m n : MapKey} {key : ThingKey} (h : n ≠ m) :
    (c.spawn m key).map n = c.map n := by
  rw [spawn, map_setMap_of_ne h, map_setThing]

/-! ### Reading -/

def isFogged (c : Colony) (m : MapKey) (cell : Cell) : Bool := (c.map m).fogged.contains cell

/-- Whether fog hides the thing: it lies on a fogged cell of the map that holds it. -/
def hides (c : Colony) (t : Thing) : Bool :=
  t.mapHeld.any fun m => c.isFogged m t.cell

def pawnsOn (c : Colony) (m : MapKey) : List ThingKey :=
  (c.map m).spawned.filter fun k => (c.thing k).isPawn

def haulablesOn (c : Colony) (m : MapKey) : List ThingKey :=
  (c.map m).spawned.filter fun k => (c.thing k).isHaulable

end Colony

/-! ### Field changes -/

/-- An assignment to one field of a thing. A thing can be taken off its map but not put on one, which is what spawning does. -/
inductive Change where
  | label (text : String)
  | kind (kind : Kind)
  | cell (cell : Cell)
  | haulable (value : Bool)
  | faction (faction : Option Faction)
  | enclosed (value : Bool)
  | detach
deriving DecidableEq, Repr

/-- The thing after the assignment; only an actor has a faction or a container. -/
def Thing.change (t : Thing) : Change → Except MissingTrait Thing
  | .label text => .ok { t with label := text }
  | .kind kind => .ok { t with kind }
  | .cell cell => .ok { t with cell }
  | .haulable value => .ok { t with haulable := value }
  | .faction faction => (t.actorFor .faction).map fun a => { t with actor := some { a with faction } }
  | .enclosed value => (t.actorFor .enclosed).map fun a => { t with actor := some { a with enclosed := value } }
  | .detach => .ok { t with mapHeld := none }

def Colony.change (c : Colony) (key : ThingKey) (change : Change) : Except MissingTrait Colony :=
  ((c.thing key).change change).map (c.setThing key)

end ColonySearch
