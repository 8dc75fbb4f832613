import ColonySearch.Query.Evaluation

/-!
# The view

What the player sees of the colony: which map is on show, whether the world is shown instead, where the camera went and what was selected. Camera moves and selections are kept as histories, the newest last. A step that cannot be taken is an error and leaves the view as it was.
-/

namespace ColonySearch

inductive CameraMove where
  | cell (cell : Cell)
  | tile (tile : Int)
deriving DecidableEq, Repr

inductive Selection where
  | thing (key : ThingKey)
  | site (key : SiteKey)
deriving DecidableEq, Repr

/-- What is loaded and how it is shown. -/
structure View extends Scope where
  worldView : Bool := false
  camera : List CameraMove := []
  selected : List Selection := []
deriving DecidableEq, Repr

inductive NavigationError where
  /-- The thing with this shown label is on no map. -/
  | notOnMap (label : String)
  /-- The map of this name is not loaded. -/
  | mapNotLoaded (id : String)
deriving DecidableEq, Repr

def NavigationError.message : NavigationError → String
  | .notOnMap label => label ++ " is not on any map"
  | .mapNotLoaded id => "Map is not loaded: " ++ id

namespace View

/-- A fresh view. Without a map of choice the first loaded one is shown; a map of choice is shown whether it is loaded or not. -/
def ofMaps (maps : List MapKey) (chosen : Option MapKey) (sites : List SiteKey) : View :=
  { maps, current := chosen.or maps.head?, sites }

/-- Shows a map or none, and leaves the world view. Only a loaded map can be shown. -/
def setCurrent (v : View) (c : Colony) : Option MapKey → Except NavigationError View
  | none => .ok { v with current := none, worldView := false }
  | some m =>
    if m ∈ v.maps then .ok { v with current := some m, worldView := false }
    else .error (.mapNotLoaded (c.map m).id)

theorem setCurrent_some_eq_ok_iff {v shown : View} {c : Colony} {m : MapKey} :
    v.setCurrent c (some m) = .ok shown ↔
      m ∈ v.maps ∧ shown = { v with current := some m, worldView := false } := by
  by_cases hloaded : m ∈ v.maps
  · simp [setCurrent, hloaded, eq_comm]
  · simp [setCurrent, hloaded]

def showWorld (v : View) : View := { v with worldView := true }

def addSites (v : View) (sites : List SiteKey) : View := { v with sites := v.sites ++ sites }

/-- Shows the map that holds the thing, moves the camera to the thing and selects it. The map on show is not set again when it is the right one already. -/
def jumpToThing (v : View) (c : Colony) (key : ThingKey) : Except NavigationError View :=
  let t := c.thing key
  match t.mapHeld with
  | none => .error (.notOnMap t.labelCap)
  | some m => do
    let shown ← if v.current = some m then .ok v else v.setCurrent c (some m)
    return { shown with
      camera := shown.camera ++ [.cell t.cell]
      selected := shown.selected ++ [.thing key] }

/-- Shows the world with the camera on the site's tile; nothing is selected. -/
def jumpToSite (v : View) (c : Colony) (key : SiteKey) : View :=
  { v.showWorld with camera := v.camera ++ [.tile (c.site key).tile] }

/-- Selects every match, pawns before things before sites, and says how many there were. -/
def selectAll (v : View) (r : Results) : View × Nat :=
  let entities := r.pawns.map .thing ++ r.things.map .thing ++ r.sites.map .site
  ({ v with selected := v.selected ++ entities }, entities.length)

end View

end ColonySearch
