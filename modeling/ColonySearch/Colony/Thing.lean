import ColonySearch.Text.Case
import ColonySearch.Text.Quoted

/-!
# Things and sites

The entities a search can find. A thing lies on a cell, usually of some map; a site lies on a tile of the world. Whether a thing counts as a pawn is decided by its kind, which can be reassigned; whether it has the traits of an actor is decided when it is made. The two can come apart, and asking a thing for a trait that it lacks is an error of its own.
-/

namespace ColonySearch

/-- What identifies a thing. Two things are the same exactly when their keys are equal, however alike their fields. -/
structure ThingKey where
  index : Nat
deriving DecidableEq, Repr

structure MapKey where
  index : Nat
deriving DecidableEq, Repr

structure SiteKey where
  index : Nat
deriving DecidableEq, Repr

structure Cell where
  x : Int
  z : Int
deriving DecidableEq, Repr

inductive Kind where
  | item
  | pawn
  | building
  | plant
  | corpse
deriving DecidableEq, Repr

def Kind.name : Kind → String
  | .item => "item"
  | .pawn => "pawn"
  | .building => "building"
  | .plant => "plant"
  | .corpse => "corpse"

def Kind.all : List Kind := [.item, .pawn, .building, .plant, .corpse]

/-- A name that no kind has. -/
structure UnknownKind where
  name : String
deriving DecidableEq, Repr

def UnknownKind.message (e : UnknownKind) : String :=
  Text.quoted e.name ++ " is not a valid ThingKind"

/-- The kind of that name; names are matched exactly. -/
def Kind.ofName (name : String) : Except UnknownKind Kind :=
  match Kind.all.find? (·.name == name) with
  | some kind => .ok kind
  | none => .error ⟨name⟩

/-- The side an actor is on. -/
structure Faction where
  name : String
  isPlayer : Bool := false
deriving DecidableEq, Repr

/-- What only an actor has. -/
structure Actor where
  kindLabel : String := ""
  kindDefLabel : String := ""
  faction : Option Faction := none
  enclosed : Bool := false
deriving DecidableEq, Repr

/-- The traits of an actor that can be asked of any thing. -/
inductive Trait where
  | kindLabel
  | colonist
  | faction
  | enclosed
deriving DecidableEq, Repr

def Trait.name : Trait → String
  | .kindLabel => "kind_label"
  | .colonist => "is_colonist"
  | .faction => "faction"
  | .enclosed => "enclosed_in_container"

/-- A thing was asked for a trait that it lacks. -/
structure MissingTrait where
  trait : Trait
deriving DecidableEq, Repr

def MissingTrait.message (e : MissingTrait) : String :=
  "'Thing' object has no attribute '" ++ e.trait.name ++ "'"

/-- A thing, with the map that holds it if one does. -/
structure Thing where
  id : String := ""
  label : String := ""
  kind : Kind := .item
  cell : Cell := ⟨0, 0⟩
  haulable : Bool := false
  description : Option String := none
  mapHeld : Option MapKey := none
  actor : Option Actor := none
deriving DecidableEq, Repr

namespace Thing

/-- The thing as an actor: a pawn, and nothing to haul, whatever it was before. -/
def withActor (t : Thing) (a : Actor) : Thing :=
  { t with kind := .pawn, haulable := false, actor := some a }

/-- Whether the thing counts as a pawn, which its kind alone decides. -/
def isPawn (t : Thing) : Bool := t.kind == .pawn

/-- Whether the thing can be hauled; a pawn never can. -/
def isHaulable (t : Thing) : Bool := t.haulable && !t.isPawn

/-- Whether the thing is an actor inside a container; a thing that is no actor never is. -/
def isContained (t : Thing) : Bool := t.actor.any (·.enclosed)

def labelCap (t : Thing) : String := Text.capitalized t.label

def actorFor (t : Thing) (trait : Trait) : Except MissingTrait Actor :=
  match t.actor with
  | some a => .ok a
  | none => .error ⟨trait⟩

end Thing

/-- Whether the actor belongs to the player's side. -/
def Actor.isColonist (a : Actor) : Bool := a.faction.any (·.isPlayer)

structure Site where
  id : String := ""
  label : String := ""
  tile : Int := 0
  description : Option String := none
deriving DecidableEq, Repr

def Site.labelCap (s : Site) : String := Text.capitalized s.label

end ColonySearch
