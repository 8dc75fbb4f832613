import ColonySearch.Query.Evaluation
import ColonySearch.Text.Decimal

/-!
# The table of results

Search results as rows of text: pawns, then things, then sites, each group in the order of the labels. Labels are ordered by their code points as they are, not as they are shown. A row writes integers out, so that one with too many digits leaves no table.
-/

namespace ColonySearch

structure Table where
  title : String
  columns : List String
  rows : List (List String)
deriving DecidableEq, Repr

/-- Where a thing is: its map, if one holds it, and its cell. -/
def Colony.whereabouts (c : Colony) (t : Thing) : Except DecimalError String := do
  let map := match t.mapHeld with
    | some m => (c.map m).id
    | none => "?"
  let x ← Text.decimal t.cell.x
  let z ← Text.decimal t.cell.z
  return s!"{map} ({x}, {z})"

def Colony.thingRow (c : Colony) (kind : String) (t : Thing) : Except DecimalError (List String) := do
  let place ← c.whereabouts t
  return [kind, t.labelCap, place, t.description.getD ""]

def Site.row (s : Site) : Except DecimalError (List String) := do
  let tile ← Text.decimal s.tile
  return ["world", s.labelCap, s!"tile {tile}", s.description.getD ""]

/-- The entities in the order of their labels. -/
def sortByLabel {α : Type} (label : α → String) (entities : List α) : List α :=
  entities.mergeSort fun a b => decide (label a ≤ label b)

def Results.table (r : Results) (c : Colony) : Except DecimalError Table := do
  let pawns ← (sortByLabel Thing.label (r.pawns.map c.thing)).mapM (c.thingRow "pawn")
  let things ← (sortByLabel Thing.label (r.things.map c.thing)).mapM (c.thingRow "thing")
  let sites ← (sortByLabel Site.label (r.sites.map c.site)).mapM Site.row
  return {
    title := s!"{r.total} result(s)"
    columns := ["kind", "label", "where", "description"]
    rows := pawns ++ things ++ sites }

end ColonySearch
