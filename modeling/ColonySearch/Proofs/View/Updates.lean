import ColonySearch.Proofs.View.Navigation

/-!
# A jump, update by update

A jump that fails has no view to show for it, so `jumpToThing` cannot tell whether something has been done to the view before the failure. Here the jump is taken apart into its single updates, made one after another on the view itself: the map is set, the world view left, the camera moved, the thing selected. A failure on the way leaves the view as the updates before it have made it. As it turns out there are none: the thing is asked for its map, and the map for being loaded, before anything is touched, and the updates behind these two questions cannot fail. So the jump is made as a whole or not at all, and both accounts of it are the same.
-/

namespace ColonySearch.View

/-- What is done to a view in single updates. A failure leaves the view behind as it is at that moment. -/
abbrev Procedure := EStateM NavigationError View Unit

namespace Procedure

def requireLoaded (c : Colony) : Option MapKey → Procedure
  | none => pure ()
  | some m => do
    let v ← get
    if m ∈ v.maps then pure () else throw (.mapNotLoaded (c.map m).id)

def setCurrent (c : Colony) (m : Option MapKey) : Procedure := do
  requireLoaded c m
  modify fun v => { v with current := m }
  modify fun v => { v with worldView := false }

def moveCamera (move : CameraMove) : Procedure :=
  modify fun v => { v with camera := v.camera ++ [move] }

def select (entity : Selection) : Procedure :=
  modify fun v => { v with selected := v.selected ++ [entity] }

def jumpToThing (c : Colony) (k : ThingKey) : Procedure :=
  match (c.thing k).mapHeld with
  | none => throw (.notOnMap (c.thing k).labelCap)
  | some m => do
    let v ← get
    if v.current = some m then pure () else setCurrent c (some m)
    moveCamera (.cell (c.thing k).cell)
    select (.thing k)

/-- What is left by a procedure that is carried out as a whole or not at all. -/
def allOrNothing (v : View) : Except NavigationError View → EStateM.Result NavigationError View Unit
  | .ok shown => .ok () shown
  | .error e => .error e v

variable {v : View} {c : Colony} {k : ThingKey}

theorem run_requireLoaded (m : MapKey) : (requireLoaded c (some m)).run v =
    if m ∈ v.maps then .ok () v else .error (.mapNotLoaded (c.map m).id) v := by
  rw [requireLoaded, EStateM.run_bind, EStateM.run_get]
  by_cases hloaded : m ∈ v.maps
  · simp only [hloaded, if_true, EStateM.run_pure]
  · simp only [hloaded, if_false, EStateM.run_throw]

/-- The question whether the map is loaded comes before both updates. -/
theorem run_setCurrent (m : Option MapKey) :
    (setCurrent c m).run v = allOrNothing v (v.setCurrent c m) := by
  cases m with
  | none => rfl
  | some m =>
    rw [setCurrent, EStateM.run_bind, run_requireLoaded]
    by_cases hloaded : m ∈ v.maps
    · simp [View.setCurrent, hloaded, allOrNothing]
    · simp [View.setCurrent, hloaded, allOrNothing]

/-- Moving the camera and selecting the thing come last, when nothing can fail any more. -/
theorem run_jumpToThing : (jumpToThing c k).run v = allOrNothing v (v.jumpToThing c k) := by
  rw [jumpToThing, View.jumpToThing]
  cases hheld : (c.thing k).mapHeld with
  | none => rfl
  | some m =>
    by_cases hshown : v.current = some m
    · simp only [EStateM.run_bind, EStateM.run_get, hshown, if_true]
      rfl
    · simp only [EStateM.run_bind, EStateM.run_get, hshown, if_false, run_setCurrent]
      cases v.setCurrent c (some m) with
      | ok shown => rfl
      | error e => rfl

theorem allOrNothing_eq_error_iff {x : Except NavigationError View} {e : NavigationError} {left : View} :
    allOrNothing v x = .error e left ↔ x = .error e ∧ left = v := by
  cases x with
  | ok shown => simp [allOrNothing]
  | error e' => simp [allOrNothing, eq_comm]

theorem allOrNothing_eq_ok_iff {x : Except NavigationError View} {left : View} :
    allOrNothing v x = .ok () left ↔ x = .ok left := by
  cases x with
  | ok shown => simp [allOrNothing]
  | error e => simp [allOrNothing]

end Procedure

/-- A jump to a thing is made as a whole or not at all, whatever view it starts from. It fails for a thing that is on no map exactly if none holds it, and for a map that is not loaded exactly if the map that holds the thing is neither on show nor loaded; either failure leaves the view as it was. In all other cases it succeeds: the map on show is the one that holds the thing, one move of the camera, to the cell of the thing, and one selection, of the thing, are added, and what is loaded stays as it is. -/
theorem jump_all_or_nothing (v : View) (c : Colony) (k : ThingKey) :
    (∀ label left, (Procedure.jumpToThing c k).run v = .error (.notOnMap label) left ↔
      (c.thing k).mapHeld = none ∧ label = (c.thing k).labelCap ∧ left = v) ∧
    (∀ id left, (Procedure.jumpToThing c k).run v = .error (.mapNotLoaded id) left ↔
      (∃ m, (c.thing k).mapHeld = some m ∧ v.current ≠ some m ∧ m ∉ v.maps ∧ id = (c.map m).id) ∧
        left = v) ∧
    (∀ left, (Procedure.jumpToThing c k).run v = .ok () left ↔
      ∃ m, (c.thing k).mapHeld = some m ∧ (v.current = some m ∨ m ∈ v.maps) ∧
        left = { v with
          current := some m
          worldView := v.worldView && decide (v.current = some m)
          camera := v.camera ++ [.cell (c.thing k).cell]
          selected := v.selected ++ [.thing k] }) ∧
    (Procedure.jumpToThing c k).run v = Procedure.allOrNothing v (v.jumpToThing c k) := by
  refine ⟨?_, ?_, ?_, Procedure.run_jumpToThing⟩
  · intro label left
    rw [Procedure.run_jumpToThing, Procedure.allOrNothing_eq_error_iff, jumpToThing_eq_error_iff]
    simp [and_assoc]
  · intro id left
    rw [Procedure.run_jumpToThing, Procedure.allOrNothing_eq_error_iff, jumpToThing_eq_error_iff]
    simp
  · intro left
    rw [Procedure.run_jumpToThing, Procedure.allOrNothing_eq_ok_iff]
    exact jumpToThing_eq_ok_iff

end ColonySearch.View
