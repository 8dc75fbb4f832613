import ColonySearch.View

/-!
# Jumps and the world view

A view shows a map or, laid over it, the world. Setting the map leaves the world view, and a jump to a thing sets the map only where another one is on show. So after a jump the right map is on show, but the world may still lie over it: that is so exactly if the world was shown and no map has been set since, and the thing is on the map that was on show all along. Everything known about a jump is said once, by `jumpToThing_eq_ok_iff`; what a run of moves comes to follows from what one move does to the world view.
-/

namespace ColonySearch.View

/-- What a player can do to a view, with the colony as it is at that moment. -/
inductive Move where
  | setCurrent (c : Colony) (m : Option MapKey)
  | showWorld
  | jumpToThing (c : Colony) (k : ThingKey)
  | jumpToSite (c : Colony) (k : SiteKey)

def attempt (v : View) : Move → Except NavigationError View
  | .setCurrent c m => v.setCurrent c m
  | .showWorld => .ok v.showWorld
  | .jumpToThing c k => v.jumpToThing c k
  | .jumpToSite c k => .ok (v.jumpToSite c k)

/-- The view after the move. A move that is refused leaves it as it was. -/
def step (v : View) (move : Move) : View := (v.attempt move).toOption.getD v

/-- The view after the first `n` moves, which is the one that finds the move at position `n`. -/
def after (v : View) (moves : List Move) (n : Nat) : View := (moves.take n).foldl step v

/-- The move puts the world on show. -/
def Move.ShowsWorld : Move → Prop
  | .showWorld | .jumpToSite .. => True
  | .setCurrent .. | .jumpToThing .. => False

/-- The move sets the map: it names none or a loaded one, or it jumps to a thing on a loaded map that is not on show. -/
def SetsMap (v : View) : Move → Prop
  | .setCurrent _ m => ∀ key, m = some key → key ∈ v.maps
  | .jumpToThing c k => ∃ m ∈ v.maps, (c.thing k).mapHeld = some m ∧ v.current ≠ some m
  | .showWorld | .jumpToSite .. => False

variable {v shown : View} {c : Colony} {k : ThingKey} {moves : List Move} {n : Nat}

/-! ### One move -/

theorem setCurrent_eq_ok_iff {m : Option MapKey} : v.setCurrent c m = .ok shown ↔
    (∀ key, m = some key → key ∈ v.maps) ∧ shown = { v with current := m, worldView := false } := by
  cases m with
  | none => simp [setCurrent, eq_comm]
  | some m => simp [setCurrent_some_eq_ok_iff]

/-- A jump succeeds exactly if some map holds the thing and this map is on show or loaded. It shows that map, and the world only if the world lay over that very map before. -/
theorem jumpToThing_eq_ok_iff : v.jumpToThing c k = .ok shown ↔
    ∃ m, (c.thing k).mapHeld = some m ∧ (v.current = some m ∨ m ∈ v.maps) ∧
      shown = { v with
        current := some m
        worldView := v.worldView && decide (v.current = some m)
        camera := v.camera ++ [.cell (c.thing k).cell]
        selected := v.selected ++ [.thing k] } := by
  rw [jumpToThing]
  cases hheld : (c.thing k).mapHeld with
  | none => simp
  | some m =>
    by_cases hshown : v.current = some m
    · have hsame : { v.toScope with current := some m } = v.toScope := by rw [← hshown]
      simp [hshown, hsame, bind, Except.bind, pure, Except.pure, eq_comm]
    · by_cases hloaded : m ∈ v.maps
      · simp [hshown, hloaded, setCurrent, bind, Except.bind, pure, Except.pure, eq_comm]
      · simp [hshown, hloaded, setCurrent, bind, Except.bind]

/-- A jump fails in two ways: no map holds the thing, or the map that does is neither on show nor loaded. -/
theorem jumpToThing_eq_error_iff {e : NavigationError} : v.jumpToThing c k = .error e ↔
    ((c.thing k).mapHeld = none ∧ e = .notOnMap (c.thing k).labelCap) ∨
      ∃ m, (c.thing k).mapHeld = some m ∧ v.current ≠ some m ∧ m ∉ v.maps ∧
        e = .mapNotLoaded (c.map m).id := by
  rw [jumpToThing]
  cases hheld : (c.thing k).mapHeld with
  | none => simp [eq_comm]
  | some m =>
    by_cases hshown : v.current = some m
    · simp [hshown, bind, Except.bind, pure, Except.pure]
    · by_cases hloaded : m ∈ v.maps
      · simp [hshown, hloaded, setCurrent, bind, Except.bind, pure, Except.pure]
      · simp [hshown, hloaded, setCurrent, bind, Except.bind, eq_comm]

theorem step_of_ok {move : Move} (h : v.attempt move = .ok shown) : v.step move = shown := by
  rw [step, h]
  rfl

theorem step_of_error {move : Move} {e : NavigationError} (h : v.attempt move = .error e) :
    v.step move = v := by
  rw [step, h]
  rfl

/-- What a move that sets the map does. Camera and selections apart, all that it leaves of the view before is what is loaded. -/
theorem step_of_setsMap {move : Move} (h : v.SetsMap move) : ∃ m camera selected,
    (∀ key, m = some key → key ∈ v.maps) ∧
      v.step move = { v with current := m, worldView := false, camera, selected } := by
  cases move with
  | showWorld | jumpToSite c k => exact h.elim
  | setCurrent c m =>
    have hattempt : v.attempt (.setCurrent c m) = .ok _ := setCurrent_eq_ok_iff.2 ⟨h, rfl⟩
    exact ⟨m, _, _, h, step_of_ok hattempt⟩
  | jumpToThing c k =>
    obtain ⟨m, hloaded, hheld, hother⟩ := h
    have hattempt : v.attempt (.jumpToThing c k) = .ok _ :=
      jumpToThing_eq_ok_iff.2 ⟨m, hheld, Or.inr hloaded, rfl⟩
    refine ⟨some m, v.camera ++ [.cell (c.thing k).cell], v.selected ++ [.thing k], ?_, ?_⟩
    · intro key hkey
      cases hkey
      exact hloaded
    · rw [step_of_ok hattempt, decide_eq_false hother, Bool.and_false]

/-- What any other move does, refused or not. The map on show stays, and only the world can come to lie over it. -/
theorem step_of_not_setsMap {move : Move} (h : ¬ v.SetsMap move) : ∃ worldView camera selected,
    (worldView = true ↔ move.ShowsWorld ∨ v.worldView = true) ∧
      v.step move = { v with worldView, camera, selected } := by
  cases move with
  | showWorld => exact ⟨true, _, _, by simp [Move.ShowsWorld], rfl⟩
  | jumpToSite c k => exact ⟨true, _, _, by simp [Move.ShowsWorld], rfl⟩
  | setCurrent c m =>
    refine ⟨v.worldView, v.camera, v.selected, by simp [Move.ShowsWorld], ?_⟩
    cases hattempt : v.attempt (.setCurrent c m) with
    | error e => exact step_of_error hattempt
    | ok shown => exact absurd (setCurrent_eq_ok_iff.1 hattempt).1 h
  | jumpToThing c k =>
    cases hattempt : v.attempt (.jumpToThing c k) with
    | error e =>
      exact ⟨v.worldView, v.camera, v.selected, by simp [Move.ShowsWorld], step_of_error hattempt⟩
    | ok shown =>
      obtain ⟨m, hheld, hreached, rfl⟩ := jumpToThing_eq_ok_iff.1 hattempt
      have hshown : v.current = some m := by
        rcases hreached with hshown | hloaded
        · exact hshown
        · exact Decidable.not_not.1 fun hother => h ⟨m, hloaded, hheld, hother⟩
      refine ⟨v.worldView, v.camera ++ [.cell (c.thing k).cell], v.selected ++ [.thing k],
        by simp [Move.ShowsWorld], ?_⟩
      rw [step_of_ok hattempt, decide_eq_true hshown, Bool.and_true, ← hshown]

/-- The world is on show after a move that shows it, and stays on show under a move that does not set the map. -/
theorem worldView_step_iff (move : Move) : (v.step move).worldView = true ↔
    move.ShowsWorld ∨ v.worldView = true ∧ ¬ v.SetsMap move := by
  by_cases hsets : v.SetsMap move
  · obtain ⟨m, camera, selected, _, hstep⟩ := step_of_setsMap hsets
    have hmap : ¬ move.ShowsWorld := by
      cases move with
      | showWorld | jumpToSite c k => exact hsets.elim
      | setCurrent c m | jumpToThing c k => exact id
    simp [hstep, hmap, hsets]
  · obtain ⟨worldView, camera, selected, hworld, hstep⟩ := step_of_not_setsMap hsets
    rw [hstep, hworld, and_iff_left hsets]

/-! ### Many moves -/

/-- The move at the position puts the world on show. -/
def ShowsWorldAt (moves : List Move) (n : Nat) : Prop :=
  ∃ move, moves[n]? = some move ∧ move.ShowsWorld

/-- The move at the position sets the map. -/
def SetsMapAt (v : View) (moves : List Move) (n : Nat) : Prop :=
  ∃ move, moves[n]? = some move ∧ (v.after moves n).SetsMap move

/-- The world was put on show before the position, and no map has been set since. -/
def WorldOnShow (v : View) (moves : List Move) (n : Nat) : Prop :=
  ∃ i, i < n ∧ ShowsWorldAt moves i ∧ ∀ j, i < j → j < n → ¬ v.SetsMapAt moves j

theorem after_succ : v.after moves (n + 1) =
    match moves[n]? with
    | some move => (v.after moves n).step move
    | none => v.after moves n := by
  rw [after, List.take_add_one, List.foldl_append]
  cases moves[n]? <;> rfl

theorem worldOnShow_succ_iff : v.WorldOnShow moves (n + 1) ↔
    ShowsWorldAt moves n ∨ v.WorldOnShow moves n ∧ ¬ v.SetsMapAt moves n := by
  constructor
  · intro h
    obtain ⟨i, hi, hshows, hkept⟩ := h
    rcases Nat.lt_succ_iff_lt_or_eq.1 hi with hlt | rfl
    · refine Or.inr ⟨⟨i, hlt, hshows, ?_⟩, hkept n hlt (Nat.lt_succ_self n)⟩
      intro j hafter hbefore
      exact hkept j hafter (Nat.lt_succ_of_lt hbefore)
    · exact Or.inl hshows
  · intro h
    rcases h with hshows | ⟨⟨i, hlt, hshows, hkept⟩, hstays⟩
    · exact ⟨n, Nat.lt_succ_self n, hshows, fun j hafter hbefore => by omega⟩
    · refine ⟨i, Nat.lt_succ_of_lt hlt, hshows, ?_⟩
      intro j hafter hbefore
      rcases Nat.lt_succ_iff_lt_or_eq.1 hbefore with hlt' | rfl
      · exact hkept j hafter hlt'
      · exact hstays

/-- What the view remembers of its history: whether the world has been shown and no map been set since. -/
theorem worldView_after_iff (hmap : v.worldView = false) :
    (v.after moves n).worldView = true ↔ v.WorldOnShow moves n := by
  induction n with
  | zero =>
    refine iff_of_false ?_ ?_
    · rw [after, List.take_zero, List.foldl_nil, hmap]
      exact Bool.false_ne_true
    · intro h
      obtain ⟨i, hi, _⟩ := h
      exact Nat.not_lt_zero i hi
  | succ n ih =>
    rw [worldOnShow_succ_iff, ← ih, after_succ, ShowsWorldAt, SetsMapAt]
    cases moves[n]? with
    | none => simp
    | some move => simp [worldView_step_iff]

/-- What a jump comes to after any run of moves, refused ones included. A jump that succeeds moves the camera to the thing's cell and has the map on show that holds the thing. The world still lies over this map exactly if the map was on show before the jump and the world has been shown since a map was last set. -/
theorem world_view_after_jump {maps : List MapKey} {chosen : Option MapKey} {sites : List SiteKey}
    {moves : List Move} {n : Nat} {c : Colony} {k : ThingKey} {shown : View}
    (hjump : ((ofMaps maps chosen sites).after moves n).jumpToThing c k = .ok shown) :
    shown.current = (c.thing k).mapHeld ∧ shown.current ≠ none ∧
    shown.camera = ((ofMaps maps chosen sites).after moves n).camera ++ [.cell (c.thing k).cell] ∧
    (shown.worldView = true ↔
      ((ofMaps maps chosen sites).after moves n).current = (c.thing k).mapHeld ∧
        (ofMaps maps chosen sites).WorldOnShow moves n) := by
  obtain ⟨m, hheld, _, rfl⟩ := jumpToThing_eq_ok_iff.1 hjump
  refine ⟨hheld.symm, Option.some_ne_none m, rfl, ?_⟩
  rw [← worldView_after_iff rfl, Bool.and_eq_true, decide_eq_true_eq, hheld, and_comm]

namespace Sample

/-- Each thing is held by the map of its own number. -/
def camps : Colony where
  thing := fun k => { cell := ⟨4, 2⟩, mapHeld := some ⟨k.index⟩ }

/-- The first of two loaded maps is on show. -/
def view : View := ofMaps [⟨0⟩, ⟨1⟩] none []

/-- The world is shown, and a map that is not loaded is asked for in vain. -/
def tour : List Move := [.showWorld, .setCurrent camps (some ⟨7⟩)]

/-- The view after the tour and a jump to the thing of that number. -/
def arrived (k : Nat) : View :=
  { view with
    current := some ⟨k⟩
    worldView := k == 0
    camera := [.cell ⟨4, 2⟩]
    selected := [.thing ⟨k⟩] }

theorem worldOnShow_tour : view.WorldOnShow tour 2 := by
  rw [← worldView_after_iff rfl]
  rfl

theorem jump_within : (view.after tour 2).jumpToThing camps ⟨0⟩ = .ok (arrived 0) := rfl

theorem jump_across : (view.after tour 2).jumpToThing camps ⟨1⟩ = .ok (arrived 1) := rfl

end Sample

open ColonySearch.View.Sample

theorem world_view_after_jump_sample :
    ((view.after tour 2).jumpToThing camps ⟨0⟩ = .ok (arrived 0) ∧
      view.WorldOnShow tour 2 ∧ (arrived 0).worldView = true) ∧
    ((view.after tour 2).jumpToThing camps ⟨1⟩ = .ok (arrived 1) ∧
      (arrived 1).current = some ⟨1⟩ ∧ ¬ (arrived 1).worldView = true) := by
  obtain ⟨_, _, _, hstays⟩ := world_view_after_jump jump_within
  obtain ⟨hcurrent, _, _, hleaves⟩ := world_view_after_jump jump_across
  refine ⟨⟨jump_within, worldOnShow_tour, hstays.2 ⟨rfl, worldOnShow_tour⟩⟩, jump_across, hcurrent, ?_⟩
  rw [hleaves]
  intro h
  exact absurd h.1 (by decide)

/-- A jump within the map on show leaves the world lying over it. -/
theorem world_view_outlasts_jump :
    ¬ ∀ (maps : List MapKey) (chosen : Option MapKey) (sites : List SiteKey) (moves : List Move)
        (n : Nat) (c : Colony) (k : ThingKey) (shown : View),
      ((ofMaps maps chosen sites).after moves n).jumpToThing c k = .ok shown →
      shown.current = (c.thing k).mapHeld ∧ shown.worldView = false := by
  intro h
  cases (h _ _ _ _ _ _ _ _ jump_within).2

end ColonySearch.View
