import ColonySearch.Proofs.Colony.Spawning
import ColonySearch.Proofs.Search.Flags
import ColonySearch.Proofs.Search.MapByMap
import ColonySearch.Proofs.View.Navigation

/-!
# Whether the map on show is loaded

Only a loaded map can be put on show by a move, and a move that is refused changes nothing. So once a move has set the map, a loaded map is on show or none, and this stays so. A fresh view is another matter: it shows the map of choice, loaded or not, and this map stays on show until a move sets another one. What that map lists is found by searches of the map on show and missed by those of all maps, which go through the loaded ones.
-/

namespace ColonySearch

theorem Scope.ShowsLoaded.reaches_everywhere {s : Scope} {c : Colony} {m : MapKey} {k : ThingKey}
    (h : s.ShowsLoaded) (hcurrent : s.current = some m) (hlist : k ∈ (c.map m).spawned)
    (a : Alphabet) (raw : String) : s.Reaches c (Query.parse a ("!" ++ raw)) k :=
  (visits_everywhere_iff.2 (h m hcurrent)).reaches hlist

/-- A map may list what no other map does, so all of it is searched only if the map itself is. -/
theorem Scope.showsLoaded_iff_reaches_everywhere {s : Scope} : s.ShowsLoaded ↔
    ∀ (a : Alphabet) (raw : String) (c : Colony) (m : MapKey) (k : ThingKey),
      s.current = some m → k ∈ (c.map m).spawned → s.Reaches c (Query.parse a ("!" ++ raw)) k := by
  constructor
  · intro h a raw c m k hcurrent hlist
    exact h.reaches_everywhere hcurrent hlist a raw
  · intro h m hcurrent
    -- The only thing there is has been spawned on the map on show and is listed nowhere else.
    have hlist : (⟨0⟩ : ThingKey) ∈ ((({} : Colony).spawn m ⟨0⟩).map m).spawned :=
      Colony.mem_spawned_spawn.2 (Or.inr ⟨rfl, rfl⟩)
    obtain ⟨n, hvisit, hmem⟩ := h {} "" _ m ⟨0⟩ hcurrent hlist
    rcases Colony.mem_spawned_spawn.1 hmem with hbefore | ⟨rfl, _⟩
    · cases hbefore
    · exact visits_everywhere_iff.1 hvisit

namespace View

variable {v : View} {move : Move} {moves : List Move} {n : Nat}

/-! ### One move -/

theorem maps_step : (v.step move).maps = v.maps := by
  by_cases hsets : v.SetsMap move
  · obtain ⟨m, camera, selected, _, hstep⟩ := step_of_setsMap hsets
    rw [hstep]
  · obtain ⟨worldView, camera, selected, _, hstep⟩ := step_of_not_setsMap hsets
    rw [hstep]

theorem showsLoaded_step_iff : (v.step move).ShowsLoaded ↔ v.ShowsLoaded ∨ v.SetsMap move := by
  by_cases hsets : v.SetsMap move
  · obtain ⟨m, camera, selected, hloaded, hstep⟩ := step_of_setsMap hsets
    rw [hstep]
    exact iff_of_true hloaded (Or.inr hsets)
  · obtain ⟨worldView, camera, selected, _, hstep⟩ := step_of_not_setsMap hsets
    rw [hstep]
    exact (or_iff_left hsets).symm

/-! ### Many moves -/

theorem maps_after : (v.after moves n).maps = v.maps := by
  induction n with
  | zero => rfl
  | succ n ih =>
    rw [after_succ]
    cases moves[n]? with
    | none => exact ih
    | some move => exact maps_step.trans ih

/-- The map on show is loaded, or there is none, exactly if this was so at the start or some move has set the map since. -/
theorem showsLoaded_after_iff : (v.after moves n).ShowsLoaded ↔
    v.ShowsLoaded ∨ ∃ i, i < n ∧ v.SetsMapAt moves i := by
  induction n with
  | zero => simp [after]
  | succ n ih =>
    have hstep : (v.after moves (n + 1)).ShowsLoaded ↔
        (v.after moves n).ShowsLoaded ∨ v.SetsMapAt moves n := by
      rw [after_succ, SetsMapAt]
      cases moves[n]? with
      | none => simp
      | some move => simp [showsLoaded_step_iff]
    simp only [hstep, ih, Nat.lt_succ_iff_lt_or_eq, or_and_right, exists_or, exists_eq_left, or_assoc]

theorem showsLoaded_ofMaps_iff {maps : List MapKey} {chosen : Option MapKey} {sites : List SiteKey} :
    (ofMaps maps chosen sites).ShowsLoaded ↔ ∀ m, chosen = some m → m ∈ maps := by
  cases chosen with
  | some m => exact Iff.rfl
  | none =>
    refine iff_of_true ?_ nofun
    intro m hm
    exact List.mem_of_head? hm

/-- When the map on show can be relied on to be loaded. After any run of moves, refused ones included, the loaded maps are those of the fresh view, and the map on show is one of them, unless there is none, exactly if the map of choice was loaded or left open or some move has set the map since. This is also exactly when the terms for all maps go through all that the map on show lists. -/
theorem map_on_show_loaded_iff (maps : List MapKey) (chosen : Option MapKey) (sites : List SiteKey)
    (moves : List Move) (n : Nat) :
    ((ofMaps maps chosen sites).after moves n).maps = maps ∧
    (((ofMaps maps chosen sites).after moves n).ShowsLoaded ↔
      (∀ m, chosen = some m → m ∈ maps) ∨
        ∃ i, i < n ∧ (ofMaps maps chosen sites).SetsMapAt moves i) ∧
    (((ofMaps maps chosen sites).after moves n).ShowsLoaded ↔
      ∀ (a : Alphabet) (raw : String) (c : Colony) (m : MapKey) (k : ThingKey),
        ((ofMaps maps chosen sites).after moves n).current = some m → k ∈ (c.map m).spawned →
        ((ofMaps maps chosen sites).after moves n).Reaches c (Query.parse a ("!" ++ raw)) k) := by
  refine ⟨maps_after, ?_, Scope.showsLoaded_iff_reaches_everywhere⟩
  rw [showsLoaded_after_iff, showsLoaded_ofMaps_iff]

namespace Sample

/-- The map of choice is not loaded, and another one is. -/
def adrift : View := ofMaps [⟨1⟩] (some ⟨0⟩) []

/-- A map that is not loaded is asked for in vain, then a thing on the map on show is jumped to and one on the loaded map. -/
def detour : List Move :=
  [.setCurrent camps (some ⟨7⟩), .jumpToThing camps ⟨0⟩, .jumpToThing camps ⟨1⟩]

end Sample

open ColonySearch.View.Sample in
theorem map_on_show_loaded_sample : (adrift.after detour 2).current = some ⟨0⟩ ∧
    (⟨0⟩ : MapKey) ∉ (adrift.after detour 2).maps ∧ (adrift.after detour 3).ShowsLoaded := by
  obtain ⟨hmaps, _⟩ := map_on_show_loaded_iff [⟨1⟩] (some ⟨0⟩) [] detour 2
  obtain ⟨_, hloaded, _⟩ := map_on_show_loaded_iff [⟨1⟩] (some ⟨0⟩) [] detour 3
  refine ⟨rfl, ?_, hloaded.2 (Or.inr ⟨2, by decide, _, rfl, ⟨1⟩, by decide, rfl, by decide⟩)⟩
  rw [adrift, hmaps]
  decide

/-- A map of choice is shown without being loaded. -/
theorem chosen_map_shown_unloaded :
    ¬ ∀ (maps : List MapKey) (chosen : Option MapKey) (sites : List SiteKey) (moves : List Move)
        (n : Nat), ((ofMaps maps chosen sites).after moves n).ShowsLoaded := by
  intro h
  have hloaded : (⟨0⟩ : MapKey) ∈ [] := h [] (some ⟨0⟩) [] [] 0 ⟨0⟩ rfl
  cases hloaded

end View

end ColonySearch
