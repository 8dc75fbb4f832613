import ColonySearch.Proofs.Colony.Spawning
import ColonySearch.Proofs.Search.Failure

/-!
# Held things are listed

Which map holds a thing and which maps list it is written down in two places, and of the two ways in which they could come apart one never happens: a map lists whatever it holds. Only a spawn makes a map hold a thing, and the spawn lists it there; no list ever loses a thing; and a thing that is taken off its map is held by none. So nothing that was spawned is lost to searches. While the map that holds it is loaded and the thing is in sight, the term that asks for everything of its sort on all maps finds it, whatever is on show.
-/

namespace ColonySearch

namespace Colony

variable {c : Colony} {a : Act} {m : MapKey} {k : ThingKey}

/-- Every map lists the things that it holds. -/
def ListsHeld (c : Colony) : Prop := ∀ k m, (c.thing k).mapHeld = some m → k ∈ (c.map m).spawned

theorem listsHeld_of_fresh (hfresh : ∀ k, (c.thing k).mapHeld = none) : c.ListsHeld := by
  intro k m hheld
  rw [hfresh] at hheld
  cases hheld

theorem mapHeld_step_detach (c : Colony) (k : ThingKey) :
    ((c.step (.change k .detach)).thing k).mapHeld = none := by
  rw [step, change, Thing.change, Except.map, thing_setThing]

/-- A map that holds a thing after an act held it before, or has the thing spawned on it by the act. -/
theorem held_or_placed_of_step (h : ((c.step a).thing k).mapHeld = some m) :
    (c.thing k).mapHeld = some m ∨ m ∈ a.placements k := by
  by_cases hleaves : a.Leaves k
  · rw [mapHeld_step hleaves, Option.or_eq_some_iff] at h
    rcases h with hlast | ⟨_, hheld⟩
    · exact Or.inr (List.mem_of_getLast? hlast)
    · exact Or.inl hheld
  · have hdetach : a = .change k .detach := not_not.1 hleaves
    rw [hdetach, mapHeld_step_detach] at h
    cases h

theorem ListsHeld.step (h : c.ListsHeld) (a : Act) : (c.step a).ListsHeld := by
  intro k m hheld
  rw [mem_spawned_step]
  exact (held_or_placed_of_step hheld).imp_left (h k m)

theorem ListsHeld.after (h : c.ListsHeld) (acts : List Act) : (c.after acts).ListsHeld := by
  induction acts generalizing c with
  | nil => exact h
  | cons a rest ih => exact ih (h.step a)

theorem not_hidden_of_mapHeld {t : Thing} (hheld : t.mapHeld = some m)
    (hclear : t.cell ∉ (c.map m).fogged) : ¬ c.Hidden t := by
  intro hhidden
  obtain ⟨m', hheld', hfog⟩ := hhidden
  rw [hheld] at hheld'
  cases hheld'
  exact hclear hfog

end Colony

variable {c : Colony} {s : Scope} {q : Query} {m : MapKey} {k : ThingKey}

/-- The query asks for everything of its sorts on all maps. -/
structure Query.AsksAll (q : Query) : Prop where
  allMaps : q.allMaps = true
  matchAll : q.matchAll = true

namespace Query.AsksAll

theorem exists_evaluate_eq_ok (hall : q.AsksAll) : ∃ r, q.compile.evaluate c s = .ok r := by
  apply Outcome.exists_eq_ok
  intro e h
  obtain ⟨_, _, hfail⟩ := Compiled.evaluate_eq_error_iff.1 h
  obtain ⟨hmatch, _⟩ := actorlessFailure_eq_some_iff.1 hfail
  rw [hall.matchAll] at hmatch
  cases hmatch

theorem reaches (hall : q.AsksAll) (hm : m ∈ s.maps) (hlist : k ∈ (c.map m).spawned) :
    s.Reaches c q k := by
  refine ⟨m, ?_, hlist⟩
  rw [Scope.Visits, if_pos hall.allMaps]
  exact hm

end Query.AsksAll

/-- No spawned thing is lost. Begin with a colony in which no map holds anything, and let things be spawned, once or again and on any maps, be changed and be taken off their maps, and fog come and go: a map that then holds a thing lists it. So whatever is on show, as long as this map is loaded and not fogged where the thing lies, the search for all pawns on all maps returns and finds the thing if it counts as a pawn, and the search for all things to haul on all maps returns and finds it if it can be hauled and does not. -/
theorem spawned_thing_not_lost {acts : List Act} (hfresh : ∀ k, (c.thing k).mapHeld = none)
    (hheld : ((c.after acts).thing k).mapHeld = some m) :
    k ∈ ((c.after acts).map m).spawned ∧
    ∀ (a : Alphabet) (s : Scope), m ∈ s.maps →
      ((c.after acts).thing k).cell ∉ ((c.after acts).map m).fogged →
      (((c.after acts).thing k).kind = .pawn →
        ∃ r, search a "!-*" (c.after acts) s = .ok r ∧ k ∈ r.pawns) ∧
      (((c.after acts).thing k).haulable = true → ((c.after acts).thing k).kind ≠ .pawn →
        ∃ r, search a "!.*" (c.after acts) s = .ok r ∧ k ∈ r.things) := by
  have hlist := (Colony.listsHeld_of_fresh hfresh).after acts k m hheld
  refine ⟨hlist, ?_⟩
  intro a s hloaded hclear
  have hseen := Colony.not_hidden_of_mapHeld hheld hclear
  constructor
  · intro hkind
    have hall : (Query.parse a "!-*").AsksAll := ⟨rfl, rfl⟩
    obtain ⟨r, hr⟩ : ∃ r, search a "!-*" (c.after acts) s = .ok r := hall.exists_evaluate_eq_ok
    exact ⟨r, hr, (mem_pawns_iff hr).2
      ⟨rfl, hall.reaches hloaded hlist, hkind, hseen, Or.inl hall.matchAll⟩⟩
  · intro hhaul hkind
    have hall : (Query.parse a "!.*").AsksAll := ⟨rfl, rfl⟩
    obtain ⟨r, hr⟩ : ∃ r, search a "!.*" (c.after acts) s = .ok r := hall.exists_evaluate_eq_ok
    exact ⟨r, hr, (mem_things_iff hr).2
      ⟨rfl, hall.reaches hloaded hlist, hhaul, hkind, hseen, Or.inl hall.matchAll⟩⟩

namespace Sample

/-- The crate is spawned on two maps in turn, taken off the second and put back there. -/
def wanderings : List Act := moves ++ [.change ⟨0⟩ .detach, .spawn ⟨1⟩ ⟨0⟩]

/-- In the end the crate, which is no actor, counts as a pawn. -/
def transformation : List Act := wanderings ++ [.change ⟨0⟩ (.kind .pawn)]

/-- The map that holds the crate in the end is loaded, and its former one is on show. -/
def elsewhere : Scope := { maps := [⟨1⟩], current := some ⟨0⟩ }

end Sample

open Sample in
theorem spawned_thing_not_lost_sample :
    (((freshColony.after wanderings).thing ⟨0⟩).mapHeld = some ⟨1⟩ ∧
      ⟨0⟩ ∈ ((freshColony.after wanderings).map ⟨1⟩).spawned ∧
      ∃ r, search {} "!.*" (freshColony.after wanderings) elsewhere = .ok r ∧ ⟨0⟩ ∈ r.things) ∧
    (((freshColony.after transformation).thing ⟨0⟩).actor = none ∧
      ∃ r, search {} "!-*" (freshColony.after transformation) elsewhere = .ok r ∧ ⟨0⟩ ∈ r.pawns) := by
  have hheld : ((freshColony.after wanderings).thing ⟨0⟩).mapHeld = some ⟨1⟩ := by decide
  have hheld' : ((freshColony.after transformation).thing ⟨0⟩).mapHeld = some ⟨1⟩ := by decide
  obtain ⟨hlist, hfound⟩ := spawned_thing_not_lost (fun _ => rfl) hheld
  obtain ⟨_, hfound'⟩ := spawned_thing_not_lost (fun _ => rfl) hheld'
  obtain ⟨_, hthing⟩ := hfound {} elsewhere (by decide) (by decide)
  obtain ⟨hpawn, _⟩ := hfound' {} elsewhere (by decide) (by decide)
  exact ⟨⟨hheld, hlist, hthing (by decide) (by decide)⟩, rfl, hpawn (by decide)⟩

end ColonySearch
