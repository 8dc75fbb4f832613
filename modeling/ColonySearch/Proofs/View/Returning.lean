import ColonySearch.Proofs.Colony.Spawning
import ColonySearch.Proofs.Search.MapByMap
import ColonySearch.Proofs.View.Navigation

/-!
# Going to what was found

A search finds a thing on a map that lists it, and a jump goes to the map that holds it. As long as the thing has been spawned once and never been taken off its map, these are the same map, so the jump leads to where the thing was found: it cannot be refused, since the search has visited that map, and the same query asked of that map alone finds the thing again.
-/

namespace ColonySearch

variable {c : Colony} {acts : List Act} {q : Query} {v : View} {r : Results} {m : MapKey}
  {k : ThingKey}

/-- A map that a search has visited can be jumped to. -/
theorem View.exists_jumpToThing (hvisit : v.toScope.Visits q m) (hheld : (c.thing k).mapHeld = some m) :
    ∃ shown, v.jumpToThing c k = .ok shown ∧ shown.toScope = v.toScope.showing m :=
  ⟨_, jumpToThing_eq_ok_iff.2 ⟨m, hheld, hvisit.mem_or_eq.symm, rfl⟩, rfl⟩

/-- Whatever a search finds can be jumped to and found again there. In a colony that has come out of spawns and changes, and for a thing that has been spawned at most once and not been taken off its map, the jump succeeds from whatever view the search was made on, and the same query for the map on show alone returns and finds the thing where it was found before, among the pawns or among the things. -/
theorem found_again_after_jump (hempty : ∀ m, (c.map m).spawned = [])
    (hleaves : ∀ a ∈ acts, a.Leaves k) (honce : (placements k acts).length ≤ 1)
    (hr : q.compile.evaluate (c.after acts) v.toScope = .ok r) (hk : k ∈ r.pawns ∨ k ∈ r.things) :
    ∃ shown r', v.jumpToThing (c.after acts) k = .ok shown ∧
      { q with allMaps := false }.compile.evaluate (c.after acts) shown.toScope = .ok r' ∧
      (k ∈ r.pawns → k ∈ r'.pawns) ∧ (k ∈ r.things → k ∈ r'.things) := by
  obtain ⟨m, hvisit, hlist⟩ := reaches_of_found hr hk
  have hheld := Colony.mapHeld_eq_of_mem_spawned hempty hleaves honce hlist
  obtain ⟨shown, hjump, hscope⟩ := View.exists_jumpToThing hvisit hheld
  obtain ⟨r', hr'⟩ := exists_here_eq_ok hr hvisit
  refine ⟨shown, r', hjump, ?_, ?_, ?_⟩
  · rw [hscope]
    exact hr'
  · intro hpawn
    exact (mem_pawns_here_iff hr hvisit hr').2 ⟨hpawn, hlist⟩
  · intro hthing
    exact (mem_things_here_iff hr hvisit hr').2 ⟨hthing, hlist⟩

namespace Sample

/-- A map that lists nothing is on show; the other one is the crate's. -/
def abroad : View := { maps := [⟨1⟩, ⟨0⟩], current := some ⟨1⟩, worldView := true }

end Sample

open Sample in
theorem found_again_after_jump_sample :
    search {} "!.cr" (freshColony.after (moves.take 3)) abroad.toScope = .ok ⟨[⟨0⟩], [], []⟩ ∧
    ∃ shown r', abroad.jumpToThing (freshColony.after (moves.take 3)) ⟨0⟩ = .ok shown ∧
      { Query.parse {} "!.cr" with allMaps := false }.compile.evaluate
        (freshColony.after (moves.take 3)) shown.toScope = .ok r' ∧ ⟨0⟩ ∈ r'.things := by
  have hleaves : ∀ a ∈ moves.take 3, a.Leaves ⟨0⟩ := by
    unfold Act.Leaves
    decide
  have hfound : search {} "!.cr" (freshColony.after (moves.take 3)) abroad.toScope =
      .ok ⟨[⟨0⟩], [], []⟩ := by
    decide +kernel
  obtain ⟨shown, r', hjump, hr', _, hagain⟩ := found_again_after_jump (fun _ => rfl) hleaves
    (by decide) hfound (Or.inr List.mem_cons_self)
  exact ⟨hfound, shown, r', hjump, hr', hagain List.mem_cons_self⟩

end ColonySearch
