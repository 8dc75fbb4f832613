import Mathlib.Data.List.Basic
import ColonySearch.Proofs.Search.Meaning

/-!
# Searches keep the fog's secrets

Two colonies that differ only in what fog hides cannot be told apart by a search: the outcome is the same, be it results or a failure, and so is the log. This rests on two facts about the chain. Visibility is asked first, so a hidden thing is rejected before anything else is asked of it, and a thing in sight is judged by its own fields alone.
-/

namespace ColonySearch

namespace Colony

/-- The things that a map lists, those that fog hides left out. -/
def inSight (c : Colony) (m : MapKey) : List ThingKey :=
  (c.map m).spawned.filter fun k => !c.hides (c.thing k)

theorem mem_inSight_iff {c : Colony} {m : MapKey} {k : ThingKey} :
    k ∈ c.inSight m ↔ k ∈ (c.map m).spawned ∧ ¬ c.Hidden (c.thing k) := by
  rw [inSight, List.mem_filter, Bool.not_eq_true', hides_eq_false_iff]

/-- Two colonies have the same things in sight, in the same order and with the same fields, on every map of the scope, and the same sites. -/
structure AgreeInSight (s : Scope) (c₁ c₂ : Colony) : Prop where
  listed : ∀ m, m ∈ s.maps ∨ s.current = some m → c₁.inSight m = c₂.inSight m
  thing : ∀ m, m ∈ s.maps ∨ s.current = some m → ∀ k ∈ c₁.inSight m, c₁.thing k = c₂.thing k
  site : ∀ k ∈ s.sites, c₁.site k = c₂.site k

end Colony

theorem ThingPredicate.judge_congr {c₁ c₂ : Colony} {t : Thing} (h₁ : ¬ c₁.Hidden t)
    (h₂ : ¬ c₂.Hidden t) (p : ThingPredicate) : judge c₁ t p = judge c₂ t p := by
  cases p with
  | visible => rw [judge, judge, Colony.hides_eq_false_iff.2 h₁, Colony.hides_eq_false_iff.2 h₂]
  | labelMatch text => rfl
  | colonyOnly => rfl
  | notContained => rfl

namespace Colony

variable {c c₁ c₂ : Colony} {q : Query} {s : Scope}

theorem verdict_congr {k : ThingKey} (h₁ : ¬ c₁.Hidden (c₁.thing k)) (h₂ : ¬ c₂.Hidden (c₂.thing k))
    (hthing : c₁.thing k = c₂.thing k) (chain : List ThingPredicate) :
    c₁.verdict chain k = c₂.verdict chain k := by
  rw [hthing] at h₁
  unfold verdict
  rw [hthing, funext (ThingPredicate.judge_congr h₁ h₂)]

/-- The search of what the maps list is the search of what is in sight there. -/
theorem accepted_inSight {p : Thing → Bool} (maps : List MapKey) :
    c.accepted q.thingChain (maps.flatMap fun m => (c.map m).spawned.filter fun k => p (c.thing k)) =
      c.accepted q.thingChain (maps.flatMap fun m => (c.inSight m).filter fun k => p (c.thing k)) := by
  have hdrop : ∀ k ∈ maps.flatMap fun m => (c.map m).spawned.filter fun k => p (c.thing k),
      (!c.hides (c.thing k)) = false → c.verdict q.thingChain k = .ok false := by
    intro k _ hhidden
    rw [Bool.not_eq_false', hides_eq_true_iff] at hhidden
    exact verdict_of_hidden hhidden
  rw [← accepted_filter hdrop, List.filter_flatMap]
  simp only [inSight, List.filter_filter, Bool.and_comm]

/-- Colonies that agree in sight give the same outcome for the candidates of either kind. -/
theorem AgreeInSight.accepted_eq (h : AgreeInSight s c₁ c₂) {p : Thing → Bool} :
    c₁.accepted q.thingChain ((s.selected q).flatMap fun m =>
        (c₁.map m).spawned.filter fun k => p (c₁.thing k)) =
      c₂.accepted q.thingChain ((s.selected q).flatMap fun m =>
        (c₂.map m).spawned.filter fun k => p (c₂.thing k)) := by
  have hscope : ∀ m ∈ s.selected q, m ∈ s.maps ∨ s.current = some m := fun m hm =>
    (Scope.mem_selected.1 hm).mem_or_eq
  have hkeys : ((s.selected q).flatMap fun m => (c₁.inSight m).filter fun k => p (c₁.thing k)) =
      (s.selected q).flatMap fun m => (c₂.inSight m).filter fun k => p (c₂.thing k) := by
    refine List.flatMap_congr fun m hm => ?_
    rw [← h.listed m (hscope m hm)]
    refine List.filter_congr fun k hk => ?_
    rw [h.thing m (hscope m hm) k hk]
  rw [accepted_inSight, accepted_inSight, ← hkeys]
  refine accepted_congr fun k hk => ?_
  obtain ⟨m, hm, hk⟩ := List.mem_flatMap.1 hk
  have hk₁ := (List.mem_filter.1 hk).1
  have hk₂ := hk₁
  rw [h.listed m (hscope m hm)] at hk₂
  exact verdict_congr (mem_inSight_iff.1 hk₁).2 (mem_inSight_iff.1 hk₂).2
    (h.thing m (hscope m hm) k hk₁) q.thingChain

theorem AgreeInSight.evaluate_eq (h : AgreeInSight s c₁ c₂) :
    q.compile.evaluate c₁ s = q.compile.evaluate c₂ s := by
  have hpawns : q.compile.foundPawns c₁ s = q.compile.foundPawns c₂ s := by
    unfold Compiled.foundPawns
    split
    · exact h.accepted_eq
    · rfl
  have hthings : q.compile.foundThings c₁ s = q.compile.foundThings c₂ s := by
    unfold Compiled.foundThings
    split
    · exact h.accepted_eq
    · rfl
  have hsites : q.compile.foundSites c₁ s = q.compile.foundSites c₂ s := by
    unfold Compiled.foundSites
    split
    · refine List.filter_congr fun k hk => ?_
      rw [h.site k hk]
    · rfl
  rw [Compiled.evaluate_eq, Compiled.evaluate_eq, hpawns, hthings, hsites]

/-- The failure of an evaluation is the failure to judge a thing in sight on a visited map. -/
theorem exists_inSight_of_evaluate_eq_error {e : MissingTrait}
    (h : q.compile.evaluate c s = .error e) :
    ∃ m k, s.Visits q m ∧ k ∈ c.inSight m ∧ c.verdict q.thingChain k = .error e := by
  have hcause : ∀ p : Thing → Bool, c.accepted q.thingChain ((s.selected q).flatMap fun m =>
      (c.map m).spawned.filter fun k => p (c.thing k)) = .error e →
      ∃ m k, s.Visits q m ∧ k ∈ c.inSight m ∧ c.verdict q.thingChain k = .error e := by
    intro p h
    rw [accepted_inSight] at h
    obtain ⟨k, hk, hverdict⟩ := exists_of_accepted_eq_error h
    obtain ⟨m, hm, hk⟩ := List.mem_flatMap.1 hk
    exact ⟨m, k, Scope.mem_selected.1 hm, (List.mem_filter.1 hk).1, hverdict⟩
  rcases Compiled.found_of_evaluate_eq_error h with h | h
  · unfold Compiled.foundPawns at h
    split at h
    · exact hcause _ h
    · cases h
  · unfold Compiled.foundThings at h
    split at h
    · exact hcause _ h
    · cases h

end Colony

/-- A search tells nothing of what fog hides. Its outcome and its log are the same for colonies that agree on what is in sight, it returns nothing hidden, a failure comes from a thing in sight, and of a hidden thing nothing but its visibility is asked, whatever the term. -/
theorem search_tells_nothing_hidden (a : Alphabet) (raw : String) :
    (∀ (s : Scope) (c₁ c₂ : Colony), Colony.AgreeInSight s c₁ c₂ →
      search a raw c₁ s = search a raw c₂ s ∧
        ((Query.parse a raw).compile.evaluation c₁ s).log =
          ((Query.parse a raw).compile.evaluation c₂ s).log) ∧
    (∀ (s : Scope) (c : Colony) (r : Results), search a raw c s = .ok r →
      ∀ k, k ∈ r.pawns ∨ k ∈ r.things → ¬ c.Hidden (c.thing k)) ∧
    (∀ (s : Scope) (c : Colony) (e : MissingTrait), search a raw c s = .error e →
      ∃ m k, s.Visits (Query.parse a raw) m ∧ k ∈ (c.map m).spawned ∧ ¬ c.Hidden (c.thing k) ∧
        c.verdict (Query.parse a raw).thingChain k = .error e) ∧
    (∀ (c : Colony) (t : Thing), c.Hidden t →
      Chain.calls (ThingPredicate.judge c t) (Query.parse a raw).thingChain =
        [(.visible, .ok false)]) := by
  refine ⟨?_, ?_, ?_, ?_⟩
  · intro s c₁ c₂ h
    have hsearch : search a raw c₁ s = search a raw c₂ s := h.evaluate_eq
    rw [Compiled.evaluation, Compiled.evaluation, h.evaluate_eq]
    exact ⟨hsearch, rfl⟩
  · intro s c r h k hk
    rcases hk with hk | hk
    · exact ((mem_pawns_iff h).1 hk).2.2.2.1
    · exact ((mem_things_iff h).1 hk).2.2.2.2.1
  · intro s c e h
    obtain ⟨m, k, hm, hk, hverdict⟩ := Colony.exists_inSight_of_evaluate_eq_error h
    obtain ⟨hlisted, hseen⟩ := Colony.mem_inSight_iff.1 hk
    exact ⟨m, k, hm, hlisted, hseen, hverdict⟩
  · intro c t hhidden
    exact Colony.calls_of_hidden hhidden

namespace Sample

/-- The sample colony with other things in the fog: a pawn that is no actor, and one that is listed first. -/
def otherColony : Colony where
  thing := fun k =>
    if k.index = 1 then { label := "Ad", kind := .pawn, cell := ⟨1, 1⟩, mapHeld := some ⟨0⟩ }
    else if k.index = 4 then { kind := .pawn, cell := ⟨1, 1⟩, mapHeld := some ⟨0⟩, actor := some {} }
    else colony.thing k
  map := fun _ => { fogged := [⟨1, 1⟩], spawned := [⟨4⟩, ⟨0⟩, ⟨1⟩, ⟨2⟩, ⟨3⟩, ⟨0⟩, ⟨1⟩] }
  site := colony.site

/-- The same without fog, where the pawn that is no actor is in sight. -/
def clearColony : Colony :=
  { otherColony with map := fun m => { otherColony.map m with fogged := [] } }

end Sample

theorem search_tells_nothing_hidden_sample :
    (Colony.AgreeInSight Sample.scope Sample.colony Sample.otherColony ∧
      search {} "-.Ad" Sample.colony Sample.scope = search {} "-.Ad" Sample.otherColony Sample.scope) ∧
    (search {} "-.Ad" Sample.colony Sample.scope = .ok ⟨[⟨2⟩], [⟨0⟩], []⟩ ∧
      ¬ Sample.colony.Hidden (Sample.colony.thing ⟨2⟩)) ∧
    (search {} "-.Ad" Sample.clearColony Sample.scope = .error ⟨.kindLabel⟩ ∧
      ∃ m k, Sample.scope.Visits (Query.parse {} "-.Ad") m ∧ k ∈ (Sample.clearColony.map m).spawned ∧
        Sample.clearColony.verdict (Query.parse {} "-.Ad").thingChain k = .error ⟨.kindLabel⟩) ∧
    (Sample.otherColony.Hidden (Sample.otherColony.thing ⟨1⟩) ∧
      Chain.calls (ThingPredicate.judge Sample.otherColony (Sample.otherColony.thing ⟨1⟩))
        (Query.parse {} "-.Ad").thingChain = [(.visible, .ok false)]) := by
  obtain ⟨hsame, hreturned, hfailed, hasked⟩ := search_tells_nothing_hidden {} "-.Ad"
  have hagree : Colony.AgreeInSight Sample.scope Sample.colony Sample.otherColony := by
    constructor
    · intro m _
      change Sample.colony.inSight ⟨0⟩ = Sample.otherColony.inSight ⟨0⟩
      decide
    · intro m _ k hk
      change k ∈ Sample.colony.inSight ⟨0⟩ at hk
      revert k
      decide
    · intro k _
      rfl
  have hok : search {} "-.Ad" Sample.colony Sample.scope = .ok ⟨[⟨2⟩], [⟨0⟩], []⟩ := by
    decide +kernel
  have herror : search {} "-.Ad" Sample.clearColony Sample.scope = .error ⟨.kindLabel⟩ := by
    decide +kernel
  have hhidden : Sample.otherColony.Hidden (Sample.otherColony.thing ⟨1⟩) := ⟨⟨0⟩, rfl, by decide⟩
  refine ⟨⟨hagree, (hsame _ _ _ hagree).1⟩, ⟨hok, ?_⟩, ⟨herror, ?_⟩, hhidden, hasked _ _ hhidden⟩
  · exact hreturned _ _ _ hok ⟨2⟩ (Or.inr (by decide))
  · obtain ⟨m, k, hm, hk, _, hverdict⟩ := hfailed _ _ _ herror
    exact ⟨m, k, hm, hk, hverdict⟩

end ColonySearch
