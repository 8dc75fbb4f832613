import ColonySearch.Proofs.Search.Failure

/-!
# Searches do not depend on how things are listed

The maps that are loaded, the things that a map lists and the sites of the world may stand in any order and be listed any number of times: a search comes to the same. What is found is said by membership alone, and each member is kept once, so the results are the same up to order and the counts that are logged are equal. The failure does not depend on which stray is met first, since all strays in sight fail a query in the same way.
-/

namespace ColonySearch

/-- The same entities and the same fog, listed with the same members: on the maps, among the maps and in the world. -/
structure Relisted (c₁ c₂ : Colony) (s₁ s₂ : Scope) : Prop where
  thing : ∀ k, c₁.thing k = c₂.thing k
  site : ∀ k, c₁.site k = c₂.site k
  fogged : ∀ m cell, cell ∈ (c₁.map m).fogged ↔ cell ∈ (c₂.map m).fogged
  spawned : ∀ m k, k ∈ (c₁.map m).spawned ↔ k ∈ (c₂.map m).spawned
  current : s₁.current = s₂.current
  maps : ∀ m, m ∈ s₁.maps ↔ m ∈ s₂.maps
  sites : ∀ k, k ∈ s₁.sites ↔ k ∈ s₂.sites

namespace Relisted

variable {c₁ c₂ : Colony} {s₁ s₂ : Scope} {q : Query} {r₁ r₂ : Results} {k : ThingKey}

theorem hidden_iff (h : Relisted c₁ c₂ s₁ s₂) (t : Thing) : c₁.Hidden t ↔ c₂.Hidden t := by
  apply exists_congr
  intro m
  rw [h.fogged]

theorem visits_iff (h : Relisted c₁ c₂ s₁ s₂) (m : MapKey) : s₁.Visits q m ↔ s₂.Visits q m := by
  rw [Scope.Visits, Scope.Visits, h.maps, h.current]

theorem reaches_iff (h : Relisted c₁ c₂ s₁ s₂) (k : ThingKey) :
    s₁.Reaches c₁ q k ↔ s₂.Reaches c₂ q k := by
  apply exists_congr
  intro m
  rw [h.visits_iff, h.spawned]

theorem evaluate_eq_error_iff (h : Relisted c₁ c₂ s₁ s₂) (e : MissingTrait) :
    q.compile.evaluate c₁ s₁ = .error e ↔ q.compile.evaluate c₂ s₂ = .error e := by
  have hstrays : (∃ k, s₁.Reaches c₁ q k ∧ (c₁.thing k).IsStray ∧ ¬ c₁.Hidden (c₁.thing k)) ↔
      ∃ k, s₂.Reaches c₂ q k ∧ (c₂.thing k).IsStray ∧ ¬ c₂.Hidden (c₂.thing k) := by
    apply exists_congr
    intro k
    rw [h.reaches_iff, h.thing, h.hidden_iff]
  rw [Compiled.evaluate_eq_error_iff, Compiled.evaluate_eq_error_iff, hstrays]

theorem exists_evaluate_eq_ok (h : Relisted c₁ c₂ s₁ s₂) (hr₁ : q.compile.evaluate c₁ s₁ = .ok r₁) :
    ∃ r₂, q.compile.evaluate c₂ s₂ = .ok r₂ := by
  apply Outcome.exists_eq_ok
  intro e hr₂
  rw [(h.evaluate_eq_error_iff e).2 hr₂] at hr₁
  cases hr₁

/-! ### The results -/

variable (h : Relisted c₁ c₂ s₁ s₂) (hr₁ : q.compile.evaluate c₁ s₁ = .ok r₁)
  (hr₂ : q.compile.evaluate c₂ s₂ = .ok r₂)

include h hr₁ hr₂

theorem pawns_perm : r₁.pawns.Perm r₂.pawns := by
  apply Compiled.pawns_perm_of_mem_iff hr₁ hr₂
  intro k
  rw [mem_pawns_iff hr₁, mem_pawns_iff hr₂, h.reaches_iff, h.thing, h.hidden_iff]

theorem things_perm : r₁.things.Perm r₂.things := by
  apply Compiled.things_perm_of_mem_iff hr₁ hr₂
  intro k
  rw [mem_things_iff hr₁, mem_things_iff hr₂, h.reaches_iff, h.thing, h.hidden_iff]

theorem sites_perm : r₁.sites.Perm r₂.sites := by
  apply Compiled.sites_perm_of_mem_iff hr₁ hr₂
  intro k
  rw [mem_sites_iff hr₁, mem_sites_iff hr₂, h.sites, h.site]

theorem evaluated_eq : q.evaluated r₁ = q.evaluated r₂ := by
  rw [Query.evaluated, Query.evaluated, (pawns_perm h hr₁ hr₂).length_eq,
    (things_perm h hr₁ hr₂).length_eq, (sites_perm h hr₁ hr₂).length_eq]

theorem total_eq : r₁.total = r₂.total :=
  Results.total_eq_of_perm (pawns_perm h hr₁ hr₂) (things_perm h hr₁ hr₂) (sites_perm h hr₁ hr₂)

end Relisted

/-- The outcome of a search does not depend on the order of the lists it reads, nor on repetitions in them: it fails in the same way or finds the same pawns, things and sites, as many of them, and logs the same. -/
theorem evaluation_ignores_order {c₁ c₂ : Colony} {s₁ s₂ : Scope} (h : Relisted c₁ c₂ s₁ s₂)
    (q : Query) :
    (∀ e, q.compile.evaluate c₁ s₁ = .error e ↔ q.compile.evaluate c₂ s₂ = .error e) ∧
    (∀ r₁, q.compile.evaluate c₁ s₁ = .ok r₁ → ∃ r₂, q.compile.evaluate c₂ s₂ = .ok r₂ ∧
      r₁.pawns.Perm r₂.pawns ∧ r₁.things.Perm r₂.things ∧ r₁.sites.Perm r₂.sites ∧
      r₁.total = r₂.total) ∧
    (q.compile.evaluation c₁ s₁).log = (q.compile.evaluation c₂ s₂).log := by
  refine ⟨h.evaluate_eq_error_iff, ?_, ?_⟩
  · intro r₁ hr₁
    obtain ⟨r₂, hr₂⟩ := h.exists_evaluate_eq_ok hr₁
    exact ⟨r₂, hr₂, h.pawns_perm hr₁ hr₂, h.things_perm hr₁ hr₂, h.sites_perm hr₁ hr₂,
      h.total_eq hr₁ hr₂⟩
  · cases hr₁ : q.compile.evaluate c₁ s₁ with
    | error e =>
      have hr₂ := (h.evaluate_eq_error_iff e).1 hr₁
      rw [Compiled.log_evaluation_of_error hr₁, Compiled.log_evaluation_of_error hr₂]
    | ok r₁ =>
      obtain ⟨r₂, hr₂⟩ := h.exists_evaluate_eq_ok hr₁
      rw [Compiled.log_evaluation_of_ok hr₁, Compiled.log_evaluation_of_ok hr₂]
      exact congrArg (fun event => [event]) (h.evaluated_eq hr₁ hr₂)

namespace Sample

/-- The sample colony with its things listed in another order and with another repetition. -/
def shuffledColony : Colony :=
  { colony with map := fun m => { colony.map m with spawned := [⟨3⟩, ⟨1⟩, ⟨2⟩, ⟨1⟩, ⟨0⟩] } }

def twoMaps : Scope := { maps := [⟨0⟩, ⟨1⟩], sites := [⟨0⟩] }

def shuffledMaps : Scope := { maps := [⟨1⟩, ⟨0⟩, ⟨1⟩], sites := [⟨0⟩, ⟨0⟩] }

theorem relisted : Relisted colony shuffledColony twoMaps shuffledMaps where
  thing _ := rfl
  site _ := rfl
  fogged _ _ := Iff.rfl
  spawned m k := by
    simp only [colony, shuffledColony, List.mem_cons, List.not_mem_nil, or_false]
    grind
  current := rfl
  maps m := by
    simp only [twoMaps, shuffledMaps, List.mem_cons, List.not_mem_nil, or_false]
    grind
  sites k := by
    simp only [twoMaps, shuffledMaps, List.mem_cons, List.not_mem_nil, or_false, or_self]

end Sample

theorem evaluation_ignores_order_sample :
    ∃ r, { Sample.query with allMaps := true }.compile.evaluate Sample.shuffledColony
        Sample.shuffledMaps = .ok r ∧
      [⟨0⟩].Perm r.pawns ∧ [⟨2⟩].Perm r.things ∧ [⟨0⟩].Perm r.sites ∧ r.total = 3 := by
  obtain ⟨_, hfinds, _⟩ :=
    evaluation_ignores_order Sample.relisted { Sample.query with allMaps := true }
  have hr : { Sample.query with allMaps := true }.compile.evaluate Sample.colony Sample.twoMaps =
      .ok ⟨[⟨2⟩], [⟨0⟩], [⟨0⟩]⟩ := by
    decide +kernel
  obtain ⟨r, hr', hpawns, hthings, hsites, htotal⟩ := hfinds _ hr
  exact ⟨r, hr', hpawns, hthings, hsites, htotal.symm⟩

end ColonySearch
