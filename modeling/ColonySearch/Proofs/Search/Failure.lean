import ColonySearch.Proofs.Search.Meaning

/-!
# When a search fails

Only one kind of thing can make a search fail: a stray, which counts as a pawn by its kind and was never made an actor. Even a stray does no harm in the fog, where nothing but its visibility is asked, or under a query that asks nothing of labels and sides. The failure is settled by the query alone, since the chain asks for the kind label before it asks for the side. So neither the order of the maps nor that of the things matters, and the search of the haulable things, none of which counts as a pawn, never fails.
-/

namespace ColonySearch

open Outcome

/-- The thing counts as a pawn and has none of the traits of an actor. -/
def Thing.IsStray (t : Thing) : Prop := t.kind = .pawn ∧ t.actor = none

variable {q : Query} {c : Colony} {s : Scope} {k : ThingKey} {keys : List ThingKey}
  {e : MissingTrait}

theorem Query.actorlessFailure_eq_some_iff : q.actorlessFailure = some e ↔
    q.matchAll = false ∧ (q.label ≠ "" ∨ q.colonyOnly = true) ∧
      e = ⟨if q.label = "" then .colonist else .kindLabel⟩ := by
  unfold actorlessFailure
  cases q.matchAll <;> cases q.colonyOnly <;> by_cases hlabel : q.label = "" <;>
    simp [hlabel, eq_comm]

/-! ### One thing -/

theorem Thing.isStray_of_actorFor_eq_error {t : Thing} {trait : Trait} (hpawn : t.isPawn = true)
    (h : t.actorFor trait = .error e) : t.IsStray := by
  refine ⟨isPawn_iff.1 hpawn, ?_⟩
  cases hactor : t.actor with
  | none => rfl
  | some a =>
    rw [actorFor, hactor] at h
    cases h

theorem ThingPredicate.isStray_of_judge_eq_error {t : Thing} {p : ThingPredicate}
    (h : judge c t p = .error e) : t.IsStray := by
  cases p with
  | visible => cases h
  | labelMatch text =>
    rw [judge] at h
    split at h
    · next hpawn => exact Thing.isStray_of_actorFor_eq_error hpawn (map_eq_error_iff.1 h)
    · cases h
  | colonyOnly =>
    rw [judge] at h
    split at h
    · next hpawn => exact Thing.isStray_of_actorFor_eq_error hpawn (map_eq_error_iff.1 h)
    · cases h
  | notContained => cases h

namespace Colony

/-- The chain fails exactly for a stray in sight, and always in the same way. -/
theorem verdict_eq_error_iff : c.verdict q.thingChain k = .error e ↔
    ((c.thing k).IsStray ∧ ¬ c.Hidden (c.thing k)) ∧ q.actorlessFailure = some e := by
  constructor
  · intro h
    obtain ⟨p, _, hp⟩ := Chain.exists_of_run_eq_error h
    have hstray := ThingPredicate.isStray_of_judge_eq_error hp
    have hseen : ¬ c.Hidden (c.thing k) := by
      intro hhidden
      rw [verdict_of_hidden hhidden] at h
      cases h
    refine ⟨⟨hstray, hseen⟩, ?_⟩
    rw [verdict_actorless hstray.1 hstray.2 hseen] at h
    cases hfail : q.actorlessFailure with
    | none =>
      rw [hfail] at h
      cases h
    | some e' =>
      rw [hfail] at h
      cases h
      rfl
  · rintro ⟨⟨hstray, hseen⟩, hfail⟩
    rw [verdict_actorless hstray.1 hstray.2 hseen, hfail]

/-- The search of a list fails exactly when a stray in sight is on it. -/
theorem accepted_eq_error_iff : c.accepted q.thingChain keys = .error e ↔
    (∃ k ∈ keys, (c.thing k).IsStray ∧ ¬ c.Hidden (c.thing k)) ∧
      q.actorlessFailure = some e := by
  constructor
  · intro h
    obtain ⟨k, hmem, hverdict⟩ := exists_of_accepted_eq_error h
    obtain ⟨hstray, hfail⟩ := verdict_eq_error_iff.1 hverdict
    exact ⟨⟨k, hmem, hstray⟩, hfail⟩
  · rintro ⟨⟨k, hmem, hstray⟩, hfail⟩
    have hverdict : c.verdict q.thingChain k = .error e := verdict_eq_error_iff.2 ⟨hstray, hfail⟩
    cases haccepted : c.accepted q.thingChain keys with
    | ok found =>
      obtain ⟨holds, hreturns⟩ := (accepted_eq_ok_iff.1 haccepted).1 k hmem
      rw [hverdict] at hreturns
      cases hreturns
    | error e' =>
      obtain ⟨k', _, hverdict'⟩ := exists_of_accepted_eq_error haccepted
      have hfail' := (verdict_eq_error_iff.1 hverdict').2
      rw [hfail] at hfail'
      cases hfail'
      rfl

end Colony

/-! ### The whole search -/

theorem Compiled.foundPawns_eq_error_iff : q.compile.foundPawns c s = .error e ↔
    q.pawns = true ∧
      (∃ k, s.Reaches c q k ∧ (c.thing k).IsStray ∧ ¬ c.Hidden (c.thing k)) ∧
      q.actorlessFailure = some e := by
  have hreach : ∀ k, (k ∈ (s.selected q).flatMap c.pawnsOn ∧ (c.thing k).IsStray ∧
      ¬ c.Hidden (c.thing k)) ↔
      s.Reaches c q k ∧ (c.thing k).IsStray ∧ ¬ c.Hidden (c.thing k) := by
    intro k
    apply and_congr_left
    intro hstray
    rw [Scope.mem_selected_pawnsOn]
    exact and_iff_left hstray.1.1
  rw [← exists_congr hreach, foundPawns]
  cases hwant : q.pawns with
  | false => simp [Query.compile, hwant]
  | true =>
    simp only [Query.compile, hwant, if_true, true_and]
    exact Colony.accepted_eq_error_iff

/-- Nothing that can be hauled counts as a pawn, so all of it can be judged. -/
theorem Compiled.foundThings_ne_error : q.compile.foundThings c s ≠ .error e := by
  intro h
  rw [foundThings] at h
  split at h
  · obtain ⟨⟨k, hmem, hstray, _⟩, _⟩ := Colony.accepted_eq_error_iff.1 h
    exact (Scope.mem_selected_haulablesOn.1 hmem).2.2 hstray.1
  · cases h

theorem Compiled.evaluate_eq_error_iff : q.compile.evaluate c s = .error e ↔
    q.pawns = true ∧
      (∃ k, s.Reaches c q k ∧ (c.thing k).IsStray ∧ ¬ c.Hidden (c.thing k)) ∧
      q.actorlessFailure = some e := by
  rw [← foundPawns_eq_error_iff]
  constructor
  · intro h
    exact (found_of_evaluate_eq_error h).resolve_right foundThings_ne_error
  · intro h
    rw [evaluate_eq]
    exact bind_eq_error_iff.2 (Or.inl h)

/-- A search that does not ask for pawns always returns. -/
theorem Compiled.exists_evaluate_eq_ok (hpawns : q.pawns = false) :
    ∃ r, q.compile.evaluate c s = .ok r := by
  apply exists_eq_ok
  intro e h
  have hwant := (evaluate_eq_error_iff.1 h).1
  rw [hpawns] at hwant
  cases hwant

/-- Exactly when a search fails. It fails if and only if pawns are wanted, their labels or their side are asked for, and some visited map lists a pawn in sight that is no actor. What it then reports depends on the query alone, and nothing is logged. -/
theorem evaluation_fails_iff (q : Query) (c : Colony) (s : Scope) :
    ((∃ e, q.compile.evaluate c s = .error e) ↔
      q.pawns = true ∧ q.matchAll = false ∧ (q.label ≠ "" ∨ q.colonyOnly = true) ∧
        ∃ m k, s.Visits q m ∧ k ∈ (c.map m).spawned ∧ (c.thing k).actor = none ∧
          (c.thing k).kind = .pawn ∧ ¬ c.Hidden (c.thing k)) ∧
    (∀ e, q.compile.evaluate c s = .error e →
      e.message = (if q.label = "" then "'Thing' object has no attribute 'is_colonist'"
        else "'Thing' object has no attribute 'kind_label'") ∧
      (q.compile.evaluation c s).log = []) := by
  constructor
  · constructor
    · rintro ⟨e, h⟩
      obtain ⟨hpawns, ⟨k, ⟨m, hvisit, hlist⟩, ⟨hkind, hactor⟩, hseen⟩, hfail⟩ :=
        Compiled.evaluate_eq_error_iff.1 h
      obtain ⟨hmatch, hasks, _⟩ := Query.actorlessFailure_eq_some_iff.1 hfail
      exact ⟨hpawns, hmatch, hasks, m, k, hvisit, hlist, hactor, hkind, hseen⟩
    · rintro ⟨hpawns, hmatch, hasks, m, k, hvisit, hlist, hactor, hkind, hseen⟩
      have hfail := Query.actorlessFailure_eq_some_iff.2 ⟨hmatch, hasks, rfl⟩
      exact ⟨_, Compiled.evaluate_eq_error_iff.2
        ⟨hpawns, ⟨k, ⟨m, hvisit, hlist⟩, ⟨hkind, hactor⟩, hseen⟩, hfail⟩⟩
  · intro e h
    obtain ⟨_, _, hfail⟩ := Compiled.evaluate_eq_error_iff.1 h
    obtain ⟨_, _, rfl⟩ := Query.actorlessFailure_eq_some_iff.1 hfail
    refine ⟨?_, Compiled.log_evaluation_of_error h⟩
    split <;> rfl

namespace Sample

/-- The sample colony with nothing in it that is an actor, so that its colonist is a stray. -/
def strayColony : Colony :=
  { colony with thing := fun k => { colony.thing k with actor := none } }

end Sample

theorem evaluation_fails_iff_sample :
    (∃ e, Sample.query.compile.evaluate Sample.strayColony Sample.scope = .error e ∧
      e.message = "'Thing' object has no attribute 'kind_label'" ∧
      (Sample.query.compile.evaluation Sample.strayColony Sample.scope).log = []) ∧
    ¬ ∃ e, { Sample.query with matchAll := true }.compile.evaluate Sample.strayColony
      Sample.scope = .error e := by
  obtain ⟨hfails, hreports⟩ := evaluation_fails_iff Sample.query Sample.strayColony Sample.scope
  have hseen : ¬ Sample.strayColony.Hidden (Sample.strayColony.thing ⟨0⟩) := by
    rw [← Colony.hides_eq_false_iff]
    decide
  obtain ⟨e, he⟩ := hfails.2 ⟨rfl, rfl, Or.inl (by decide), ⟨0⟩, ⟨0⟩, rfl, by decide, rfl, rfl, hseen⟩
  obtain ⟨hmessage, hlog⟩ := hreports e he
  refine ⟨⟨e, he, hmessage, hlog⟩, ?_⟩
  rw [(evaluation_fails_iff _ _ _).1]
  rintro ⟨_, hmatch, _⟩
  cases hmatch

end ColonySearch
