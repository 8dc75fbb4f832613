/-!
# Chains of predicates

A chain judges a candidate by asking its predicates in order until one rejects the candidate or fails to judge it. `Chain.run` is the verdict and `Chain.calls` the record of the predicates that were asked, each with its answer.
-/

namespace ColonySearch.Chain

variable {π ε : Type}

/-- The verdict of a chain: acceptance if every predicate holds, else the answer of the first that does not. -/
def run (judge : π → Except ε Bool) : List π → Except ε Bool
  | [] => .ok true
  | p :: rest =>
    match judge p with
    | .ok true => run judge rest
    | .ok false => .ok false
    | .error e => .error e

/-- The predicates that the chain asks, in order and with their answers. -/
def calls (judge : π → Except ε Bool) : List π → List (π × Except ε Bool)
  | [] => []
  | p :: rest =>
    (p, judge p) ::
      match judge p with
      | .ok true => calls judge rest
      | _ => []

/-! ### One predicate -/

section Cons

variable {judge : π → Except ε Bool} {p : π} {rest : List π}

theorem run_cons_of_holds (h : judge p = .ok true) : run judge (p :: rest) = run judge rest := by
  rw [run, h]

theorem calls_cons_of_holds (h : judge p = .ok true) :
    calls judge (p :: rest) = (p, judge p) :: calls judge rest := by
  rw [calls, h]

theorem run_cons_of_stops (h : judge p ≠ .ok true) : run judge (p :: rest) = judge p := by
  rw [run]
  cases hp : judge p with
  | error e => rfl
  | ok holds =>
    cases holds with
    | false => rfl
    | true => exact absurd hp h

theorem calls_cons_of_stops (h : judge p ≠ .ok true) :
    calls judge (p :: rest) = [(p, judge p)] := by
  rw [calls]
  cases hp : judge p with
  | error e => rfl
  | ok holds =>
    cases holds with
    | false => rfl
    | true => exact absurd hp h

end Cons

/-! ### Whole chains -/

/-- A chain accepts exactly what all its predicates hold of. -/
theorem run_eq_true_iff {judge : π → Except ε Bool} {chain : List π} :
    run judge chain = .ok true ↔ ∀ p ∈ chain, judge p = .ok true := by
  induction chain with
  | nil => simp [run]
  | cons p rest ih =>
    rw [List.forall_mem_cons, ← ih]
    by_cases hp : judge p = .ok true
    · rw [run_cons_of_holds hp, and_iff_right hp]
    · rw [run_cons_of_stops hp]
      exact iff_of_false hp fun h => hp h.1

/-- The failure of a chain is the failure of one of its predicates. -/
theorem exists_of_run_eq_error {judge : π → Except ε Bool} {chain : List π} {e : ε}
    (h : run judge chain = .error e) : ∃ p ∈ chain, judge p = .error e := by
  induction chain with
  | nil => cases h
  | cons p rest ih =>
    by_cases hp : judge p = .ok true
    · rw [run_cons_of_holds hp] at h
      obtain ⟨q, hmem, hq⟩ := ih h
      exact ⟨q, List.mem_cons_of_mem p hmem, hq⟩
    · rw [run_cons_of_stops hp] at h
      exact ⟨p, List.mem_cons_self, h⟩

/-- A chain that accepts has asked every predicate. -/
theorem calls_eq_map {judge : π → Except ε Bool} {chain : List π}
    (h : run judge chain = .ok true) : calls judge chain = chain.map fun p => (p, judge p) := by
  induction chain with
  | nil => rfl
  | cons p rest ih =>
    obtain ⟨hp, hrest⟩ := List.forall_mem_cons.1 (run_eq_true_iff.1 h)
    rw [calls_cons_of_holds hp, List.map_cons, ih (run_eq_true_iff.2 hrest)]

end ColonySearch.Chain
