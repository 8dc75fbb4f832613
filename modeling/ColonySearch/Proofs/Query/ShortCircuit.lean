import ColonySearch.Proofs.Outcome
import ColonySearch.Query.Chain
import ColonySearch.Query.Predicate

/-!
# Chains as conjunctions

A chain is the conjunction of its predicates, taken in order and no further than needed. It asks up to the first predicate that does not hold, which may reject the candidate or fail to judge it, and the answer of that predicate is the verdict; if all hold, all have been asked and the chain accepts. What stands behind the first predicate that does not hold is never asked, so it cannot change the verdict.

The verdict can also be reached by counting: go through the chain, count the predicates that hold, stop at the first that does not, and accept if the count has come up to the length of the chain. Here that way is taken with every question written down as it is put, so that a failure leaves the questions before it on record. Verdict and record are those of `Chain.run` and `Chain.calls`.
-/

namespace ColonySearch.Chain

variable {π ε α : Type} {judge : π → Except ε Bool} {chain chain' part before rest more : List π}
  {p : π}

/-- The predicates that the chain asks. -/
def asked (judge : π → Except ε Bool) (chain : List π) : List π := (calls judge chain).map (·.1)

/-- The opening of a chain: the part of it that ends with its first predicate that does not hold, or the whole chain if all of them hold. -/
inductive Opening (judge : π → Except ε Bool) : (chain part : List π) → Prop where
  | whole {chain : List π} (holds : ∀ p ∈ chain, judge p = .ok true) : Opening judge chain chain
  | upTo (before : List π) {p : π} {behind : List π} (holds : ∀ q ∈ before, judge q = .ok true)
      (stops : judge p ≠ .ok true) : Opening judge (before ++ p :: behind) (before ++ [p])

/-! ### The opening -/

theorem run_append_of_holds (h : ∀ q ∈ before, judge q = .ok true) :
    run judge (before ++ rest) = run judge rest := by
  induction before with
  | nil => rfl
  | cons q before ih =>
    obtain ⟨hq, hbefore⟩ := List.forall_mem_cons.1 h
    rw [List.cons_append, run_cons_of_holds hq, ih hbefore]

theorem calls_append_of_holds (h : ∀ q ∈ before, judge q = .ok true) :
    calls judge (before ++ rest) = (before.map fun q => (q, judge q)) ++ calls judge rest := by
  induction before with
  | nil => rfl
  | cons q before ih =>
    obtain ⟨hq, hbefore⟩ := List.forall_mem_cons.1 h
    rw [List.cons_append, calls_cons_of_holds hq, ih hbefore, List.map_cons, List.cons_append]

theorem Opening.cons (h : Opening judge chain part) (hp : judge p = .ok true) :
    Opening judge (p :: chain) (p :: part) := by
  cases h with
  | whole holds => exact .whole (List.forall_mem_cons.2 ⟨hp, holds⟩)
  | upTo before holds stops => exact .upTo (p :: before) (List.forall_mem_cons.2 ⟨hp, holds⟩) stops

theorem Opening.append (h : Opening judge chain part) (hrun : run judge chain ≠ .ok true) :
    Opening judge (chain ++ more) part := by
  cases h with
  | whole holds => exact absurd (run_eq_true_iff.2 holds) hrun
  | upTo before holds stops =>
    rw [List.append_assoc, List.cons_append]
    exact .upTo before holds stops

theorem exists_opening (judge : π → Except ε Bool) (chain : List π) :
    ∃ part, Opening judge chain part := by
  induction chain with
  | nil => exact ⟨[], .whole (List.forall_mem_nil _)⟩
  | cons p rest ih =>
    by_cases hp : judge p = .ok true
    · obtain ⟨part, hpart⟩ := ih
      exact ⟨p :: part, hpart.cons hp⟩
    · exact ⟨[p], .upTo [] (List.forall_mem_nil _) hp⟩

/-- The opening is asked, every predicate of it once and in order. -/
theorem Opening.calls_eq (h : Opening judge chain part) :
    calls judge chain = part.map fun p => (p, judge p) := by
  cases h with
  | whole holds => exact calls_eq_map (run_eq_true_iff.2 holds)
  | upTo before holds stops =>
    rw [calls_append_of_holds holds, calls_cons_of_stops stops, List.map_append, List.map_singleton]

theorem Opening.asked_eq (h : Opening judge chain part) : asked judge chain = part := by
  rw [asked, h.calls_eq, List.map_map]
  exact List.map_id part

theorem opening_iff : Opening judge chain part ↔ part = asked judge chain := by
  refine ⟨fun h => h.asked_eq.symm, ?_⟩
  rintro rfl
  obtain ⟨part, hpart⟩ := exists_opening judge chain
  rw [hpart.asked_eq]
  exact hpart

theorem calls_eq_map_asked : calls judge chain = (asked judge chain).map fun p => (p, judge p) :=
  (opening_iff.2 rfl).calls_eq

/-! ### The verdict -/

theorem run_eq_true_iff_calls :
    run judge chain = .ok true ↔ calls judge chain = chain.map fun p => (p, .ok true) := by
  rw [run_eq_true_iff]
  refine ⟨fun holds => ?_, fun h => ?_⟩
  · rw [calls_eq_map (run_eq_true_iff.2 holds)]
    exact List.map_congr_left fun p hp => by rw [holds p hp]
  · have hall : asked judge chain = chain := by
      rw [asked, h, List.map_map]
      exact List.map_id chain
    rw [calls_eq_map_asked, hall] at h
    intro p hp
    exact congrArg Prod.snd (List.map_inj_left.1 h p hp)

/-- Any other verdict than acceptance is the answer of the predicate that was asked last. -/
theorem run_eq_iff_last {verdict : Except ε Bool} (h : verdict ≠ .ok true) :
    run judge chain = verdict ↔ ∃ p, (calls judge chain).getLast? = some (p, verdict) := by
  obtain ⟨part, hpart⟩ := exists_opening judge chain
  rw [hpart.calls_eq]
  cases hpart with
  | whole holds =>
    rw [run_eq_true_iff.2 holds]
    refine ⟨fun heq => absurd heq.symm h, ?_⟩
    rintro ⟨p, hlast⟩
    obtain ⟨q, hq, hanswer⟩ := List.mem_map.1 (List.mem_of_getLast? hlast)
    cases hanswer
    exact absurd (holds p hq) h
  | upTo before holds stops =>
    rw [run_append_of_holds holds, run_cons_of_stops stops, List.map_append, List.map_singleton,
      List.getLast?_concat]
    simp

/-! ### Other chains -/

/-- Predicates behind a chain that does not accept are never asked. -/
theorem append_of_not_accepts (more : List π) (h : run judge chain ≠ .ok true) :
    run judge (chain ++ more) = run judge chain ∧
      calls judge (chain ++ more) = calls judge chain := by
  have hcalls : calls judge (chain ++ more) = calls judge chain := by
    obtain ⟨part, hpart⟩ := exists_opening judge chain
    rw [(hpart.append h).calls_eq, hpart.calls_eq]
  refine ⟨?_, hcalls⟩
  -- The verdict is the last answer on record, and the record is the same.
  rw [run_eq_iff_last h, hcalls, ← run_eq_iff_last h]

theorem exists_run_eq_ok (h : ∀ p ∈ chain, ∀ e, judge p ≠ .error e) :
    ∃ accepts, run judge chain = .ok accepts := by
  apply Outcome.exists_eq_ok
  intro e hrun
  obtain ⟨p, hp, he⟩ := exists_of_run_eq_error hrun
  exact h p hp e he

/-- The order matters only for a candidate that some predicate cannot judge. -/
theorem run_eq_of_perm (hperm : chain'.Perm chain) (h : ∀ p ∈ chain, ∀ e, judge p ≠ .error e) :
    run judge chain' = run judge chain := by
  obtain ⟨accepts, hrun⟩ := exists_run_eq_ok h
  obtain ⟨accepts', hrun'⟩ := exists_run_eq_ok fun p hp => h p (hperm.mem_iff.1 hp)
  have hsame : run judge chain' = .ok true ↔ run judge chain = .ok true := by
    rw [run_eq_true_iff, run_eq_true_iff]
    exact forall_congr' fun p => imp_congr_left hperm.mem_iff
  rw [hrun, hrun', Except.ok.injEq, Except.ok.injEq, ← Bool.eq_iff_iff] at hsame
  rw [hrun, hrun', hsame]

/-! ### By count -/

/-- What is done by putting questions to predicates. A failure leaves the record of the questions put so far. -/
abbrev Asking (π ε : Type) := EStateM ε (List (π × Except ε Bool))

def ask (judge : π → Except ε Bool) (p : π) : Asking π ε Bool := do
  modify fun record => record ++ [(p, judge p)]
  match judge p with
  | .ok holds => pure holds
  | .error e => throw e

/-- Asks until a predicate does not hold, and counts on by those that do. -/
def countHolding (judge : π → Except ε Bool) : (count : Nat) → List π → Asking π ε Nat
  | count, [] => pure count
  | count, p :: rest => do
    if ← ask judge p then countHolding judge (count + 1) rest else pure count

/-- Accepts if as many predicates hold as there are. -/
def runByCount (judge : π → Except ε Bool) (chain : List π) : Asking π ε Bool := do
  let count ← countHolding judge 0 chain
  return decide (chain.length ≤ count)

/-- An outcome with the record that was made on the way to it. -/
def onRecord (record : List (π × Except ε Bool)) :
    Except ε α → EStateM.Result ε (List (π × Except ε Bool)) α
  | .ok a => .ok a record
  | .error e => .error e record

/-- How many of the predicates that the chain asks hold. -/
def held (judge : π → Except ε Bool) (chain : List π) : Nat :=
  (calls judge chain).countP fun call => call.2.toOption.getD false

theorem held_cons_of_holds (h : judge p = .ok true) :
    held judge (p :: rest) = held judge rest + 1 := by
  rw [held, calls_cons_of_holds h, h]
  exact List.countP_cons_of_pos rfl

theorem held_cons_of_rejects (h : judge p = .ok false) : held judge (p :: rest) = 0 := by
  have hstops : judge p ≠ .ok true := by simp [h]
  rw [held, calls_cons_of_stops hstops, h]
  rfl

theorem run_ask (record : List (π × Except ε Bool)) :
    (ask judge p).run record = onRecord (record ++ [(p, judge p)]) (judge p) := by
  rw [ask, EStateM.run_bind, EStateM.run_modify]
  cases judge p with
  | ok holds => rfl
  | error e => rfl

theorem run_countHolding (count : Nat) (record : List (π × Except ε Bool)) :
    (countHolding judge count chain).run record =
      onRecord (record ++ calls judge chain)
        ((run judge chain).map fun _ => count + held judge chain) := by
  induction chain generalizing count record with
  | nil => rw [calls, List.append_nil]; rfl
  | cons p rest ih =>
    rw [countHolding, EStateM.run_bind, run_ask]
    by_cases hp : judge p = .ok true
    · rw [run_cons_of_holds hp, calls_cons_of_holds hp, held_cons_of_holds hp, hp]
      have hcount : count + (held judge rest + 1) = count + 1 + held judge rest := by omega
      have hrecord : record ++ (p, .ok true) :: calls judge rest =
          record ++ [(p, .ok true)] ++ calls judge rest := List.append_cons _ _ _
      rw [hcount, hrecord]
      exact ih (count + 1) _
    · rw [run_cons_of_stops hp, calls_cons_of_stops hp]
      cases hanswer : judge p with
      | error e => rfl
      | ok holds =>
        cases holds with
        | true => exact absurd hanswer hp
        | false => rw [held_cons_of_rejects hanswer]; rfl

/-- The count comes up to the length of the chain exactly if the chain accepts. -/
theorem length_le_held_iff {accepts : Bool} (h : run judge chain = .ok accepts) :
    chain.length ≤ held judge chain ↔ accepts = true := by
  induction chain with
  | nil =>
    cases h
    exact iff_of_true (Nat.zero_le _) rfl
  | cons p rest ih =>
    by_cases hp : judge p = .ok true
    · rw [run_cons_of_holds hp] at h
      rw [held_cons_of_holds hp, List.length_cons, Nat.add_le_add_iff_right]
      exact ih h
    · rw [run_cons_of_stops hp] at h
      cases accepts with
      | true => exact absurd h hp
      | false =>
        rw [held_cons_of_rejects h, List.length_cons]
        simp

theorem run_runByCount (record : List (π × Except ε Bool)) :
    (runByCount judge chain).run record =
      onRecord (record ++ calls judge chain) (run judge chain) := by
  rw [runByCount, EStateM.run_bind, run_countHolding]
  cases h : run judge chain with
  | error e => rfl
  | ok accepts =>
    have hcount : decide (chain.length ≤ 0 + held judge chain) = accepts := by
      rw [Nat.zero_add, Bool.eq_iff_iff, decide_eq_true_iff]
      exact length_le_held_iff h
    exact congrArg (EStateM.Result.ok · _) hcount

/-- A chain is the conjunction of its predicates in their order, whatever they answer on the candidate. To go through it by count puts the same questions and comes to the same verdict. Asked are exactly the predicates of the opening, each once and in order. The chain accepts if all its predicates have been asked and all of them held; it rejects if the predicate asked last has rejected; it fails if that predicate has failed, and in the same way. So the order makes no difference to the verdict as long as no predicate fails, and a rejection stands whatever is appended to the chain, since nothing of that is asked. -/
theorem run_is_ordered_conjunction (judge : π → Except ε Bool) (chain : List π) :
    (runByCount judge chain).run [] = onRecord (calls judge chain) (run judge chain) ∧
    (∀ part, Opening judge chain part ↔ part = asked judge chain) ∧
    calls judge chain = (asked judge chain).map (fun p => (p, judge p)) ∧
    (run judge chain = .ok true ↔ calls judge chain = chain.map fun p => (p, .ok true)) ∧
    (run judge chain = .ok false ↔ ∃ p, (calls judge chain).getLast? = some (p, .ok false)) ∧
    (∀ e, run judge chain = .error e ↔ ∃ p, (calls judge chain).getLast? = some (p, .error e)) ∧
    (∀ chain', chain'.Perm chain → (∀ p ∈ chain, ∀ e, judge p ≠ .error e) →
      run judge chain' = run judge chain) ∧
    (∀ more, run judge chain = .ok false →
      run judge (chain ++ more) = .ok false ∧ asked judge (chain ++ more) = asked judge chain) := by
  refine ⟨run_runByCount [], fun _ => opening_iff, calls_eq_map_asked, run_eq_true_iff_calls,
    ?_, ?_, ?_, ?_⟩
  · exact run_eq_iff_last (by simp)
  · intro e
    exact run_eq_iff_last (by simp)
  · intro chain' hperm hjudged
    exact run_eq_of_perm hperm hjudged
  · intro more hrejects
    have hnot : run judge chain ≠ .ok true := by simp [hrejects]
    obtain ⟨hrun, hcalls⟩ := append_of_not_accepts more hnot
    exact ⟨hrun.trans hrejects, congrArg (List.map Prod.fst) hcalls⟩

/-- What a stray in the fog gives as answers. -/
def strayInFog (p : ThingPredicate) : Except MissingTrait Bool :=
  p.judge { map := fun _ => { fogged := [⟨0, 0⟩] } } { kind := .pawn, mapHeld := some ⟨0⟩ }

theorem run_is_ordered_conjunction_sample :
    (asked strayInFog [.notContained, .colonyOnly, .visible] = [.notContained, .colonyOnly] ∧
      run strayInFog [.notContained, .colonyOnly, .visible] = .error ⟨.colonist⟩) ∧
    ([ThingPredicate.notContained, .visible].Perm [.visible, .notContained] ∧
      (∀ p ∈ [ThingPredicate.visible, .notContained], ∀ e, strayInFog p ≠ .error e) ∧
      run strayInFog [.notContained, .visible] = run strayInFog [.visible, .notContained]) ∧
    (run strayInFog [.visible, .notContained] = .ok false ∧
      run strayInFog ([.visible, .notContained] ++ [.colonyOnly]) = .ok false ∧
      asked strayInFog ([.visible, .notContained] ++ [.colonyOnly]) = [.visible]) := by
  obtain ⟨_, hopening, _, _, _, hfails, _, _⟩ :=
    run_is_ordered_conjunction strayInFog [.notContained, .colonyOnly, .visible]
  obtain ⟨_, _, _, _, hrejects, _, hperm, happend⟩ :=
    run_is_ordered_conjunction strayInFog [.visible, .notContained]
  have hasked : Opening strayInFog [.notContained, .colonyOnly, .visible]
      [.notContained, .colonyOnly] := by
    apply Opening.upTo [ThingPredicate.notContained]
    · exact List.forall_mem_singleton.2 rfl
    · exact nofun
  have hswap : [ThingPredicate.notContained, .visible].Perm [.visible, .notContained] := .swap _ _ _
  have hjudged : ∀ p ∈ [ThingPredicate.visible, .notContained], ∀ e, strayInFog p ≠ .error e :=
    List.forall_mem_cons.2 ⟨nofun, List.forall_mem_singleton.2 nofun⟩
  have hreject : run strayInFog [.visible, .notContained] = .ok false := hrejects.2 ⟨_, rfl⟩
  obtain ⟨hkept, hsame⟩ := happend [.colonyOnly] hreject
  exact ⟨⟨((hopening _).1 hasked).symm, (hfails _).2 ⟨_, rfl⟩⟩, ⟨hswap, hjudged, hperm _ hswap hjudged⟩,
    hreject, hkept, hsame.trans rfl⟩

end ColonySearch.Chain
