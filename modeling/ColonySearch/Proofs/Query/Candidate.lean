import ColonySearch.Proofs.Search.Failure
import ColonySearch.Query.Candidate

/-!
# Chains over candidates of either kind

A predicate on sites asks for a label alone, so a chain of them judges any candidate, and by its label. A predicate on things judges a thing as it does elsewhere; a site lacks what it asks for first. So a chain fails on a thing only if that is a stray, and it fails on a site where it comes to a predicate on things, which is where every search of things begins.
-/

namespace ColonySearch

namespace Chain

variable {π ρ ε ε' : Type} {judge : π → Except ε Bool}

theorem run_map (f : ρ → π) (chain : List ρ) : run judge (chain.map f) = run (fun p => judge (f p)) chain := by
  induction chain with
  | nil => rfl
  | cons p rest ih => rw [List.map_cons, run, run, ih]

/-- To fail for a reason put in other words makes no difference to the verdict otherwise. -/
theorem run_mapError (g : ε → ε') (chain : List π) :
    run (fun p => (judge p).mapError g) chain = (run judge chain).mapError g := by
  induction chain with
  | nil => rfl
  | cons p rest ih =>
    rw [run, run, ih]
    cases judge p with
    | error e => rfl
    | ok holds => cases holds <;> rfl

/-- Where no predicate can fail the verdict is whether all of them hold. -/
theorem run_ok (holds : π → Bool) (chain : List π) :
    run (ε := ε) (fun p => .ok (holds p)) chain = .ok (chain.all holds) := by
  induction chain with
  | nil => rfl
  | cons p rest ih =>
    rw [run, ih, List.all_cons]
    cases holds p <;> rfl

end Chain

def Candidate.label : Candidate → String
  | .thing t => t.label
  | .site s => s.label

namespace Predicate

variable {c : Colony} {t : Thing} {s : Site} {e : JudgeError} {chain : List Predicate}

theorem judge_ofSite (x : Candidate) (p : SitePredicate) :
    judge c x (.ofSite p) = .ok (p.holdsOfLabel x.label) := by
  cases x <;> rfl

/-- A chain of predicates on sites judges things as well. -/
theorem run_sites (x : Candidate) (chain : List SitePredicate) :
    Chain.run (judge c x) (chain.map .ofSite) = .ok (chain.all (·.holdsOfLabel x.label)) := by
  rw [Chain.run_map]
  simp only [judge_ofSite]
  exact Chain.run_ok _ chain

/-- A chain of predicates on things has its own verdict on a thing. -/
theorem run_things (t : Thing) (chain : List ThingPredicate) :
    Chain.run (judge c (.thing t)) (chain.map .ofThing) =
      (Chain.run (ThingPredicate.judge c t) chain).mapError .missingTrait := by
  rw [Chain.run_map]
  exact Chain.run_mapError _ chain

/-! ### Failures -/

theorem isStray_of_run_eq_error (h : Chain.run (judge c (.thing t)) chain = .error e) : t.IsStray := by
  obtain ⟨p, -, hp⟩ := Chain.exists_of_run_eq_error h
  cases p with
  | ofThing p =>
    cases hjudge : p.judge c t with
    | error missing => exact ThingPredicate.isStray_of_judge_eq_error hjudge
    | ok holds =>
      rw [judge, hjudge] at hp
      cases hp
  | ofSite p => cases hp

/-- A chain fails on a site exactly if it comes to a predicate on things, and for what that one asks first. -/
theorem run_site_eq_error_iff : Chain.run (judge c (.site s)) chain = .error e ↔
    ∃ (before : List SitePredicate) (p : ThingPredicate) (behind : List Predicate),
      chain = before.map .ofSite ++ .ofThing p :: behind ∧
        (∀ q ∈ before, q.holds s = true) ∧ e = .siteLacks p.siteLack := by
  constructor
  · intro h
    induction chain with
    | nil => cases h
    | cons p chain ih =>
      cases p with
      | ofThing p =>
        cases h
        exact ⟨[], p, chain, rfl, nofun, rfl⟩
      | ofSite p =>
        by_cases hp : p.holds s = true
        · have hholds : judge c (.site s) (.ofSite p) = .ok true := congrArg Except.ok hp
          rw [Chain.run_cons_of_holds hholds] at h
          obtain ⟨before, q, behind, rfl, hbefore, rfl⟩ := ih h
          exact ⟨p :: before, q, behind, rfl, List.forall_mem_cons.2 ⟨hp, hbefore⟩, rfl⟩
        · have hstops : judge c (.site s) (.ofSite p) ≠ .ok true := fun hok => hp (Except.ok.inj hok)
          rw [Chain.run_cons_of_stops hstops] at h
          cases h
  · intro h
    obtain ⟨before, p, behind, rfl, hbefore, rfl⟩ := h
    induction before with
    | nil => rfl
    | cons q before ih =>
      obtain ⟨hq, hbefore⟩ := List.forall_mem_cons.1 hbefore
      have hholds : judge c (.site s) (.ofSite q) = .ok true := congrArg Except.ok hq
      rw [List.map_cons, List.cons_append, Chain.run_cons_of_holds hholds]
      exact ih hbefore

/-- No query's chain over things can judge a site, since all of them ask first whether fog hides the candidate. -/
theorem run_thingChain_site (q : Query) (s : Site) :
    Chain.run (judge c (.site s)) (q.thingChain.map .ofThing) = .error (.siteLacks .mapHeld) := by
  obtain ⟨rest, hrest⟩ : ∃ rest, q.thingChain = .visible :: rest := by
    unfold Query.thingChain
    split
    · exact ⟨[], rfl⟩
    · exact ⟨_, rfl⟩
  rw [hrest]
  exact run_site_eq_error_iff.2 ⟨[], .visible, rest.map .ofThing, rfl, nofun, rfl⟩

end Predicate

end ColonySearch
