import ColonySearch.Proofs.Session.Freshness
import ColonySearch.Proofs.View.Selection

/-!
# What a session leaves in the log

The log of a history is what its calls write, one after the other. A call writes something only if it runs a search that returns: then the evaluation is recorded and right behind it the replacing of the results, both under the term at hand. So the log tells which searches returned, in their order, and neither more nor less.
-/

namespace ColonySearch.Session

/-! ### The log of a history -/

/-- What a call writes to the log. -/
def written (s : Session) : Call → List Event
  | .edit _ => []
  | .tick c scope => (s.tick c scope).log
  | .submit c scope => (s.submit c scope).log

/-- What the calls of a history write, one after the other. -/
def log (s : Session) : List Call → List Event
  | [] => []
  | call :: rest => s.written call ++ (s.step call).log rest

/-- What the call at position `n` writes. -/
def writtenAt (s : Session) (calls : List Call) (n : Nat) : List Event :=
  calls[n]?.toList.flatMap (s.after calls n).written

/-- What makes a call search, if it does. -/
def Call.trigger? : Call → Option Trigger
  | .edit _ => none
  | .tick .. => some .debounce
  | .submit .. => some .submit

/-- A search that returned: at which call it ran, what made it run, and what it searched for and found. -/
structure Finding where
  position : Nat
  trigger : Trigger
  term : String
  results : Results

/-- The two records of a search that returned. -/
def Finding.records (a : Alphabet) (f : Finding) : List Event :=
  [.queryEvaluated f.term (Query.parse a f.term).label f.results.pawns.length
      f.results.things.length f.results.sites.length,
    .searchTriggered f.trigger f.term
      (f.results.pawns.length + f.results.things.length + f.results.sites.length)]

/-- The search is one of the history. -/
structure Finding.OccursIn (f : Finding) (s : Session) (calls : List Call) : Prop where
  returns : ReturnsAt s calls f.position f.results
  trigger : calls[f.position]?.bind Call.trigger? = some f.trigger
  term : (s.after calls f.position).term = f.term

variable {s : Session} {calls : List Call} {c : Colony} {scope : Scope} {f g : Finding} {n : Nat}

/-! ### One call -/

/-- Whether a search returns is all that decides about its records. -/
theorem log_run (trigger : Trigger) : (s.run trigger c scope).log =
    (search s.alphabet s.term c scope).toOption.toList.flatMap fun r =>
      Finding.records s.alphabet ⟨n, trigger, s.term, r⟩ := by
  rw [run_eq]
  cases h : search s.alphabet s.term c scope with
  | error e =>
    have hevaluation : (s.query.compile.evaluation c scope).log = [] :=
      Compiled.log_evaluation_of_error h
    rw [hevaluation]
    rfl
  | ok r =>
    have htotal : r.total = r.pawns.length + r.things.length + r.sites.length := by
      rw [Results.total]
      omega
    have hevaluation : (s.query.compile.evaluation c scope).log = [s.query.evaluated r] :=
      Compiled.log_evaluation_of_ok h
    simp only [hevaluation, Query.evaluated, Except.toOption, Option.toList_some, List.map_cons, List.map_nil,
      List.flatMap_cons, List.flatMap_nil, List.append_nil, Finding.records, htotal]
    rfl

theorem log_tick_of_searchesAt (hcall : calls[n]? = some (.tick c scope))
    (hsearches : SearchesAt s calls n) :
    ((s.after calls n).tick c scope).log = ((s.after calls n).run .debounce c scope).log := by
  obtain ⟨hdirty, hover⟩ := (searchesAt_iff_of_tick hcall).1 hsearches
  rw [← (after_settled s calls n).1] at hover
  obtain ⟨hclean, _⟩ | ⟨_, hwait, _⟩ | ⟨_, _, htick⟩ := (s.after calls n).tick_cases c scope
  · rw [hdirty] at hclean
    cases hclean
  · omega
  · rw [htick, run_eq, run_eq]
    rfl

theorem log_tick_of_not_searchesAt (hcall : calls[n]? = some (.tick c scope))
    (hsearches : ¬ SearchesAt s calls n) : ((s.after calls n).tick c scope).log = [] := by
  rw [searchesAt_iff_of_tick hcall, ← (after_settled s calls n).1] at hsearches
  obtain ⟨_, htick⟩ | ⟨_, _, htick⟩ | ⟨hdirty, hover, _⟩ := (s.after calls n).tick_cases c scope
  · rw [htick]
  · rw [htick]
  · exact absurd ⟨hdirty, hover⟩ hsearches

/-- A call that searches has a trigger, under which the records of what it found are written. -/
theorem RunsAt.writtenAt_eq (h : RunsAt s calls n c scope) :
    ∃ trigger, calls[n]?.bind Call.trigger? = some trigger ∧ s.writtenAt calls n =
      (search s.alphabet (s.after calls n).term c scope).toOption.toList.flatMap fun r =>
        Finding.records s.alphabet ⟨n, trigger, (s.after calls n).term, r⟩ := by
  rw [← (after_settled s calls n).2]
  rcases h with hcall | ⟨hcall, hsearches⟩
  · refine ⟨.submit, by rw [hcall]; rfl, ?_⟩
    rw [writtenAt, hcall, ← log_run]
    exact List.append_nil _
  · refine ⟨.debounce, by rw [hcall]; rfl, ?_⟩
    rw [writtenAt, hcall, ← log_run, ← log_tick_of_searchesAt hcall hsearches]
    exact List.append_nil _

theorem Finding.OccursIn.writtenAt_eq (h : f.OccursIn s calls) :
    s.writtenAt calls f.position = f.records s.alphabet := by
  obtain ⟨c, scope, hruns, hreturns⟩ := h.returns
  obtain ⟨trigger, htrigger, hwritten⟩ := hruns.writtenAt_eq
  have hsame : trigger = f.trigger := Option.some.inj (htrigger.symm.trans h.trigger)
  rw [hwritten, hreturns, h.term, hsame]
  exact List.append_nil _

theorem ReturnsAt.exists_finding {r : Results} (h : ReturnsAt s calls n r) :
    ∃ f : Finding, f.position = n ∧ f.OccursIn s calls := by
  obtain ⟨c, scope, hruns, hreturns⟩ := h
  obtain ⟨trigger, htrigger, _⟩ := hruns.writtenAt_eq
  exact ⟨⟨n, trigger, (s.after calls n).term, r⟩, rfl, ⟨c, scope, hruns, hreturns⟩, htrigger, rfl⟩

/-- Whatever else a call does, it is silent if no search returns. -/
theorem writtenAt_of_not_returnsAt (h : ∀ r, ¬ ReturnsAt s calls n r) : s.writtenAt calls n = [] := by
  rcases returnsAt_or_failsAt_or_not s calls n with ⟨r, hreturns⟩ | hfails | hquiet
  · exact absurd hreturns (h r)
  · obtain ⟨c, scope, e, hruns, hfails⟩ := hfails
    obtain ⟨_, _, hwritten⟩ := hruns.writtenAt_eq
    rw [hwritten, hfails]
    rfl
  · rw [writtenAt]
    cases hcall : calls[n]? with
    | none => rfl
    | some call =>
      cases call with
      | edit term => rfl
      | tick c scope =>
        have hsearches : ¬ SearchesAt s calls n := by
          intro hsearches
          exact hquiet c scope (Or.inr ⟨hcall, hsearches⟩)
        exact (List.append_nil _).trans (log_tick_of_not_searchesAt hcall hsearches)
      | submit c scope => exact absurd (Or.inl hcall) (hquiet c scope)

/-- A call runs one search at the most. -/
theorem Finding.OccursIn.eq_of_position (hf : f.OccursIn s calls) (hg : g.OccursIn s calls)
    (h : f.position = g.position) : f = g := by
  obtain ⟨position, trigger, term, r⟩ := f
  obtain ⟨position', trigger', term', r'⟩ := g
  subst h
  have hresults : r = r' :=
    Option.some.inj (hf.returns.results_eq.symm.trans hg.returns.results_eq)
  have htrigger : trigger = trigger' := Option.some.inj (hf.trigger.symm.trans hg.trigger)
  have hterm : term = term' := hf.term.symm.trans hg.term
  rw [hresults, htrigger, hterm]

theorem Finding.OccursIn.lt_length (h : f.OccursIn s calls) : f.position < calls.length := by
  by_contra hlate
  have htrigger := h.trigger
  rw [List.getElem?_eq_none (Nat.le_of_not_lt hlate)] at htrigger
  cases htrigger

/-! ### Many calls -/

theorem log_eq_flatMap (s : Session) (calls : List Call) :
    s.log calls = (List.range calls.length).flatMap (s.writtenAt calls) := by
  induction calls generalizing s with
  | nil => rfl
  | cons call rest ih =>
    rw [log, ih, List.length_cons, List.range_succ_eq_map, List.flatMap_cons, List.flatMap_map]
    congr 1
    exact (List.append_nil _).symm

/-- The searches among the first calls of a history that returned, and what these calls write. -/
theorem exists_findings (s : Session) (calls : List Call) (n : Nat) : ∃ findings : List Finding,
    (List.range n).flatMap (s.writtenAt calls) = findings.flatMap (Finding.records s.alphabet) ∧
    findings.Pairwise (·.position < ·.position) ∧
    ∀ f, f ∈ findings ↔ f.position < n ∧ f.OccursIn s calls := by
  induction n with
  | zero => exact ⟨[], rfl, List.Pairwise.nil, fun f => by simp⟩
  | succ n ih =>
    obtain ⟨findings, hlog, hordered, hmem⟩ := ih
    rw [List.range_succ, List.flatMap_append, List.flatMap_singleton, hlog]
    by_cases h : ∃ r, ReturnsAt s calls n r
    · obtain ⟨r, hreturns⟩ := h
      obtain ⟨f, hposition, hoccurs⟩ := hreturns.exists_finding
      refine ⟨findings ++ [f], ?_, ?_, fun g => ?_⟩
      · rw [List.flatMap_append, List.flatMap_singleton, ← hposition, hoccurs.writtenAt_eq]
      · refine List.pairwise_append.2 ⟨hordered, List.pairwise_singleton _ f, fun g hg f' hf' => ?_⟩
        rw [List.mem_singleton.1 hf', hposition]
        exact ((hmem g).1 hg).1
      · rw [List.mem_append, hmem, List.mem_singleton]
        constructor
        · intro hg
          rcases hg with ⟨hbefore, hg⟩ | rfl
          · exact ⟨Nat.lt_succ_of_lt hbefore, hg⟩
          · exact ⟨hposition ▸ Nat.lt_succ_self _, hoccurs⟩
        · intro hg
          obtain ⟨hbefore, hg⟩ := hg
          rcases Nat.lt_succ_iff_lt_or_eq.1 hbefore with hlt | heq
          · exact Or.inl ⟨hlt, hg⟩
          · exact Or.inr (hg.eq_of_position hoccurs (heq.trans hposition.symm))
    · have hnone : ∀ r, ¬ ReturnsAt s calls n r := fun r hreturns => h ⟨r, hreturns⟩
      refine ⟨findings, ?_, hordered, fun g => ?_⟩
      · rw [writtenAt_of_not_returnsAt hnone, List.append_nil]
      · rw [hmem]
        refine and_congr_left fun hg => ?_
        have hother : g.position ≠ n := fun heq => hnone g.results (heq ▸ hg.returns)
        omega

/-- The log tells which searches happened. For whatever calls and whatever becomes of the game between them, the log holds for each search that returned, in the order of the calls, the record of its evaluation and right behind it the record of its results, under the term that the session had and with the numbers of what was found. These are numbers of distinct entities and add up to the total; the results found are those that the session then shows. A call that runs no search, or one whose search fails, writes nothing. -/
theorem log_tells_searches (s : Session) (calls : List Call) :
    (∃ findings : List Finding, s.log calls = findings.flatMap (Finding.records s.alphabet) ∧
      findings.Pairwise (·.position < ·.position) ∧
      (∀ f, f ∈ findings ↔ f.OccursIn s calls) ∧
      ∀ f ∈ findings, f.results.Distinct ∧
        f.results.pawns.length + f.results.things.length + f.results.sites.length =
          f.results.total ∧
        (s.after calls (f.position + 1)).term = f.term ∧
        (s.after calls (f.position + 1)).results = some f.results) ∧
    (s.log calls = (List.range calls.length).flatMap (s.writtenAt calls)) ∧
    ∀ n, (∀ r, ¬ ReturnsAt s calls n r) → s.writtenAt calls n = [] := by
  refine ⟨?_, log_eq_flatMap s calls, fun n => writtenAt_of_not_returnsAt⟩
  obtain ⟨findings, hlog, hordered, hmem⟩ := exists_findings s calls calls.length
  have hfound : ∀ f, f ∈ findings ↔ f.OccursIn s calls := by
    intro f
    rw [hmem]
    exact and_iff_right_of_imp Finding.OccursIn.lt_length
  refine ⟨findings, (log_eq_flatMap s calls).trans hlog, hordered, hfound, fun f hf => ?_⟩
  have hoccurs := (hfound f).1 hf
  obtain ⟨c, scope, hruns, hreturns⟩ := hoccurs.returns
  refine ⟨distinct_of_evaluate hreturns, ?_, ?_, hoccurs.returns.results_eq⟩
  · rw [Results.total]
    omega
  · exact hruns.state.2.1.trans hoccurs.term

/-- The first search finds the pawn; the second, for its label, cannot judge it. -/
example :
    let c : Colony := { thing := fun _ => { kind := .pawn }, map := fun _ => { spawned := [⟨0⟩] } }
    let scope : Scope := { current := some ⟨0⟩ }
    (Session.mk {} "" 1 (Nat.le_refl 1) false 0 none).log
        [.edit "-", .tick c scope, .edit "-a", .submit c scope, .tick c scope] =
      [.queryEvaluated "-" "" 1 0 0, .searchTriggered .debounce "-" 1] := by
  decide +kernel

end ColonySearch.Session
