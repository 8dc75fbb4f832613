import ColonySearch.Proofs.Session.Debounce

/-!
# Which search the results belong to

A session shows the results of the last search that returned. Every search ends the wait for the term at hand, and it does so before its outcome is known: a search that fails leaves the session clean and the old results in place. So a clean session shows results for its own term unless a search for that term has failed since, and after such a failure it may show those of another term, with nothing left that would make it search again.
-/

namespace ColonySearch.Session

variable {s : Session} {calls : List Call} {c : Colony} {scope : Scope} {r : Results} {i n : Nat}

/-! ### The searches of a history -/

/-- The game as a call finds it, if the call can search. -/
def Call.game? : Call → Option (Colony × Scope)
  | .edit _ => none
  | .tick c scope => some (c, scope)
  | .submit c scope => some (c, scope)

/-- The call searches the given game: it is a submit, or a tick that completes a wait. -/
def RunsAt (s : Session) (calls : List Call) (n : Nat) (c : Colony) (scope : Scope) : Prop :=
  calls[n]? = some (.submit c scope) ∨ calls[n]? = some (.tick c scope) ∧ SearchesAt s calls n

/-- The call searches for the term at hand, and the search returns the results. -/
def ReturnsAt (s : Session) (calls : List Call) (n : Nat) (r : Results) : Prop :=
  ∃ c scope, RunsAt s calls n c scope ∧
    search s.alphabet (s.after calls n).term c scope = .ok r

/-- The call searches for the term at hand, and the search fails. -/
def FailsAt (s : Session) (calls : List Call) (n : Nat) : Prop :=
  ∃ c scope e, RunsAt s calls n c scope ∧
    search s.alphabet (s.after calls n).term c scope = .error e

theorem RunsAt.game?_eq (h : RunsAt s calls n c scope) :
    calls[n]?.bind Call.game? = some (c, scope) := by
  rcases h with hcall | ⟨hcall, _⟩
  · rw [hcall]
    rfl
  · rw [hcall]
    rfl

theorem RunsAt.outcome_eq {c' : Colony} {scope' : Scope} (h : RunsAt s calls n c scope)
    (h' : RunsAt s calls n c' scope') (term : String) :
    search s.alphabet term c scope = search s.alphabet term c' scope' := by
  have hgame := h.game?_eq.symm.trans h'.game?_eq
  cases hgame
  rfl

theorem ReturnsAt.not_failsAt (h : ReturnsAt s calls n r) : ¬ FailsAt s calls n := by
  intro hfails
  obtain ⟨c, scope, hruns, hreturns⟩ := h
  obtain ⟨c', scope', e, hruns', hfails⟩ := hfails
  rw [hruns.outcome_eq hruns', hfails] at hreturns
  cases hreturns

theorem RunsAt.state (h : RunsAt s calls n c scope) :
    (s.after calls (n + 1)).dirty = false ∧
      (s.after calls (n + 1)).term = (s.after calls n).term ∧
      (s.after calls (n + 1)).results =
        (search s.alphabet (s.after calls n).term c scope).toOption.or
          (s.after calls n).results := by
  rcases h with hcall | ⟨hcall, hsearches⟩
  · rw [after_succ_of_getElem? hcall, step, submit, run_eq, (after_settled s calls n).2]
    exact ⟨rfl, rfl, rfl⟩
  · exact (hsearches.tick_eq hcall).2

theorem ReturnsAt.results_eq (h : ReturnsAt s calls n r) :
    (s.after calls (n + 1)).results = some r := by
  obtain ⟨c, scope, hruns, hreturns⟩ := h
  rw [hruns.state.2.2, hreturns]
  rfl

theorem FailsAt.results_eq (h : FailsAt s calls n) :
    (s.after calls (n + 1)).results = (s.after calls n).results := by
  obtain ⟨c, scope, e, hruns, hfails⟩ := h
  rw [hruns.state.2.2, hfails]
  rfl

/-- A call without a search keeps the results, and it leaves no session clean that was not. -/
theorem state_of_not_runsAt (h : ∀ c scope, ¬ RunsAt s calls n c scope) :
    (s.after calls (n + 1)).results = (s.after calls n).results ∧
      ((s.after calls (n + 1)).dirty = false →
        (s.after calls n).dirty = false ∧
          (s.after calls (n + 1)).term = (s.after calls n).term) := by
  cases hcall : calls[n]? with
  | none =>
    rw [after_succ, hcall]
    exact ⟨rfl, fun hclean => ⟨hclean, rfl⟩⟩
  | some call =>
    cases call with
    | edit term =>
      by_cases hsame : term = (s.after calls n).term
      · rw [after_succ_of_edit hcall hsame]
        exact ⟨rfl, fun hclean => ⟨hclean, rfl⟩⟩
      · rw [after_succ_of_changesAt ⟨hcall, hsame⟩]
        refine ⟨rfl, ?_⟩
        intro hclean
        cases hclean
    | tick c scope =>
      have hquiet : ¬ SearchesAt s calls n := by
        intro hsearches
        exact h c scope (Or.inr ⟨hcall, hsearches⟩)
      obtain ⟨_, count, hafter, _⟩ := tick_eq_of_not_searchesAt hquiet hcall
      rw [hafter]
      exact ⟨rfl, fun hclean => ⟨hclean, rfl⟩⟩
    | submit c scope => exact absurd (Or.inl hcall) (h c scope)

theorem returnsAt_or_failsAt_or_not (s : Session) (calls : List Call) (n : Nat) :
    (∃ r, ReturnsAt s calls n r) ∨ FailsAt s calls n ∨ ∀ c scope, ¬ RunsAt s calls n c scope := by
  by_cases h : ∃ c scope, RunsAt s calls n c scope
  · obtain ⟨c, scope, hruns⟩ := h
    cases houtcome : search s.alphabet (s.after calls n).term c scope with
    | ok r => exact Or.inl ⟨r, c, scope, hruns, houtcome⟩
    | error e => exact Or.inr (Or.inl ⟨c, scope, e, hruns, houtcome⟩)
  · refine Or.inr (Or.inr ?_)
    intro c scope hruns
    exact h ⟨c, scope, hruns⟩

/-! ### The search on show -/

/-- The search at position `i` returned the results, and none has returned since. -/
structure ShownFrom (s : Session) (calls : List Call) (i n : Nat) (r : Results) : Prop where
  before : i < n
  returns : ReturnsAt s calls i r
  last : ∀ j, i < j → j < n → ∀ r', ¬ ReturnsAt s calls j r'

theorem ReturnsAt.shownFrom (h : ReturnsAt s calls n r) : ShownFrom s calls n (n + 1) r where
  before := Nat.lt_succ_self n
  returns := h
  last j hafter hbefore := by omega

theorem ShownFrom.succ (h : ShownFrom s calls i n r) (hnone : ∀ r', ¬ ReturnsAt s calls n r') :
    ShownFrom s calls i (n + 1) r where
  before := Nat.lt_succ_of_lt h.before
  returns := h.returns
  last j hafter hbefore := by
    rcases Nat.lt_succ_iff_lt_or_eq.1 hbefore with hlt | rfl
    · exact h.last j hafter hlt
    · exact hnone

theorem ShownFrom.of_succ (h : ShownFrom s calls i (n + 1) r) :
    i = n ∨ ShownFrom s calls i n r ∧ ∀ r', ¬ ReturnsAt s calls n r' := by
  rcases Nat.lt_succ_iff_lt_or_eq.1 h.before with hlt | rfl
  · refine Or.inr ⟨⟨hlt, h.returns, ?_⟩, h.last n hlt (Nat.lt_succ_self n)⟩
    intro j hafter hbefore
    exact h.last j hafter (Nat.lt_succ_of_lt hbefore)
  · exact Or.inl rfl

/-- A session that starts without results shows those of the last search that returned. -/
theorem exists_shownFrom (hnone : s.results = none) (h : (s.after calls n).results = some r) :
    ∃ i, ShownFrom s calls i n r := by
  induction n generalizing r with
  | zero =>
    rw [after_zero, hnone] at h
    cases h
  | succ n ih =>
    rcases returnsAt_or_failsAt_or_not s calls n with ⟨r', hreturns⟩ | hfails | hquiet
    · rw [hreturns.results_eq] at h
      cases h
      exact ⟨n, hreturns.shownFrom⟩
    · rw [hfails.results_eq] at h
      obtain ⟨i, hshown⟩ := ih h
      refine ⟨i, hshown.succ ?_⟩
      intro r' hreturns
      exact hreturns.not_failsAt hfails
    · rw [(state_of_not_runsAt hquiet).1] at h
      obtain ⟨i, hshown⟩ := ih h
      refine ⟨i, hshown.succ ?_⟩
      intro r' hreturns
      obtain ⟨c, scope, hruns, _⟩ := hreturns
      exact hquiet c scope hruns

/-- A clean session shows what was found for its term, unless a search for that term has failed since. -/
theorem ShownFrom.term_eq_or_exists_failsAt (h : ShownFrom s calls i n r)
    (hclean : (s.after calls n).dirty = false) :
    (s.after calls i).term = (s.after calls n).term ∨
      ∃ j, i < j ∧ j < n ∧ FailsAt s calls j ∧
        (s.after calls j).term = (s.after calls n).term := by
  induction n with
  | zero => exact absurd h.before (Nat.not_lt_zero i)
  | succ n ih =>
    rcases h.of_succ with rfl | ⟨hshown, hnone⟩
    · obtain ⟨c, scope, hruns, _⟩ := h.returns
      exact Or.inl hruns.state.2.1.symm
    · rcases returnsAt_or_failsAt_or_not s calls n with ⟨r', hreturns⟩ | hfails | hquiet
      · exact absurd hreturns (hnone r')
      · have hterm : (s.after calls (n + 1)).term = (s.after calls n).term := by
          obtain ⟨c, scope, e, hruns, _⟩ := hfails
          exact hruns.state.2.1
        exact Or.inr ⟨n, hshown.before, Nat.lt_succ_self n, hfails, hterm.symm⟩
      · obtain ⟨hwas, hterm⟩ := (state_of_not_runsAt hquiet).2 hclean
        rw [hterm]
        rcases ih hshown hwas with hsame | ⟨j, hafter, hbefore, hfails, hsame⟩
        · exact Or.inl hsame
        · exact Or.inr ⟨j, hafter, Nat.lt_succ_of_lt hbefore, hfails, hsame⟩

/-- What a clean session shows, for whatever calls and whatever becomes of the game between them. The results are those of the last search that returned; that was a search for the current term, or else a search for the current term has failed since. And the mark of an edit is lost by nothing but a search for the term at hand, which replaces the results if it returns and leaves them if it fails. -/
theorem current_unless_search_failed {a : Alphabet} {first : String} {d : Int} {s : Session}
    (hstart : Session.start a first d = .ok s) (calls : List Call) (n : Nat) :
    (∀ r, (s.after calls n).dirty = false → (s.after calls n).results = some r →
      ∃ i, ShownFrom s calls i n r ∧
        ((s.after calls i).term = (s.after calls n).term ∨
          ∃ j, i < j ∧ j < n ∧ FailsAt s calls j ∧
            (s.after calls j).term = (s.after calls n).term)) ∧
    ((s.after calls n).dirty = true → (s.after calls (n + 1)).dirty = false →
      (∃ r, ReturnsAt s calls n r ∧ (s.after calls (n + 1)).results = some r) ∨
        FailsAt s calls n ∧ (s.after calls (n + 1)).results = (s.after calls n).results) := by
  obtain ⟨_, _, _, _, hnone⟩ := state_of_start hstart
  constructor
  · intro r hclean hresults
    obtain ⟨i, hshown⟩ := exists_shownFrom hnone hresults
    exact ⟨i, hshown, hshown.term_eq_or_exists_failsAt hclean⟩
  · intro hdirty hclean
    rcases returnsAt_or_failsAt_or_not s calls n with ⟨r, hreturns⟩ | hfails | hquiet
    · exact Or.inl ⟨r, hreturns, hreturns.results_eq⟩
    · exact Or.inr ⟨hfails, hfails.results_eq⟩
    · rw [((state_of_not_runsAt hquiet).2 hclean).1] at hdirty
      cases hdirty

namespace Sample

/-- Pawns are searched for and one is found; then a label is typed, and the search for it fails. -/
def narrowing : List Call :=
  [.edit "-", .submit stray onShow, .edit "-a", .submit stray onShow]

/-- What the first search found. -/
def found : Results := { pawns := [⟨0⟩] }

theorem narrowing_left :
    (typed.after narrowing 3).dirty = true ∧ (typed.after narrowing 4).dirty = false ∧
      (typed.after narrowing 4).results = some found := by
  decide +kernel

theorem narrowing_failsAt : FailsAt typed narrowing 3 := by
  refine ⟨stray, onShow, ⟨.kindLabel⟩, Or.inl rfl, ?_⟩
  decide +kernel

end Sample

open ColonySearch.Session.Sample

theorem current_unless_search_failed_sample :
    (∃ i, ShownFrom typed narrowing i 4 found ∧ ((typed.after narrowing i).term = "-a" ∨
      ∃ j, i < j ∧ j < 4 ∧ FailsAt typed narrowing j ∧ (typed.after narrowing j).term = "-a")) ∧
    FailsAt typed narrowing 3 ∧
      (typed.after narrowing 4).results = (typed.after narrowing 3).results := by
  have hstart : Session.start {} "" 2 = .ok typed := rfl
  obtain ⟨hdirty, hclean, hresults⟩ := narrowing_left
  refine ⟨(current_unless_search_failed hstart narrowing 4).1 found hclean hresults, ?_⟩
  rcases (current_unless_search_failed hstart narrowing 3).2 hdirty hclean with ⟨r, hreturns, _⟩ | h
  · exact absurd narrowing_failsAt hreturns.not_failsAt
  · exact h

/-- A session can be clean and show the results of another term: those from before a failed search. -/
theorem stale_after_failed_search :
    ¬ ∀ (a : Alphabet) (first : String) (d : Int) (s : Session) (calls : List Call) (n : Nat)
        (r : Results), Session.start a first d = .ok s →
      (s.after calls n).dirty = false → (s.after calls n).results = some r →
      ∃ i, ShownFrom s calls i n r ∧ (s.after calls i).term = (s.after calls n).term := by
  intro h
  obtain ⟨_, hclean, hresults⟩ := narrowing_left
  obtain ⟨i, hshown, hterm⟩ := h {} "" 2 typed narrowing 4 found rfl hclean hresults
  have hbefore := hshown.before
  have hlate : i = 3 := by
    revert hterm
    match i with
    | 0 | 1 | 2 => decide
    | 3 => intro _; rfl
    | _ + 4 => omega
  rw [hlate] at hshown
  exact hshown.returns.not_failsAt narrowing_failsAt

end ColonySearch.Session
