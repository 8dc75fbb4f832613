import ColonySearch.Proofs.Session.Freshness

/-!
# Where typing ends up

Over a game that stands still, what a session shows in the end depends on the final term alone. Once the typing has been followed by as many ticks as the session waits for, nothing waits any more, whatever the count stood at and whichever searches failed on the way. A clean session that was ever asked for anything has searched for the term at hand since that term came up, so it shows what this search finds. Two ways of typing that end in the same term end with the same results.
-/

namespace ColonySearch.Session

variable {s : Session} {calls more : List Call} {c : Colony} {scope : Scope} {r : Results}
  {i k n : Nat}

/-- Every call finds the game in the given state. -/
def Steady (c : Colony) (scope : Scope) (calls : List Call) : Prop :=
  ∀ call ∈ calls, ∀ game, call.game? = some game → game = (c, scope)

/-- The call asks something of the session: it changes the term, or it is a submit. -/
def AsksAt (s : Session) (calls : List Call) (n : Nat) : Prop :=
  (∃ term, ChangesAt s calls n term) ∨ SubmitsAt calls n

/-- As many ticks as the session waits for. -/
def quietTicks (s : Session) (c : Colony) (scope : Scope) : List Call :=
  List.replicate s.debounce (.tick c scope)

/-- The session after the calls and a full wait behind them. -/
def settled (s : Session) (calls : List Call) (c : Colony) (scope : Scope) : Session :=
  s.after (calls ++ s.quietTicks c scope) (calls.length + s.debounce)

/-! ### A game that stands still -/

theorem Steady.eq_of_runsAt {c' : Colony} {scope' : Scope} (h : Steady c scope calls)
    (hruns : RunsAt s calls n c' scope') : c' = c ∧ scope' = scope := by
  obtain ⟨call, hcall, hgame⟩ := Option.bind_eq_some_iff.1 hruns.game?_eq
  exact Prod.mk.inj (h call (List.mem_of_getElem? hcall) _ hgame)

theorem Steady.append_quietTicks (h : Steady c scope calls) :
    Steady c scope (calls ++ s.quietTicks c scope) := by
  intro call hmem game hgame
  rcases List.mem_append.1 hmem with hcall | hcall
  · exact h call hcall game hgame
  · rw [List.eq_of_mem_replicate hcall] at hgame
    exact (Option.some.inj hgame).symm

/-- A call without a search that leaves the session clean has asked nothing of it. -/
theorem not_asksAt_of_clean (hquiet : ∀ c scope, ¬ RunsAt s calls n c scope)
    (hclean : (s.after calls (n + 1)).dirty = false) : ¬ AsksAt s calls n := by
  intro hasks
  rcases hasks with ⟨term, hchange⟩ | ⟨c, scope, hcall⟩
  · rw [after_succ_of_changesAt hchange] at hclean
    cases hclean
  · exact hquiet c scope (Or.inl hcall)

/-- A clean session that was asked for anything shows what a search for its term finds, if that search returns. -/
theorem results_of_clean (hsteady : Steady c scope calls) (hclean : (s.after calls n).dirty = false)
    (hasked : ∃ i, i < n ∧ AsksAt s calls i)
    (hr : search s.alphabet (s.after calls n).term c scope = .ok r) :
    (s.after calls n).results = some r := by
  -- On the calls so far. A search is for the term at hand; a call without one that leaves the
  -- session clean found it clean and kept its term, so what was asked of it lies further back.
  induction n with
  | zero =>
    obtain ⟨i, hi, _⟩ := hasked
    exact absurd hi (Nat.not_lt_zero i)
  | succ n ih =>
    by_cases hsearch : ∃ c' scope', RunsAt s calls n c' scope'
    · obtain ⟨c', scope', hruns⟩ := hsearch
      obtain ⟨rfl, rfl⟩ := hsteady.eq_of_runsAt hruns
      obtain ⟨_, hterm, hresults⟩ := hruns.state
      rw [hterm] at hr
      rw [hresults, hr]
      rfl
    · have hquiet : ∀ c scope, ¬ RunsAt s calls n c scope := by
        intro c scope hruns
        exact hsearch ⟨c, scope, hruns⟩
      obtain ⟨hresults, hwas⟩ := state_of_not_runsAt hquiet
      obtain ⟨hwasClean, hterm⟩ := hwas hclean
      rw [hresults]
      rw [hterm] at hr
      refine ih hwasClean ?_ hr
      obtain ⟨i, hi, hasks⟩ := hasked
      rcases Nat.lt_succ_iff_lt_or_eq.1 hi with hlt | rfl
      · exact ⟨i, hlt, hasks⟩
      · exact absurd hasks (not_asksAt_of_clean hquiet hclean)

/-- A clean session of which nothing is asked stays as it is. -/
theorem after_eq_self (hclean : s.dirty = false) (hidle : ∀ i, i < n → ¬ AsksAt s calls i) :
    s.after calls n = s := by
  induction n with
  | zero => rfl
  | succ n ih =>
    have hsame := ih fun i hi => hidle i (Nat.lt_succ_of_lt hi)
    have hnow := hidle n (Nat.lt_succ_self n)
    cases hcall : calls[n]? with
    | none => rw [after_succ, hcall, hsame]
    | some call =>
      cases call with
      | edit term =>
        by_cases hterm : term = (s.after calls n).term
        · rw [after_succ_of_edit hcall hterm, hsame]
        · exact absurd (Or.inl ⟨term, hcall, hterm⟩) hnow
      | tick c scope =>
        rw [after_succ_of_getElem? hcall, hsame, step, tick, hclean]
        rfl
      | submit c scope => exact absurd (Or.inr ⟨c, scope, hcall⟩) hnow

/-! ### A full wait -/

/-- Ticks in a row keep the term, and a session that is dirty behind them has counted them all. -/
theorem after_ticks (hticks : ∀ j, j < k → calls[n + j]? = some (.tick c scope)) :
    (s.after calls (n + k)).term = (s.after calls n).term ∧
      ((s.after calls (n + k)).dirty = true → k ≤ (s.after calls (n + k)).ticksSinceEdit) := by
  -- A tick that searches cleans the session, so only ticks that were counted leave it dirty.
  induction k with
  | zero => exact ⟨rfl, fun _ => Nat.zero_le _⟩
  | succ k ih =>
    obtain ⟨hterm, hcounted⟩ := ih fun j hj => hticks j (Nat.lt_succ_of_lt hj)
    have hcall := hticks k (Nat.lt_succ_self k)
    rw [← Nat.add_assoc]
    by_cases hsearch : SearchesAt s calls (n + k)
    · obtain ⟨_, hclean, hsame, _⟩ := hsearch.tick_eq hcall
      refine ⟨hsame.trans hterm, ?_⟩
      intro hdirty
      rw [hclean] at hdirty
      cases hdirty
    · obtain ⟨_, count, hafter, hcounts⟩ := tick_eq_of_not_searchesAt hsearch hcall
      rw [hafter]
      refine ⟨hterm, ?_⟩
      intro hdirty
      rw [hcounts hdirty]
      exact Nat.succ_le_succ (hcounted hdirty)

theorem asksAt_append (h : n < calls.length) : AsksAt s (calls ++ more) n ↔ AsksAt s calls n := by
  simp only [AsksAt, ChangesAt, SubmitsAt, List.getElem?_append_left h,
    after_append (Nat.le_of_lt h)]

theorem not_asksAt_tick (h : calls[n]? = some (.tick c scope)) : ¬ AsksAt s calls n := by
  simp [AsksAt, ChangesAt, SubmitsAt, h]

theorem lt_length_of_asksAt (h : AsksAt s calls n) : n < calls.length := by
  rcases h with ⟨term, hcall, _⟩ | ⟨c, scope, hcall⟩
  · exact (List.getElem?_eq_some_iff.1 hcall).1
  · exact (List.getElem?_eq_some_iff.1 hcall).1

/-! ### The session in the end -/

theorem getElem?_quietTicks (hle : calls.length ≤ i) (hlt : i < calls.length + s.debounce) :
    (calls ++ s.quietTicks c scope)[i]? = some (.tick c scope) := by
  rw [List.getElem?_append_right hle, quietTicks, List.getElem?_replicate_of_lt (by omega)]

/-- The quiet ticks keep the term, and a session that is still dirty in the end has counted them all. -/
theorem settled_ticks : (s.settled calls c scope).term = (s.after calls calls.length).term ∧
    ((s.settled calls c scope).dirty = true →
      s.debounce ≤ (s.settled calls c scope).ticksSinceEdit) := by
  have hticks : ∀ j, j < s.debounce →
      (calls ++ s.quietTicks c scope)[calls.length + j]? = some (.tick c scope) := fun j hj =>
    getElem?_quietTicks (Nat.le_add_right _ _) (Nat.add_lt_add_left hj _)
  obtain ⟨hterm, hcounted⟩ := after_ticks hticks
  rw [after_append (Nat.le_refl _)] at hterm
  exact ⟨hterm, hcounted⟩

/-- Nothing waits behind a full wait: the count of a session that is still dirty would have run out. -/
theorem dirty_settled (hclean : s.dirty = false) : (s.settled calls c scope).dirty = false := by
  rw [← Bool.not_eq_true]
  intro hdirty
  have hcounted := settled_ticks.2 hdirty
  have hcount := (exists_waiting_of_dirty hclean hdirty).2
  exact absurd hcount (Nat.not_lt_of_le hcounted)

theorem asksAt_of_quietTicks (hi : i < calls.length + s.debounce)
    (h : AsksAt s (calls ++ s.quietTicks c scope) i) : AsksAt s calls i := by
  by_cases hbefore : i < calls.length
  · exact (asksAt_append hbefore).1 h
  · exact absurd h (not_asksAt_tick (getElem?_quietTicks (Nat.le_of_not_lt hbefore) hi))

theorem results_settled (hclean : s.dirty = false) (hsteady : Steady c scope calls)
    (hasked : ∃ i, AsksAt s calls i)
    (hr : search s.alphabet (s.after calls calls.length).term c scope = .ok r) :
    (s.settled calls c scope).results = some r := by
  obtain ⟨i, hasks⟩ := hasked
  have hi := lt_length_of_asksAt hasks
  refine results_of_clean hsteady.append_quietTicks (dirty_settled hclean) ?_ ?_
  · exact ⟨i, Nat.lt_add_right _ hi, (asksAt_append hi).2 hasks⟩
  · rw [← settled_ticks.1] at hr
    exact hr

theorem settled_eq_self (hclean : s.dirty = false) (hidle : ¬ ∃ i, AsksAt s calls i) :
    s.settled calls c scope = s := by
  refine after_eq_self hclean ?_
  intro i hi hasks
  exact hidle ⟨i, asksAt_of_quietTicks hi hasks⟩

/-- Typing over a game that stands still settles. Once the calls are followed by a full wait the session is clean, whatever failed on the way. If the calls changed the term or submitted it, and the search for the final term returns, then the session shows what that search finds; if they did neither, it shows nothing yet. So any two ways of typing, from whatever first terms and with whatever waits, that ask for something and end in the same term end with the same results, if the search for that term returns. -/
theorem typing_settles {a : Alphabet} {first : String} {d : Int} {s : Session} {c : Colony}
    {scope : Scope} {calls : List Call} (hstart : Session.start a first d = .ok s)
    (hsteady : Steady c scope calls) :
    (s.settled calls c scope).dirty = false ∧
    (s.settled calls c scope).term = (s.after calls calls.length).term ∧
    ((∃ i, AsksAt s calls i) → ∀ r, search a (s.after calls calls.length).term c scope = .ok r →
      (s.settled calls c scope).results = some r) ∧
    ((¬ ∃ i, AsksAt s calls i) → (s.settled calls c scope).results = none) ∧
    ∀ (first' : String) (d' : Int) (s' : Session) (calls' : List Call),
      Session.start a first' d' = .ok s' → Steady c scope calls' →
      (∃ i, AsksAt s calls i) → (∃ i, AsksAt s' calls' i) →
      (s'.after calls' calls'.length).term = (s.after calls calls.length).term →
      (∃ r, search a (s.after calls calls.length).term c scope = .ok r) →
      (s'.settled calls' c scope).results = (s.settled calls c scope).results := by
  obtain ⟨rfl, _, _, hclean, hnone⟩ := state_of_start hstart
  refine ⟨dirty_settled hclean, settled_ticks.1, ?_, ?_, ?_⟩
  · intro hasked r hr
    exact results_settled hclean hsteady hasked hr
  · intro hidle
    rw [settled_eq_self hclean hidle, hnone]
  · intro first' d' s' calls' hstart' hsteady' hasked hasked' hterm hreturns
    obtain ⟨r, hr⟩ := hreturns
    obtain ⟨halphabet, _, _, hclean', _⟩ := state_of_start hstart'
    have hr' : search s'.alphabet (s'.after calls' calls'.length).term c scope = .ok r := by
      rw [halphabet, hterm, hr]
    rw [results_settled hclean hsteady hasked hr, results_settled hclean' hsteady' hasked' hr']

namespace Sample

/-- A label is typed behind the flag for pawns and submitted, which fails; more of it is typed, and all of it is taken back before it is searched for again. -/
def retyping : List Call :=
  [.edit "-", .tick stray onShow, .edit "-a", .submit stray onShow, .edit "-ab", .tick stray onShow,
    .edit "-"]

/-- The term for pawns is pasted at once. -/
def pasting : List Call := [.edit "-"]

def patient : Session where
  alphabet := {}
  term := "-."
  debounce := 40
  one_le_debounce := by decide

theorem steady_retyping : Steady stray onShow retyping := by
  intro call hmem game hgame
  simp only [retyping, List.mem_cons, List.not_mem_nil, or_false] at hmem
  rcases hmem with rfl | rfl | rfl | rfl | rfl | rfl | rfl <;> cases hgame <;> rfl

theorem steady_pasting : Steady stray onShow pasting := by
  intro call hmem game hgame
  rw [List.mem_singleton.1 hmem] at hgame
  cases hgame

end Sample

open ColonySearch.Session.Sample in
theorem typing_settles_sample :
    FailsAt typed retyping 3 ∧ (typed.settled retyping stray onShow).dirty = false ∧
      (typed.settled retyping stray onShow).results = some found ∧
      (patient.settled pasting stray onShow).results =
        (typed.settled retyping stray onShow).results ∧
      (typed.settled [] stray onShow).results = none := by
  have hstart : Session.start {} "" 2 = .ok typed := rfl
  have hstart' : Session.start {} "-." 40 = .ok patient := rfl
  have hasked : AsksAt typed retyping 0 := Or.inl ⟨"-", rfl, by decide⟩
  have hasked' : AsksAt patient pasting 0 := Or.inl ⟨"-", rfl, by decide⟩
  have hterm : (typed.after retyping retyping.length).term = "-" := by decide +kernel
  have hreturns : search {} "-" stray onShow = .ok found := by decide +kernel
  have hfails : FailsAt typed retyping 3 := by
    refine ⟨stray, onShow, ⟨.kindLabel⟩, Or.inl rfl, ?_⟩
    decide +kernel
  obtain ⟨hclean, _, hshows, _, hsame⟩ := typing_settles hstart steady_retyping
  rw [hterm] at hshows hsame
  have hunasked : ¬ ∃ i, AsksAt typed [] i := by
    rintro ⟨i, hasks⟩
    exact Nat.not_lt_zero i (lt_length_of_asksAt hasks)
  have hsteady : Steady stray onShow [] := by
    intro call hmem
    cases hmem
  have hnothing := (typing_settles hstart hsteady).2.2.2.1 hunasked
  exact ⟨hfails, hclean, hshows ⟨0, hasked⟩ found hreturns,
    hsame "-." 40 patient pasting hstart' steady_pasting ⟨0, hasked⟩ ⟨0, hasked'⟩ rfl
      ⟨found, hreturns⟩, hnothing⟩

end ColonySearch.Session
