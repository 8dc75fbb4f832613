import Mathlib.Control.Monad.Basic
import ColonySearch.Proofs.Session.History

/-!
# When a session searches by itself

The debounced searches of a session, told from its history alone. An edit that changes the term waits from its position on, until another such edit, a submit or a debounced search ends the wait. The invariant that carries the proofs says that a session is dirty exactly while an edit waits, that its term is then the one of that edit, and that its count is the number of ticks since.
-/

namespace ColonySearch.Session

variable {s : Session} {calls : List Call} {c : Colony} {scope : Scope} {term : String} {e i n : Nat}

/-! ### The ticks of a history -/

theorem searchesAt_iff_of_tick (h : calls[n]? = some (.tick c scope)) :
    SearchesAt s calls n ↔ (s.after calls n).dirty = true ∧
      s.debounce ≤ (s.after calls n).ticksSinceEdit + 1 := by
  have hcall : SearchesAt s calls n ↔ ((s.after calls n).tick c scope).outcome = .ok true ∨
      ∃ e, ((s.after calls n).tick c scope).outcome = .error e := by
    constructor
    · rintro ⟨c', scope', h', hruns⟩
      rw [h] at h'
      cases h'
      exact hruns
    · intro hruns
      exact ⟨c, scope, h, hruns⟩
  rw [hcall, ← (after_settled s calls n).1]
  obtain ⟨hdirty, htick⟩ | ⟨hdirty, hwait, htick⟩ | ⟨hdirty, hover, htick⟩ :=
    (s.after calls n).tick_cases c scope
  · simp [htick, hdirty]
  · simp [htick, hdirty, hwait]
  · rw [htick, run_eq]
    simp only [hdirty, hover, and_self, iff_true]
    cases search (s.after calls n).alphabet (s.after calls n).term c scope with
    | error e => exact Or.inr ⟨e, rfl⟩
    | ok r => exact Or.inl rfl

theorem SearchesAt.tick_eq (hsearches : SearchesAt s calls n) (h : calls[n]? = some (.tick c scope)) :
    ((s.after calls n).tick c scope).outcome =
        (search s.alphabet (s.after calls n).term c scope).map (fun _ => true) ∧
      (s.after calls (n + 1)).dirty = false ∧
      (s.after calls (n + 1)).term = (s.after calls n).term ∧
      (s.after calls (n + 1)).results =
        (search s.alphabet (s.after calls n).term c scope).toOption.or (s.after calls n).results := by
  obtain ⟨hdirty, hover⟩ := (searchesAt_iff_of_tick h).1 hsearches
  rw [after_succ_of_getElem? h, step, ← (after_settled s calls n).2]
  rw [← (after_settled s calls n).1] at hover
  obtain ⟨hclean, _⟩ | ⟨_, hwait, _⟩ | ⟨_, _, htick⟩ := (s.after calls n).tick_cases c scope
  · rw [hdirty] at hclean
    cases hclean
  · omega
  · rw [htick, run_eq]
    exact ⟨rfl, rfl, rfl, rfl⟩

theorem tick_eq_of_not_searchesAt (hsearches : ¬ SearchesAt s calls n)
    (h : calls[n]? = some (.tick c scope)) :
    ((s.after calls n).tick c scope).outcome = .ok false ∧
      ∃ count, s.after calls (n + 1) = { s.after calls n with ticksSinceEdit := count } ∧
        ((s.after calls n).dirty = true → count = (s.after calls n).ticksSinceEdit + 1) := by
  rw [after_succ_of_getElem? h, step]
  rw [searchesAt_iff_of_tick h, ← (after_settled s calls n).1] at hsearches
  obtain ⟨hclean, htick⟩ | ⟨_, _, htick⟩ | ⟨hdirty, hover, _⟩ := (s.after calls n).tick_cases c scope
  · rw [htick]
    refine ⟨rfl, _, rfl, fun hdirty => ?_⟩
    rw [hdirty] at hclean
    cases hclean
  · rw [htick]
    exact ⟨rfl, _, rfl, fun _ => rfl⟩
  · exact absurd ⟨hdirty, hover⟩ hsearches

theorem ticksBetween_self_succ : ticksBetween calls e (e + 1) = 0 := by
  simp [ticksBetween]

theorem ticksBetween_succ (h : e < n) : ticksBetween calls e (n + 1) =
    ticksBetween calls e n + calls[n]?.toList.countP Call.isTick := by
  unfold ticksBetween
  rw [List.take_add_one]
  cases hcall : calls[n]? with
  | none => simp
  | some call =>
    have hn : n < calls.length := (List.getElem?_eq_some_iff.1 hcall).1
    rw [List.drop_append_of_le_length (by rw [List.length_take]; omega), List.countP_append]

/-! ### What ends a wait -/

/-- The call is an edit that changes the term, a submit, or a tick that searches. -/
def DisturbsAt (s : Session) (calls : List Call) (n : Nat) : Prop :=
  (∃ term, ChangesAt s calls n term) ∨ SubmitsAt calls n ∨ SearchesAt s calls n

theorem not_disturbsAt_of_none (h : calls[n]? = none) : ¬ DisturbsAt s calls n := by
  simp [DisturbsAt, ChangesAt, SubmitsAt, SearchesAt, h]

theorem disturbsAt_edit_iff (h : calls[n]? = some (.edit term)) :
    DisturbsAt s calls n ↔ term ≠ (s.after calls n).term := by
  simp [DisturbsAt, ChangesAt, SubmitsAt, SearchesAt, h]

theorem disturbsAt_tick_iff (h : calls[n]? = some (.tick c scope)) :
    DisturbsAt s calls n ↔ SearchesAt s calls n := by
  simp [DisturbsAt, ChangesAt, SubmitsAt, h]

theorem after_succ_of_changesAt (h : ChangesAt s calls n term) : s.after calls (n + 1) =
    { s.after calls n with term, dirty := true, ticksSinceEdit := 0 } := by
  rw [after_succ_of_getElem? h.1, step, edit, if_neg h.2]

theorem after_succ_of_edit (h : calls[n]? = some (.edit term))
    (hsame : term = (s.after calls n).term) : s.after calls (n + 1) = s.after calls n := by
  rw [after_succ_of_getElem? h, step, edit, if_pos hsame]

/-! ### The edit that waits -/

/-- The edit at position `e` changed the term, and nothing before position `i` has ended its wait. -/
structure Waiting (s : Session) (calls : List Call) (e i : Nat) (term : String) : Prop where
  before : e < i
  changes : ChangesAt s calls e term
  undisturbed : ∀ j, e < j → j < i → ¬ DisturbsAt s calls j

theorem ChangesAt.waiting (h : ChangesAt s calls e term) : Waiting s calls e (e + 1) term where
  before := Nat.lt_succ_self e
  changes := h
  undisturbed j hafter hbefore := by omega

theorem Waiting.succ (h : Waiting s calls e n term) (hquiet : ¬ DisturbsAt s calls n) :
    Waiting s calls e (n + 1) term where
  before := Nat.lt_succ_of_lt h.before
  changes := h.changes
  undisturbed j hafter hbefore := by
    rcases Nat.lt_succ_iff_lt_or_eq.1 hbefore with hlt | rfl
    · exact h.undisturbed j hafter hlt
    · exact hquiet

theorem Waiting.of_succ (h : Waiting s calls e (n + 1) term) :
    e = n ∨ Waiting s calls e n term ∧ ¬ DisturbsAt s calls n := by
  rcases Nat.lt_succ_iff_lt_or_eq.1 h.before with hlt | rfl
  · refine Or.inr ⟨⟨hlt, h.changes, fun j hafter hbefore => ?_⟩, h.undisturbed n hlt (Nat.lt_succ_self n)⟩
    exact h.undisturbed j hafter (Nat.lt_succ_of_lt hbefore)
  · exact Or.inl rfl

/-- While an edit waits the session is dirty, its term is that of the edit, and its count is that of the ticks since. -/
theorem Waiting.state (h : Waiting s calls e n term) : (s.after calls n).dirty = true ∧
    (s.after calls n).term = term ∧ (s.after calls n).ticksSinceEdit = ticksBetween calls e n := by
  induction n with
  | zero => exact absurd h.before (Nat.not_lt_zero e)
  | succ n ih =>
    rcases h.of_succ with rfl | ⟨hwait, hquiet⟩
    · rw [after_succ_of_changesAt h.changes, ticksBetween_self_succ]
      exact ⟨rfl, rfl, rfl⟩
    · obtain ⟨hdirty, hterm, hcount⟩ := ih hwait
      rw [ticksBetween_succ hwait.before, ← hcount]
      cases hcall : calls[n]? with
      | none =>
        rw [after_succ, hcall]
        exact ⟨hdirty, hterm, rfl⟩
      | some call =>
        cases call with
        | edit term' =>
          rw [disturbsAt_edit_iff hcall, Classical.not_not] at hquiet
          rw [after_succ_of_edit hcall hquiet]
          exact ⟨hdirty, hterm, rfl⟩
        | tick c scope =>
          rw [disturbsAt_tick_iff hcall] at hquiet
          obtain ⟨_, count, hafter, hcounts⟩ := tick_eq_of_not_searchesAt hquiet hcall
          rw [hafter]
          exact ⟨hdirty, hterm, hcounts hdirty⟩
        | submit c scope => exact absurd (Or.inr (Or.inl ⟨c, scope, hcall⟩)) hquiet

/-- A session that starts clean is dirty only while an edit waits, and its count has not run out then. -/
theorem exists_waiting_of_dirty (hclean : s.dirty = false) (hdirty : (s.after calls n).dirty = true) :
    (∃ e term, Waiting s calls e n term) ∧ (s.after calls n).ticksSinceEdit < s.debounce := by
  induction n with
  | zero =>
    rw [after_zero, hclean] at hdirty
    cases hdirty
  | succ n ih =>
    cases hcall : calls[n]? with
    | none =>
      have hstays : s.after calls (n + 1) = s.after calls n := by rw [after_succ, hcall]
      rw [hstays] at hdirty ⊢
      obtain ⟨⟨e, term, hwait⟩, hcount⟩ := ih hdirty
      exact ⟨⟨e, term, hwait.succ (not_disturbsAt_of_none hcall)⟩, hcount⟩
    | some call =>
      cases call with
      | edit term =>
        by_cases hsame : term = (s.after calls n).term
        · rw [after_succ_of_edit hcall hsame] at hdirty ⊢
          obtain ⟨⟨e, term', hwait⟩, hcount⟩ := ih hdirty
          refine ⟨⟨e, term', hwait.succ ?_⟩, hcount⟩
          rw [disturbsAt_edit_iff hcall, Classical.not_not]
          exact hsame
        · have hchange : ChangesAt s calls n term := ⟨hcall, hsame⟩
          rw [after_succ_of_changesAt hchange]
          exact ⟨⟨n, term, hchange.waiting⟩, s.one_le_debounce⟩
      | tick c scope =>
        by_cases hsearch : SearchesAt s calls n
        · rw [(hsearch.tick_eq hcall).2.1] at hdirty
          cases hdirty
        · obtain ⟨_, count, hafter, hcounts⟩ := tick_eq_of_not_searchesAt hsearch hcall
          rw [hafter] at hdirty ⊢
          obtain ⟨⟨e, term, hwait⟩, _⟩ := ih hdirty
          refine ⟨⟨e, term, hwait.succ (mt (disturbsAt_tick_iff hcall).1 hsearch)⟩, ?_⟩
          have hcount : count = (s.after calls n).ticksSinceEdit + 1 := hcounts hdirty
          have hgoes : ¬ s.debounce ≤ (s.after calls n).ticksSinceEdit + 1 := fun hover =>
            hsearch ((searchesAt_iff_of_tick hcall).2 ⟨hdirty, hover⟩)
          change count < s.debounce
          omega
      | submit c scope =>
        rw [after_succ_of_getElem? hcall, step, submit, run_eq] at hdirty
        cases hdirty

/-! ### The searches of a history -/

/-- A tick searches exactly when it completes the wait of an edit. -/
theorem searchesAt_iff_waiting (hclean : s.dirty = false) (hcall : calls[i]? = some (.tick c scope)) :
    SearchesAt s calls i ↔ ∃ e term, Waiting s calls e i term ∧
      ticksBetween calls e i + 1 = s.debounce := by
  rw [searchesAt_iff_of_tick hcall]
  constructor
  · rintro ⟨hdirty, hover⟩
    obtain ⟨⟨e, term, hwait⟩, hcount⟩ := exists_waiting_of_dirty hclean hdirty
    refine ⟨e, term, hwait, ?_⟩
    rw [← hwait.state.2.2]
    omega
  · rintro ⟨e, term, hwait, hcount⟩
    obtain ⟨hdirty, _, hticks⟩ := hwait.state
    exact ⟨hdirty, by omega⟩

/-- An edit causes one search at the most. -/
theorem Waiting.search_unique {j : Nat} {term' : String} (hi : Waiting s calls e i term)
    (hj : Waiting s calls e j term') (hsi : SearchesAt s calls i) (hsj : SearchesAt s calls j) :
    i = j := by
  rcases Nat.lt_trichotomy i j with hlt | heq | hgt
  · exact absurd (Or.inr (Or.inr hsi)) (hj.undisturbed i hi.before hlt)
  · exact heq
  · exact absurd (Or.inr (Or.inr hsj)) (hi.undisturbed j hj.before hgt)

/-- Without an edit that repeats the term a history goes on as it does with it. -/
theorem after_eraseIdx (hcall : calls[i]? = some (.edit term))
    (hsame : term = (s.after calls i).term) (h : i ≤ n) :
    s.after (calls.eraseIdx i) n = s.after calls (n + 1) := by
  induction h with
  | refl =>
    have hi : i ≤ (calls.take i).length := by
      have := (List.getElem?_eq_some_iff.1 hcall).1
      rw [List.length_take]
      omega
    have htake : (calls.eraseIdx i).take i = calls.take i := by
      rw [List.eraseIdx_eq_take_drop_succ, List.take_append_of_le_length hi, List.take_take, Nat.min_self]
    rw [after_succ_of_edit hcall hsame, after, after, htake]
  | step hle ih => rw [after_succ, after_succ, ih, List.getElem?_eraseIdx_of_ge hle]

/-- Sessions search by themselves exactly when an edit has waited long enough. From its start on, for whatever calls and whatever becomes of the game between them: a tick searches exactly if an edit that changed the term still waits and the ticks since then fall one short of the wait; the search is for the term of that edit; any other tick answers no and leaves the term, the mark and the results alone; an edit causes one such search at the most; and a history without an edit that repeats the term searches at the same calls. -/
theorem searches_after_quiet_period {a : Alphabet} {first : String} {d : Int} {s : Session}
    (hstart : Session.start a first d = .ok s) (calls : List Call) :
    (∀ i c scope, calls[i]? = some (.tick c scope) → (SearchesAt s calls i ↔
      ∃ e term, Waiting s calls e i term ∧ (ticksBetween calls e i : Int) = d - 1)) ∧
    (∀ i c scope e term, calls[i]? = some (.tick c scope) → SearchesAt s calls i →
      Waiting s calls e i term →
      ((s.after calls i).tick c scope).outcome = (search a term c scope).map (fun _ => true) ∧
        (s.after calls (i + 1)).results =
          (search a term c scope).toOption.or (s.after calls i).results) ∧
    (∀ i c scope, calls[i]? = some (.tick c scope) → ¬ SearchesAt s calls i →
      ((s.after calls i).tick c scope).outcome = .ok false ∧
        (s.after calls (i + 1)).term = (s.after calls i).term ∧
        (s.after calls (i + 1)).dirty = (s.after calls i).dirty ∧
        (s.after calls (i + 1)).results = (s.after calls i).results) ∧
    (∀ e i j term term', Waiting s calls e i term → Waiting s calls e j term' →
      SearchesAt s calls i → SearchesAt s calls j → i = j) ∧
    (∀ i term, calls[i]? = some (.edit term) → term = (s.after calls i).term → ∀ n, i ≤ n →
      (SearchesAt s (calls.eraseIdx i) n ↔ SearchesAt s calls (n + 1))) := by
  unfold start at hstart
  split at hstart
  · rename_i hd
    cases hstart
    refine ⟨?_, ?_, ?_, ?_, ?_⟩
    · intro i c scope hcall
      rw [searchesAt_iff_waiting rfl hcall]
      refine exists_congr fun e => exists_congr fun term => and_congr_right fun _ => ?_
      change ticksBetween calls e i + 1 = d.toNat ↔ _
      omega
    · intro i c scope e term hcall hsearches hwait
      obtain ⟨houtcome, _, _, hresults⟩ := hsearches.tick_eq hcall
      rw [hwait.state.2.1] at houtcome hresults
      exact ⟨houtcome, hresults⟩
    · intro i c scope hcall hsearches
      obtain ⟨houtcome, count, hafter, _⟩ := tick_eq_of_not_searchesAt hsearches hcall
      rw [hafter]
      exact ⟨houtcome, rfl, rfl, rfl⟩
    · intro e i j term term' hi hj
      exact hi.search_unique hj
    · intro i term hcall hsame n hn
      unfold SearchesAt
      rw [after_eraseIdx hcall hsame hn, List.getElem?_eraseIdx_of_ge hn]
  · cases hstart

namespace Sample

/-- A map with a pawn that is no actor, which a search for labels cannot judge. -/
def stray : Colony where
  thing := fun _ => { kind := .pawn }
  map := fun _ => { spawned := [⟨0⟩] }

def onShow : Scope := { current := some ⟨0⟩ }

/-- A term is typed, a tick passes, the field is reported again unchanged, and the next tick searches. -/
def typing : List Call :=
  [.edit "-a", .tick {} {}, .edit "-a", .tick stray onShow, .submit {} {}, .tick {} {}]

def typed : Session where
  alphabet := {}
  term := ""
  debounce := 2
  one_le_debounce := by decide

end Sample

open ColonySearch.Session.Sample in
theorem searches_after_quiet_period_sample :
    Session.start {} "" 2 = .ok typed ∧ Waiting typed typing 0 3 "-a" ∧ SearchesAt typed typing 3 ∧
      ((typed.after typing 3).tick stray onShow).outcome = .error ⟨.kindLabel⟩ ∧
      (typed.after typing 4).results = none ∧ ¬ SearchesAt typed typing 1 ∧
      ((typed.after typing 1).tick {} {}).outcome = .ok false ∧
      SearchesAt typed (typing.eraseIdx 2) 2 := by
  have hstart : Session.start {} "" 2 = .ok typed := rfl
  obtain ⟨hiff, hsearch, hquiet, _, hrepeat⟩ := searches_after_quiet_period hstart typing
  have hfirst : ¬ SearchesAt typed typing 1 := by
    rw [searchesAt_iff_of_tick rfl]
    decide
  have hsame : ¬ DisturbsAt typed typing 2 := by
    rw [disturbsAt_edit_iff rfl]
    decide
  have hwait : Waiting typed typing 0 3 "-a" :=
    ((ChangesAt.waiting ⟨rfl, by decide⟩).succ (mt (disturbsAt_tick_iff rfl).1 hfirst)).succ hsame
  have hsearches : SearchesAt typed typing 3 := (hiff 3 _ _ rfl).2 ⟨0, "-a", hwait, rfl⟩
  obtain ⟨houtcome, hresults⟩ := hsearch 3 _ _ 0 "-a" rfl hsearches hwait
  have hfails : search {} "-a" stray onShow = .error ⟨.kindLabel⟩ := by decide +kernel
  rw [hfails] at houtcome hresults
  exact ⟨hstart, hwait, hsearches, houtcome, hresults, hfirst, (hquiet 1 _ _ rfl hfirst).1,
    (hrepeat 2 "-a" rfl (by decide) 2 (Nat.le_refl 2)).2 hsearches⟩

end ColonySearch.Session
