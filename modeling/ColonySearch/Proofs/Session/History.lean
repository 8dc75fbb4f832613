import ColonySearch.Session

/-!
# The history of a session

A session together with the calls made on it. Ticks and submits find the game as it is when they are made, so each carries the colony and the scope of its moment, and whatever happens to the game between two calls is covered. `Session.after` is the session after the first calls of a history. What one call does is said once, by an equation for searching and one lemma for the three things a tick can come to; everything about whole histories is derived from these.
-/

namespace ColonySearch

namespace Session

inductive Call where
  | edit (term : String)
  | tick (c : Colony) (scope : Scope)
  | submit (c : Colony) (scope : Scope)

def Call.isTick : Call → Bool
  | .tick .. => true
  | _ => false

/-- The session that a call leaves behind, whatever came of it. -/
def step (s : Session) : Call → Session
  | .edit term => s.edit term
  | .tick c scope => (s.tick c scope).session
  | .submit c scope => (s.submit c scope).session

/-- The session after the first `n` calls, which is the one that finds the call at position `n`. -/
def after (s : Session) (calls : List Call) (n : Nat) : Session := (calls.take n).foldl step s

variable {s : Session} {c : Colony} {scope : Scope} {calls : List Call} {n : Nat}

/-! ### One call -/

/-- A search ends the wait and keeps the old results where it fails. -/
theorem run_eq (trigger : Trigger) : s.run trigger c scope =
    { outcome := search s.alphabet s.term c scope
      session := { s with
        dirty := false
        results := (search s.alphabet s.term c scope).toOption.or s.results }
      log := (s.query.compile.evaluation c scope).log ++
        (search s.alphabet s.term c scope).toOption.toList.map fun r =>
          .searchTriggered trigger s.term r.total } := by
  have hsearch : search s.alphabet s.term c scope = s.query.compile.evaluate c scope := rfl
  simp only [run, Compiled.outcome_evaluation, hsearch]
  cases s.query.compile.evaluate c scope with
  | error e => simp [Except.toOption]
  | ok r => rfl

/-- A tick finds nothing to wait for, or counts and goes on waiting, or searches. -/
theorem tick_cases (s : Session) (c : Colony) (scope : Scope) :
    (s.dirty = false ∧ s.tick c scope = ⟨.ok false, s, []⟩) ∨
    (s.dirty = true ∧ s.ticksSinceEdit + 1 < s.debounce ∧
      s.tick c scope = ⟨.ok false, { s with ticksSinceEdit := s.ticksSinceEdit + 1 }, []⟩) ∨
    (s.dirty = true ∧ s.debounce ≤ s.ticksSinceEdit + 1 ∧ s.tick c scope =
      let turn := { s with ticksSinceEdit := s.ticksSinceEdit + 1 }.run .debounce c scope
      ⟨turn.outcome.map fun _ => true, turn.session, turn.log⟩) := by
  unfold tick
  cases hdirty : s.dirty with
  | false => simp
  | true =>
    by_cases hwait : s.ticksSinceEdit + 1 < s.debounce
    · simp [hwait]
    · simp [hwait, Nat.le_of_not_lt hwait]

theorem state_of_start {a : Alphabet} {first : String} {d : Int} (h : start a first d = .ok s) :
    s.alphabet = a ∧ s.term = first ∧ (s.debounce : Int) = d ∧ s.dirty = false ∧
      s.results = none := by
  rw [start] at h
  split at h
  · next hd =>
    cases h
    exact ⟨rfl, rfl, Int.toNat_of_nonneg (by omega), rfl, rfl⟩
  · cases h

/-! ### Many calls -/

theorem after_zero : s.after calls 0 = s := rfl

theorem after_succ : s.after calls (n + 1) =
    match calls[n]? with
    | some call => (s.after calls n).step call
    | none => s.after calls n := by
  rw [after, List.take_add_one, List.foldl_append]
  cases calls[n]? <;> rfl

theorem after_succ_of_getElem? {call : Call} (h : calls[n]? = some call) :
    s.after calls (n + 1) = (s.after calls n).step call := by
  rw [after_succ, h]

/-- What is called later makes no difference to the session so far. -/
theorem after_append {more : List Call} (h : n ≤ calls.length) :
    s.after (calls ++ more) n = s.after calls n := by
  rw [after, after, List.take_append_of_le_length h]

theorem step_settled (call : Call) :
    (s.step call).debounce = s.debounce ∧ (s.step call).alphabet = s.alphabet := by
  cases call with
  | edit term =>
    rw [step, edit]
    split <;> exact ⟨rfl, rfl⟩
  | tick c scope =>
    rw [step]
    obtain ⟨_, h⟩ | ⟨_, _, h⟩ | ⟨_, _, h⟩ := s.tick_cases c scope
    · rw [h]
      exact ⟨rfl, rfl⟩
    · rw [h]
      exact ⟨rfl, rfl⟩
    · rw [h, run_eq]
      exact ⟨rfl, rfl⟩
  | submit c scope =>
    rw [step, submit, run_eq]
    exact ⟨rfl, rfl⟩

/-- How long a session waits and how it reads terms is settled when it starts. -/
theorem after_settled (s : Session) (calls : List Call) (n : Nat) :
    (s.after calls n).debounce = s.debounce ∧
    (s.after calls n).alphabet = s.alphabet := by
  induction n with
  | zero => exact ⟨rfl, rfl⟩
  | succ n ih =>
    rw [after_succ]
    cases calls[n]? with
    | none => exact ih
    | some call =>
      obtain ⟨hdebounce, halphabet⟩ := (s.after calls n).step_settled call
      exact ⟨hdebounce.trans ih.1, halphabet.trans ih.2⟩

/-! ### What happens at a position of a history -/

/-- The call is an edit to another term than the one at hand. -/
def ChangesAt (s : Session) (calls : List Call) (n : Nat) (term : String) : Prop :=
  calls[n]? = some (.edit term) ∧ term ≠ (s.after calls n).term

def SubmitsAt (calls : List Call) (n : Nat) : Prop := ∃ c scope, calls[n]? = some (.submit c scope)

/-- The call is a tick that runs a search: it answers so, or fails as the search does. -/
def SearchesAt (s : Session) (calls : List Call) (n : Nat) : Prop :=
  ∃ c scope, calls[n]? = some (.tick c scope) ∧
    (((s.after calls n).tick c scope).outcome = .ok true ∨
      ∃ e, ((s.after calls n).tick c scope).outcome = .error e)

def ticksBetween (calls : List Call) (e i : Nat) : Nat :=
  ((calls.take i).drop (e + 1)).countP Call.isTick

end Session

end ColonySearch
