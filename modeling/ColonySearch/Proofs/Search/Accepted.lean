import ColonySearch.Proofs.Outcome
import ColonySearch.Query.Evaluation

/-!
# What a list of candidates comes to

Everything the search theory knows about `Colony.accepted` and `Compiled.evaluate`: the things found are the candidates that the chain accepts, in their order; a search fails only by the failure of one candidate; and candidates that the chain rejects may be left out from the start. The theorems about searches reach the evaluation only through these facts.
-/

namespace ColonySearch

open Outcome

theorem nodup_eraseDups {α : Type} [BEq α] [LawfulBEq α] (l : List α) : l.eraseDups.Nodup := by
  cases l with
  | nil => exact List.nodup_nil
  | cons a rest =>
    rw [List.eraseDups_cons, List.nodup_cons]
    refine ⟨?_, nodup_eraseDups _⟩
    rw [List.mem_eraseDups, List.mem_filter]
    simp
termination_by l.length
decreasing_by
  exact Nat.lt_succ_of_le (List.length_filter_le _ rest)

theorem Results.total_eq_of_perm {r r' : Results} (hpawns : r.pawns.Perm r'.pawns)
    (hthings : r.things.Perm r'.things) (hsites : r.sites.Perm r'.sites) : r.total = r'.total := by
  rw [total, total, hpawns.length_eq, hthings.length_eq, hsites.length_eq]

namespace Colony

variable {c : Colony} {chain : List ThingPredicate} {keys found : List ThingKey}

def verdict (c : Colony) (chain : List ThingPredicate) (k : ThingKey) : Except MissingTrait Bool :=
  Chain.run (ThingPredicate.judge c (c.thing k)) chain

/-- Whether the chain accepts the thing; a failure is no acceptance. -/
def accepts (c : Colony) (chain : List ThingPredicate) (k : ThingKey) : Bool :=
  (c.verdict chain k).toOption.getD false

theorem accepts_of_verdict {k : ThingKey} {holds : Bool} (h : c.verdict chain k = .ok holds) :
    c.accepts chain k = holds := by
  rw [accepts, h]
  rfl

theorem accepted_cons (k : ThingKey) (rest : List ThingKey) :
    c.accepted chain (k :: rest) = (do
      let holds ← c.verdict chain k
      let others ← c.accepted chain rest
      return if holds then k :: others else others) := rfl

/-- The search of a list returns exactly when every candidate can be judged, and then it finds the accepted ones. -/
theorem accepted_eq_ok_iff : c.accepted chain keys = .ok found ↔
    (∀ k ∈ keys, ∃ holds, c.verdict chain k = .ok holds) ∧ found = keys.filter (c.accepts chain) := by
  induction keys generalizing found with
  | nil => simp [accepted, eq_comm]
  | cons k rest ih =>
    rw [accepted_cons, bind_eq_ok_iff, List.forall_mem_cons, List.filter_cons]
    constructor
    · rintro ⟨holds, hk, h⟩
      obtain ⟨others, hrest, hfound⟩ := bind_eq_ok_iff.1 h
      obtain ⟨hall, rfl⟩ := ih.1 hrest
      refine ⟨⟨⟨holds, hk⟩, hall⟩, ?_⟩
      rw [accepts_of_verdict hk]
      exact (Except.ok.inj hfound).symm
    · rintro ⟨⟨⟨holds, hk⟩, hall⟩, rfl⟩
      refine ⟨holds, hk, bind_eq_ok_iff.2 ⟨_, ih.2 ⟨hall, rfl⟩, ?_⟩⟩
      rw [accepts_of_verdict hk]
      rfl

theorem exists_of_accepted_eq_error {e : MissingTrait} (h : c.accepted chain keys = .error e) :
    ∃ k ∈ keys, c.verdict chain k = .error e := by
  induction keys with
  | nil => cases h
  | cons k rest ih =>
    rw [accepted_cons, bind_eq_error_iff] at h
    rcases h with hk | ⟨holds, _, h⟩
    · exact ⟨k, List.mem_cons_self, hk⟩
    · rcases bind_eq_error_iff.1 h with hrest | ⟨others, _, h⟩
      · obtain ⟨k', hmem, hk'⟩ := ih hrest
        exact ⟨k', List.mem_cons_of_mem k hmem, hk'⟩
      · cases h

theorem mem_of_accepted (h : c.accepted chain keys = .ok found) {k : ThingKey} :
    k ∈ found ↔ k ∈ keys ∧ c.verdict chain k = .ok true := by
  obtain ⟨hall, rfl⟩ := accepted_eq_ok_iff.1 h
  rw [List.mem_filter]
  refine and_congr_right fun hmem => ?_
  obtain ⟨holds, hk⟩ := hall k hmem
  rw [accepts_of_verdict hk, hk, Except.ok.injEq]

/-- Candidates that the chain rejects make no difference. -/
theorem accepted_filter {keep : ThingKey → Bool}
    (hdrop : ∀ k ∈ keys, keep k = false → c.verdict chain k = .ok false) :
    c.accepted chain (keys.filter keep) = c.accepted chain keys := by
  induction keys with
  | nil => rfl
  | cons k rest ih =>
    have hrest := ih fun k' hmem => hdrop k' (List.mem_cons_of_mem k hmem)
    cases hk : keep k with
    | true => rw [List.filter_cons_of_pos hk, accepted_cons, accepted_cons, hrest]
    | false =>
      rw [List.filter_cons_of_neg (by simp [hk]), hrest, accepted_cons,
        hdrop k List.mem_cons_self hk]
      cases c.accepted chain rest <;> rfl

theorem accepted_congr {c' : Colony} (h : ∀ k ∈ keys, c.verdict chain k = c'.verdict chain k) :
    c.accepted chain keys = c'.accepted chain keys := by
  induction keys with
  | nil => rfl
  | cons k rest ih =>
    rw [accepted_cons, accepted_cons, h k List.mem_cons_self,
      ih fun k' hmem => h k' (List.mem_cons_of_mem k hmem)]

end Colony

namespace Compiled

variable {k : Compiled} {c : Colony} {s : Scope}

def foundPawns (k : Compiled) (c : Colony) (s : Scope) : Except MissingTrait (List ThingKey) :=
  if k.query.pawns then c.accepted k.things ((s.selected k.query).flatMap c.pawnsOn) else .ok []

def foundThings (k : Compiled) (c : Colony) (s : Scope) : Except MissingTrait (List ThingKey) :=
  if k.query.items then c.accepted k.things ((s.selected k.query).flatMap c.haulablesOn) else .ok []

def foundSites (k : Compiled) (c : Colony) (s : Scope) : List SiteKey :=
  if k.query.worldMap then c.acceptedSites k.sites s.sites else []

theorem evaluate_eq : k.evaluate c s = (do
    let pawns ← k.foundPawns c s
    let things ← k.foundThings c s
    return ⟨things.eraseDups, pawns.eraseDups, (k.foundSites c s).eraseDups⟩) := by
  unfold evaluate foundPawns foundThings foundSites
  cases k.query.pawns <;> cases k.query.items <;> rfl

/-- An evaluation that returns has found the pawns and the things, each once. -/
theorem evaluate_eq_ok_iff {r : Results} : k.evaluate c s = .ok r ↔
    ∃ pawns things, k.foundPawns c s = .ok pawns ∧ k.foundThings c s = .ok things ∧
      r = ⟨things.eraseDups, pawns.eraseDups, (k.foundSites c s).eraseDups⟩ := by
  rw [evaluate_eq, bind_eq_ok_iff]
  constructor
  · rintro ⟨pawns, hp, h⟩
    obtain ⟨things, ht, h⟩ := bind_eq_ok_iff.1 h
    exact ⟨pawns, things, hp, ht, (Except.ok.inj h).symm⟩
  · rintro ⟨pawns, things, hp, ht, rfl⟩
    exact ⟨pawns, hp, bind_eq_ok_iff.2 ⟨things, ht, rfl⟩⟩

/-- Nothing is found twice. -/
theorem nodup_of_evaluate {r : Results} (h : k.evaluate c s = .ok r) :
    r.pawns.Nodup ∧ r.things.Nodup ∧ r.sites.Nodup := by
  obtain ⟨pawns, things, _, _, rfl⟩ := evaluate_eq_ok_iff.1 h
  exact ⟨nodup_eraseDups pawns, nodup_eraseDups things, nodup_eraseDups _⟩

section SameMembers

variable {k' : Compiled} {c' : Colony} {s' : Scope} {r r' : Results}
  (hr : k.evaluate c s = .ok r) (hr' : k'.evaluate c' s' = .ok r')

include hr hr'

/-! What two evaluations have found is the same up to order as soon as its members are the same. -/

theorem pawns_perm_of_mem_iff (h : ∀ key, key ∈ r.pawns ↔ key ∈ r'.pawns) :
    r.pawns.Perm r'.pawns :=
  (List.perm_ext_iff_of_nodup (nodup_of_evaluate hr).1 (nodup_of_evaluate hr').1).2 h

theorem things_perm_of_mem_iff (h : ∀ key, key ∈ r.things ↔ key ∈ r'.things) :
    r.things.Perm r'.things :=
  (List.perm_ext_iff_of_nodup (nodup_of_evaluate hr).2.1 (nodup_of_evaluate hr').2.1).2 h

theorem sites_perm_of_mem_iff (h : ∀ key, key ∈ r.sites ↔ key ∈ r'.sites) :
    r.sites.Perm r'.sites :=
  (List.perm_ext_iff_of_nodup (nodup_of_evaluate hr).2.2 (nodup_of_evaluate hr').2.2).2 h

end SameMembers

theorem found_of_evaluate_eq_error {e : MissingTrait} (h : k.evaluate c s = .error e) :
    k.foundPawns c s = .error e ∨ k.foundThings c s = .error e := by
  rw [evaluate_eq, bind_eq_error_iff] at h
  rcases h with hp | ⟨pawns, _, h⟩
  · exact Or.inl hp
  · rcases bind_eq_error_iff.1 h with ht | ⟨things, _, h⟩
    · exact Or.inr ht
    · cases h

end Compiled

end ColonySearch
