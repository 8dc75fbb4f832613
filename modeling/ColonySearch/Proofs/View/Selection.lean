import Mathlib.Data.Set.Card
import ColonySearch.Proofs.Search.Meaning
import ColonySearch.View

/-!
# Selecting what was found

What counts as a pawn and what counts as a thing to haul is settled by the kinds at the time of the search, and no kind is both, so nothing is found in both parts. What is listed more than once is found once. So the three parts of the results hold no entity twice between them, and to select all of them is to select each entity once, in whatever order the parts are gone through.
-/

namespace ColonySearch

namespace Results

/-- The entity is among the results. -/
def Holds (r : Results) : Selection → Prop
  | .thing k => k ∈ r.pawns ∨ k ∈ r.things
  | .site k => k ∈ r.sites

/-- Both go through the same entities part by part, each in an order of its own. -/
structure Reordered (r r' : Results) : Prop where
  pawns : r.pawns.Perm r'.pawns
  things : r.things.Perm r'.things
  sites : r.sites.Perm r'.sites

/-- No entity is there twice. -/
structure Distinct (r : Results) : Prop where
  pawns : r.pawns.Nodup
  things : r.things.Nodup
  sites : r.sites.Nodup
  apart : ∀ k ∈ r.pawns, k ∉ r.things

/-- All entities, pawns before things before sites. -/
def entities (r : Results) : List Selection :=
  r.pawns.map .thing ++ r.things.map .thing ++ r.sites.map .site

variable {r r' : Results} {e : Selection}

theorem Reordered.total_eq (h : r.Reordered r') : r'.total = r.total :=
  (total_eq_of_perm h.pawns h.things h.sites).symm

theorem Reordered.distinct (h : r.Reordered r') (hr : r.Distinct) : r'.Distinct where
  pawns := h.pawns.nodup hr.pawns
  things := h.things.nodup hr.things
  sites := h.sites.nodup hr.sites
  apart k hk hmem := hr.apart k (h.pawns.mem_iff.2 hk) (h.things.mem_iff.2 hmem)

theorem mem_entities : e ∈ r.entities ↔ r.Holds e := by
  cases e with
  | thing k => simp [entities, Holds]
  | site k => simp [entities, Holds]

theorem length_entities : r.entities.length = r.total := by
  simp only [entities, total, List.length_append, List.length_map]
  omega

theorem Distinct.nodup_entities (h : r.Distinct) : r.entities.Nodup := by
  have hthing : Function.Injective Selection.thing := fun _ _ heq => Selection.thing.inj heq
  have hsite : Function.Injective Selection.site := fun _ _ heq => Selection.site.inj heq
  rw [entities, List.nodup_append, List.nodup_append]
  -- Pawns and things are entities of one form, so only their keys keep them apart.
  refine ⟨⟨h.pawns.map hthing, h.things.map hthing, ?_⟩, h.sites.map hsite, ?_⟩
  · intro e he e' he' heq
    obtain ⟨k, hk, rfl⟩ := List.mem_map.1 he
    obtain ⟨k', hk', rfl⟩ := List.mem_map.1 he'
    exact h.apart k hk (hthing heq ▸ hk')
  · intro e he e' he' heq
    obtain ⟨k', _, rfl⟩ := List.mem_map.1 he'
    subst heq
    simp at he

/-- The total counts the distinct entities. -/
theorem Distinct.ncard_eq (h : r.Distinct) : {e | r.Holds e}.ncard = r.total := by
  classical
  have hset : {e | r.Holds e} = ↑r.entities.toFinset := by
    ext e
    show r.Holds e ↔ _
    rw [Finset.mem_coe, List.mem_toFinset, mem_entities]
  rw [hset, Set.ncard_coe_finset, List.toFinset_card_of_nodup h.nodup_entities, length_entities]

end Results

variable {q : Query} {c : Colony} {s : Scope} {r r' : Results}

/-- A search finds no entity twice, and nothing both as a pawn and as a thing to haul. -/
theorem distinct_of_evaluate (hr : q.compile.evaluate c s = .ok r) : r.Distinct := by
  obtain ⟨hpawns, hthings, hsites⟩ := Compiled.nodup_of_evaluate hr
  refine ⟨hpawns, hthings, hsites, ?_⟩
  intro k hpawn hthing
  obtain ⟨_, _, hkind, _⟩ := (mem_pawns_iff hr).1 hpawn
  obtain ⟨_, _, _, hother, _⟩ := (mem_things_iff hr).1 hthing
  exact hother hkind

theorem View.selectAll_eq (v : View) (r : Results) :
    v.selectAll r = ({ v with selected := v.selected ++ r.entities }, r.total) := by
  rw [← Results.length_entities]
  rfl

theorem mem_map_iff_of_perm {α β : Type} {l l' : List α} {f : α → β} {b : β} (h : l.Perm l') :
    b ∈ l'.map f ↔ ∃ a ∈ l, b = f a := by
  rw [List.mem_map]
  apply exists_congr
  intro a
  rw [h.mem_iff, eq_comm]

/-- Selecting all results of a search selects each entity once. The search finds nothing both as a pawn and as a thing to haul, and the total of its results is the number of distinct entities in them. In whatever order each part is gone through, this many entities come to be selected behind what was selected before, none of them twice, pawns before things before sites; this is the number that is reported, and nothing else about the view changes. -/
theorem select_all_once (hr : q.compile.evaluate c s = .ok r) (horder : r.Reordered r') (v : View) :
    (∀ k ∈ r.pawns, k ∉ r.things) ∧ r.total = {e | r.Holds e}.ncard ∧
    ∃ pawns things sites : List Selection,
      v.selectAll r' =
        ({ v with selected := v.selected ++ (pawns ++ things ++ sites) }, r.total) ∧
      (pawns ++ things ++ sites).length = r.total ∧ (pawns ++ things ++ sites).Nodup ∧
      (∀ e, e ∈ pawns ↔ ∃ k ∈ r.pawns, e = .thing k) ∧
      (∀ e, e ∈ things ↔ ∃ k ∈ r.things, e = .thing k) ∧
      ∀ e, e ∈ sites ↔ ∃ k ∈ r.sites, e = .site k := by
  have hdistinct := distinct_of_evaluate hr
  have hselect := v.selectAll_eq r'
  rw [horder.total_eq] at hselect
  refine ⟨hdistinct.apart, hdistinct.ncard_eq.symm, _, _, _, hselect, ?_, ?_, ?_, ?_, ?_⟩
  · exact Results.length_entities.trans horder.total_eq
  · exact (horder.distinct hdistinct).nodup_entities
  · exact fun e => mem_map_iff_of_perm horder.pawns
  · exact fun e => mem_map_iff_of_perm horder.things
  · exact fun e => mem_map_iff_of_perm horder.sites

namespace Sample

/-- The sample query for any label, on all maps. -/
def wideQuery : Query := { query with label := "", allMaps := true }

/-- Two maps are loaded, one of them twice, and the site is listed twice. -/
def wideScope : Scope := { maps := [⟨0⟩, ⟨1⟩, ⟨0⟩], sites := [⟨0⟩, ⟨0⟩] }

/-- The box is selected already. -/
def boxView : View := { maps := [⟨0⟩, ⟨1⟩, ⟨0⟩], selected := [.thing ⟨3⟩] }

end Sample

open Sample in
theorem select_all_once_sample :
    wideQuery.compile.evaluate colony wideScope = .ok ⟨[⟨2⟩, ⟨3⟩], [⟨0⟩], [⟨0⟩]⟩ ∧
    Results.Reordered ⟨[⟨2⟩, ⟨3⟩], [⟨0⟩], [⟨0⟩]⟩ ⟨[⟨3⟩, ⟨2⟩], [⟨0⟩], [⟨0⟩]⟩ ∧
    {e | (Results.mk [⟨2⟩, ⟨3⟩] [⟨0⟩] [⟨0⟩]).Holds e}.ncard = 4 ∧
    (boxView.selectAll ⟨[⟨3⟩, ⟨2⟩], [⟨0⟩], [⟨0⟩]⟩).2 = 4 ∧
    ∃ selected : List Selection, selected.Nodup ∧
      (boxView.selectAll ⟨[⟨3⟩, ⟨2⟩], [⟨0⟩], [⟨0⟩]⟩).1.selected = .thing ⟨3⟩ :: selected := by
  have hr : wideQuery.compile.evaluate colony wideScope = .ok ⟨[⟨2⟩, ⟨3⟩], [⟨0⟩], [⟨0⟩]⟩ := by
    decide +kernel
  have horder : Results.Reordered ⟨[⟨2⟩, ⟨3⟩], [⟨0⟩], [⟨0⟩]⟩ ⟨[⟨3⟩, ⟨2⟩], [⟨0⟩], [⟨0⟩]⟩ :=
    ⟨.refl _, .swap _ _ _, .refl _⟩
  obtain ⟨_, htotal, pawns, things, sites, hselect, _, hnodup, _⟩ :=
    select_all_once hr horder boxView
  refine ⟨hr, horder, htotal.symm, ?_, _, hnodup, ?_⟩
  · rw [hselect]
    rfl
  · rw [hselect]
    rfl

end ColonySearch
