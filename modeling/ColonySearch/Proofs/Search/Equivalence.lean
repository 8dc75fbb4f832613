import ColonySearch.Proofs.Search.Failure

/-!
# Queries that ask the same

Two compiled queries have the same chains exactly if no candidate can tell them apart. Equal chains say the same of everything; for the converse there is a candidate for each way in which chains can differ. An actor inside a container is accepted by a query that matches all and by no other. A site with the label of one query is accepted by the other only if the label of the other stands in it, so labels that differ are told apart even if they agree in lower case. An actor of no side that carries the label is turned away only by the demand for the player's side. Strays are left out as candidates, since chains can fail on them.
-/

namespace ColonySearch

namespace Compiled

/-- What the chain for things says of a thing. -/
def thingVerdict (k : Compiled) (c : Colony) (t : Thing) : Except MissingTrait Bool :=
  Chain.run (ThingPredicate.judge c t) k.things

/-- What the chain for sites says of a site. -/
def siteVerdict (k : Compiled) (s : Site) : Except MissingTrait Bool :=
  Chain.run (fun p => .ok (p.holds s)) k.sites

/-- Both say the same of every thing that is no stray, in every colony, and of every site. -/
structure SameVerdicts (k k' : Compiled) : Prop where
  thing : ∀ (c : Colony) (t : Thing), ¬ t.IsStray → k.thingVerdict c t = k'.thingVerdict c t
  site : ∀ s : Site, k.siteVerdict s = k'.siteVerdict s

/-- Both have the same chains, predicate by predicate. -/
def SameChains (k k' : Compiled) : Prop := k.things = k'.things ∧ k.sites = k'.sites

theorem SameChains.sameVerdicts {k k' : Compiled} (h : k.SameChains k') : k.SameVerdicts k' where
  thing c t _ := by rw [thingVerdict, thingVerdict, h.1]
  site s := by rw [siteVerdict, siteVerdict, h.2]

end Compiled

/-- Both queries match all, or neither does and they ask for the same label and the same side. -/
def Query.SameDemands (q q' : Query) : Prop :=
  (q.matchAll = true ∧ q'.matchAll = true) ∨
    (q.matchAll = false ∧ q'.matchAll = false ∧ q.label = q'.label ∧ q.colonyOnly = q'.colonyOnly)

variable {q q' : Query}

theorem Query.SameDemands.sameChains (h : q.SameDemands q') : q.compile.SameChains q'.compile := by
  unfold Compiled.SameChains Query.compile Query.thingChain Query.siteChain
  obtain ⟨hall, hall'⟩ | ⟨hall, hall', hlabel, hside⟩ := h
  · simp only [hall, hall', if_true, and_self]
  · simp only [hall, hall', hlabel, hside, and_self]

/-! ### Candidates that tell queries apart -/

/-- An actor that no map holds, so that no fog can hide it. -/
def Thing.actorWith (label : String) (a : Actor) : Thing :=
  { label, kind := .pawn, actor := some a }

theorem Compiled.thingVerdict_actorWith {label : String} {a : Actor} :
    q.compile.thingVerdict {} (.actorWith label a) = .ok true ↔
      q.AdmitsPawn (.actorWith label a) := by
  -- The verdict on a thing is what a colony says of which it is the only thing.
  have hverdict := Colony.verdict_actor_iff (c := { thing := fun _ => .actorWith label a }) (q := q)
    (k := ⟨0⟩) rfl rfl
  have hseen : ¬ Colony.Hidden { thing := fun _ => .actorWith label a } (.actorWith label a) := by
    intro h
    obtain ⟨m, hheld, _⟩ := h
    cases hheld
  exact hverdict.trans (and_iff_right hseen)

theorem Compiled.siteVerdict_eq_true_iff {s : Site} :
    q.compile.siteVerdict s = .ok true ↔ q.AdmitsSite s := by
  rw [siteVerdict, Chain.run_eq_true_iff]
  simp only [Except.ok.injEq]
  exact Query.forall_mem_siteChain

theorem Query.admitsPawn_enclosed_iff :
    q.AdmitsPawn (.actorWith "" { enclosed := true }) ↔ q.matchAll = true := by
  have henclosed : (Thing.actorWith "" { enclosed := true }).Enclosed := ⟨_, rfl, rfl⟩
  constructor
  · intro h
    obtain hall | ⟨_, _, hfree⟩ := h
    · exact hall
    · exact absurd henclosed hfree
  · intro hall
    exact Or.inl hall

theorem Query.admitsPawn_labelled_iff (hall : q.matchAll = false) :
    q.AdmitsPawn (.actorWith q.label {}) ↔ q.colonyOnly = false := by
  have hside : ¬ (Thing.actorWith q.label {}).OnPlayerSide := by
    intro h
    obtain ⟨a, hactor, f, hfaction, _⟩ := h
    cases hactor
    cases hfaction
  have hfree : ¬ (Thing.actorWith q.label {}).Enclosed := by
    intro h
    obtain ⟨a, hactor, henclosed⟩ := h
    cases hactor
    cases henclosed
  have hlabel : ∃ label ∈ (Thing.actorWith q.label {}).labels, Text.OccursInLower q.label label :=
    ⟨q.label, List.mem_cons_self, List.infix_rfl⟩
  constructor
  · intro h
    obtain hall' | ⟨_, hside', _⟩ := h
    · rw [hall] at hall'
      cases hall'
    · exact hside'.resolve_right hside
  · intro hany
    exact Or.inr ⟨Or.inr hlabel, Or.inl hany, hfree⟩

theorem Query.infix_of_admitsSite {s : Site} (hall : q.matchAll = false) (h : q.AdmitsSite s) :
    q.label.toList <:+: s.label.toList := by
  obtain hall' | hempty | hoccurs := h
  · rw [hall] at hall'
    cases hall'
  · rw [hempty]
    exact List.nil_infix
  · exact hoccurs

namespace Compiled.SameVerdicts

variable (h : q.compile.SameVerdicts q'.compile)

include h

theorem admitsPawn_iff (label : String) (a : Actor) :
    q.AdmitsPawn (.actorWith label a) ↔ q'.AdmitsPawn (.actorWith label a) := by
  have hstray : ¬ (Thing.actorWith label a).IsStray := by
    intro hstray
    cases hstray.2
  rw [← thingVerdict_actorWith, ← thingVerdict_actorWith, h.thing {} _ hstray]

theorem admitsSite_iff (s : Site) : q.AdmitsSite s ↔ q'.AdmitsSite s := by
  rw [← siteVerdict_eq_true_iff, ← siteVerdict_eq_true_iff, h.site s]

theorem matchAll_eq : q.matchAll = q'.matchAll := by
  rw [Bool.eq_iff_iff, ← Query.admitsPawn_enclosed_iff, ← Query.admitsPawn_enclosed_iff]
  exact h.admitsPawn_iff "" { enclosed := true }

theorem label_eq (hall : q.matchAll = false) : q.label = q'.label := by
  have hall' : q'.matchAll = false := h.matchAll_eq ▸ hall
  have hstands : q'.label.toList <:+: q.label.toList := by
    apply Query.infix_of_admitsSite (s := { label := q.label }) hall'
    exact (h.admitsSite_iff _).1 (Or.inr (Or.inr List.infix_rfl))
  have hstands' : q.label.toList <:+: q'.label.toList := by
    apply Query.infix_of_admitsSite (s := { label := q'.label }) hall
    exact (h.admitsSite_iff _).2 (Or.inr (Or.inr List.infix_rfl))
  apply String.toList_inj.1
  exact hstands'.eq_of_length (Nat.le_antisymm hstands'.length_le hstands.length_le)

theorem colonyOnly_eq (hall : q.matchAll = false) : q.colonyOnly = q'.colonyOnly := by
  have hall' : q'.matchAll = false := h.matchAll_eq ▸ hall
  have hfree : q.colonyOnly = false ↔ q'.colonyOnly = false := by
    rw [← Query.admitsPawn_labelled_iff hall, ← Query.admitsPawn_labelled_iff hall',
      h.admitsPawn_iff, h.label_eq hall]
  rw [Bool.eq_iff_iff, ← Bool.not_eq_false, ← Bool.not_eq_false, hfree]

theorem sameDemands : q.SameDemands q' := by
  cases hall : q.matchAll with
  | true => exact Or.inl ⟨hall, h.matchAll_eq ▸ hall⟩
  | false => exact Or.inr ⟨hall, h.matchAll_eq ▸ hall, h.label_eq hall, h.colonyOnly_eq hall⟩

end Compiled.SameVerdicts

/-- The chains of two queries are equal exactly if they mean the same, and that is settled by three fields: both queries match all, or neither does and they have the same label and the same demand for the player's side. -/
theorem same_chains_iff_same_verdicts (q q' : Query) :
    (q.compile.SameChains q'.compile ↔ q.compile.SameVerdicts q'.compile) ∧
    (q.compile.SameVerdicts q'.compile ↔ q.SameDemands q') := by
  refine ⟨⟨?_, ?_⟩, ⟨?_, ?_⟩⟩
  · intro hchains
    exact hchains.sameVerdicts
  · intro hverdicts
    exact hverdicts.sameDemands.sameChains
  · intro hverdicts
    exact hverdicts.sameDemands
  · intro hdemands
    exact hdemands.sameChains.sameVerdicts

/-- Labels that agree in lower case are told apart by a site, since sites are matched as they are written. -/
example : ({ label := "Ad" } : Query).compile.siteVerdict { label := "Ad" } = .ok true ∧
    ({ label := "ad" } : Query).compile.siteVerdict { label := "Ad" } = .ok false := by
  decide +kernel

end ColonySearch
