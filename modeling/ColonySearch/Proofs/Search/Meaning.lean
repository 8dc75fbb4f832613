import Mathlib.Control.Monad.Basic
import ColonySearch.Proofs.Search.Accepted

/-!
# What a search means

The members of the results said without chains, loops or maps visited in order. A thing is found when the query wants its kind, a visited map lists it, fog does not hide it, and the query matches all or the thing meets each of its demands. The demands on pawns differ from those on other things, and a thing that counts as a pawn without being an actor can only be judged as long as nothing is asked of its labels and its side.
-/

namespace ColonySearch

/-! ### Vocabulary -/

/-- Fog hides the thing: the map that holds it is fogged where it lies. -/
def Colony.Hidden (c : Colony) (t : Thing) : Prop :=
  ∃ m, t.mapHeld = some m ∧ t.cell ∈ (c.map m).fogged

/-- The map is one that the query visits: any loaded one, or the one on show. -/
def Scope.Visits (s : Scope) (q : Query) (m : MapKey) : Prop :=
  if q.allMaps then m ∈ s.maps else s.current = some m

/-- Some visited map lists the thing. -/
def Scope.Reaches (s : Scope) (c : Colony) (q : Query) (k : ThingKey) : Prop :=
  ∃ m, s.Visits q m ∧ k ∈ (c.map m).spawned

/-- The text occurs in the label when both are in lower case. -/
def Text.OccursInLower (text label : String) : Prop :=
  (lower text).toList <:+: (lower label).toList

namespace Thing

/-- The labels that a pawn is found by: its own and those of its kind. -/
def labels (t : Thing) : List String :=
  t.label :: (t.actor.toList.flatMap fun a => [a.kindLabel, a.kindDefLabel])

def Enclosed (t : Thing) : Prop := ∃ a, t.actor = some a ∧ a.enclosed = true

/-- The thing is an actor of a faction of the player. -/
def OnPlayerSide (t : Thing) : Prop :=
  ∃ a, t.actor = some a ∧ ∃ f, a.faction = some f ∧ f.isPlayer = true

end Thing

namespace Query

def AdmitsPawn (q : Query) (t : Thing) : Prop :=
  q.matchAll = true ∨
    (q.label = "" ∨ ∃ label ∈ t.labels, Text.OccursInLower q.label label) ∧
      (q.colonyOnly = false ∨ t.OnPlayerSide) ∧ ¬ t.Enclosed

def AdmitsThing (q : Query) (t : Thing) : Prop :=
  q.matchAll = true ∨ q.label = "" ∨ Text.OccursInLower q.label t.label

/-- What the query demands of a site: its label contains that of the query as it is written. -/
def AdmitsSite (q : Query) (s : Site) : Prop :=
  q.matchAll = true ∨ q.label = "" ∨ q.label.toList <:+: s.label.toList

end Query

/-! ### The vocabulary and the code -/

theorem Colony.hides_eq_true_iff {c : Colony} {t : Thing} : c.hides t = true ↔ c.Hidden t := by
  rw [hides, Option.any_eq_true]
  simp only [isFogged, List.contains_iff_mem, Hidden]

theorem Colony.hides_eq_false_iff {c : Colony} {t : Thing} : c.hides t = false ↔ ¬ c.Hidden t := by
  rw [← hides_eq_true_iff, Bool.not_eq_true]

theorem Scope.mem_selected {s : Scope} {q : Query} {m : MapKey} : m ∈ s.selected q ↔ s.Visits q m := by
  unfold selected Visits
  split
  · rfl
  · simp

theorem Scope.Visits.mem_or_eq {s : Scope} {q : Query} {m : MapKey} (h : s.Visits q m) :
    m ∈ s.maps ∨ s.current = some m := by
  unfold Visits at h
  split at h
  · exact Or.inl h
  · exact Or.inr h

theorem Scope.mem_flatMap_selected {s : Scope} {c : Colony} {q : Query} {k : ThingKey}
    {p : Thing → Bool} :
    (k ∈ (s.selected q).flatMap fun m => (c.map m).spawned.filter fun k => p (c.thing k)) ↔
      s.Reaches c q k ∧ p (c.thing k) = true := by
  simp only [List.mem_flatMap, mem_selected, List.mem_filter, Reaches]
  constructor
  · rintro ⟨m, hvisit, hlist, hp⟩
    exact ⟨⟨m, hvisit, hlist⟩, hp⟩
  · rintro ⟨⟨m, hvisit, hlist⟩, hp⟩
    exact ⟨m, hvisit, hlist, hp⟩

theorem Scope.mem_selected_pawnsOn {s : Scope} {c : Colony} {q : Query} {k : ThingKey} :
    k ∈ (s.selected q).flatMap c.pawnsOn ↔ s.Reaches c q k ∧ (c.thing k).kind = .pawn := by
  rw [← beq_iff_eq]
  exact mem_flatMap_selected

theorem Scope.mem_selected_haulablesOn {s : Scope} {c : Colony} {q : Query} {k : ThingKey} :
    k ∈ (s.selected q).flatMap c.haulablesOn ↔
      s.Reaches c q k ∧ (c.thing k).haulable = true ∧ (c.thing k).kind ≠ .pawn := by
  rw [← bne_iff_ne, ← Bool.and_eq_true]
  exact mem_flatMap_selected

theorem ThingPredicate.labelMatches_iff {text label : String} :
    labelMatches text label = true ↔ Text.OccursInLower text label := by
  rw [labelMatches, Text.contains, Text.occursIn_iff, Text.OccursInLower]

theorem Thing.isPawn_iff {t : Thing} : t.isPawn = true ↔ t.kind = .pawn := by
  rw [isPawn, beq_iff_eq]

theorem Thing.isContained_iff {t : Thing} : t.isContained = true ↔ t.Enclosed := by
  rw [isContained, Option.any_eq_true, Enclosed]

theorem Actor.isColonist_iff {a : Actor} :
    a.isColonist = true ↔ ∃ f, a.faction = some f ∧ f.isPlayer = true := by
  rw [isColonist, Option.any_eq_true]

/-! ### What the chain says of one thing -/

theorem Query.exists_thingChain_eq_cons (q : Query) : ∃ rest, q.thingChain = .visible :: rest := by
  unfold thingChain
  split
  · exact ⟨[], rfl⟩
  · exact ⟨_, rfl⟩

theorem Query.forall_mem_thingChain {q : Query} {P : ThingPredicate → Prop} :
    (∀ p ∈ q.thingChain, P p) ↔ P .visible ∧ (q.matchAll = false →
      (q.label ≠ "" → P (.labelMatch q.label)) ∧ (q.colonyOnly = true → P .colonyOnly) ∧
        P .notContained) := by
  unfold thingChain
  cases q.matchAll <;> cases q.colonyOnly <;> by_cases hlabel : q.label = "" <;> simp [hlabel]

theorem Query.forall_mem_siteChain {q : Query} {s : Site} :
    (∀ p ∈ q.siteChain, p.holds s = true) ↔ q.AdmitsSite s := by
  unfold siteChain AdmitsSite
  cases q.matchAll <;> by_cases hlabel : q.label = "" <;>
    simp [hlabel, SitePredicate.holds, SitePredicate.holdsOfLabel, Text.contains, Text.occursIn_iff]

/-- What a visible pawn that is no actor makes of a query: the failure that comes first, if any does. -/
def Query.actorlessFailure (q : Query) : Option MissingTrait :=
  if q.matchAll then none
  else if q.label = "" then if q.colonyOnly then some ⟨.colonist⟩ else none
  else some ⟨.kindLabel⟩

namespace Colony

variable {c : Colony} {q : Query} {k : ThingKey}

theorem judge_visible_of_hidden {t : Thing} (hhidden : c.Hidden t) :
    ThingPredicate.judge c t .visible = .ok false := by
  rw [ThingPredicate.judge, hides_eq_true_iff.2 hhidden]
  rfl

theorem verdict_of_hidden (hhidden : c.Hidden (c.thing k)) : c.verdict q.thingChain k = .ok false := by
  obtain ⟨rest, hchain⟩ := q.exists_thingChain_eq_cons
  have hanswer := judge_visible_of_hidden hhidden
  rw [verdict, hchain, Chain.run_cons_of_stops (by simp [hanswer]), hanswer]

/-- Nothing else is asked of a thing that fog hides. -/
theorem calls_of_hidden {t : Thing} (hhidden : c.Hidden t) :
    Chain.calls (ThingPredicate.judge c t) q.thingChain = [(.visible, .ok false)] := by
  obtain ⟨rest, hchain⟩ := q.exists_thingChain_eq_cons
  have hanswer := judge_visible_of_hidden hhidden
  rw [hchain, Chain.calls_cons_of_stops (by simp [hanswer]), hanswer]

theorem judge_visible_iff {t : Thing} :
    ThingPredicate.judge c t .visible = .ok true ↔ ¬ c.Hidden t := by
  rw [ThingPredicate.judge, Except.ok.injEq, Bool.not_eq_true', hides_eq_false_iff]

/-- The chain accepts a thing that is no pawn exactly if the thing is in sight and the query admits it. -/
theorem verdict_thing_iff (hkind : (c.thing k).kind ≠ .pawn) :
    c.verdict q.thingChain k = .ok true ↔ ¬ c.Hidden (c.thing k) ∧ q.AdmitsThing (c.thing k) := by
  have hpawn : (c.thing k).isPawn = false := by
    rw [← Bool.not_eq_true, Thing.isPawn_iff]
    exact hkind
  rw [verdict, Chain.run_eq_true_iff, Query.forall_mem_thingChain, judge_visible_iff]
  simp only [ThingPredicate.judge, hpawn, Bool.false_eq_true, if_false, Bool.false_and, Bool.not_false,
    Except.ok.injEq, ThingPredicate.labelMatches_iff, Query.AdmitsThing, implies_true, and_true]
  refine and_congr_right fun _ => ?_
  cases q.matchAll <;> by_cases hlabel : q.label = "" <;> simp [hlabel]

/-- The chain accepts an actor that counts as a pawn exactly if it is in sight and the query admits it. -/
theorem verdict_actor_iff (hkind : (c.thing k).kind = .pawn) {a : Actor}
    (hactor : (c.thing k).actor = some a) :
    c.verdict q.thingChain k = .ok true ↔ ¬ c.Hidden (c.thing k) ∧ q.AdmitsPawn (c.thing k) := by
  rw [verdict, Chain.run_eq_true_iff, Query.forall_mem_thingChain, judge_visible_iff]
  have hlabels : (∃ label ∈ (c.thing k).labels, Text.OccursInLower q.label label) ↔
      ThingPredicate.judge c (c.thing k) (.labelMatch q.label) = .ok true := by
    simp only [ThingPredicate.judge, Thing.isPawn_iff.2 hkind, if_true, Thing.actorFor, hactor,
      Except.map, Except.ok.injEq, Bool.or_eq_true, ThingPredicate.labelMatches_iff, Thing.labels]
    simp only [Option.toList_some, List.flatMap_cons, List.flatMap_nil, List.append_nil,
      List.mem_cons, List.not_mem_nil, or_false, exists_eq_or_imp, exists_eq_left]
    exact or_comm
  have hside : (c.thing k).OnPlayerSide ↔
      ThingPredicate.judge c (c.thing k) .colonyOnly = .ok true := by
    simp only [ThingPredicate.judge, Thing.isPawn_iff.2 hkind, if_true, Thing.actorFor, hactor,
      Except.map, Except.ok.injEq, Actor.isColonist_iff, Thing.OnPlayerSide, Option.some.injEq,
      exists_eq_left']
  have hfree : ¬ (c.thing k).Enclosed ↔
      ThingPredicate.judge c (c.thing k) .notContained = .ok true := by
    rw [ThingPredicate.judge, Thing.isPawn_iff.2 hkind, Bool.true_and, Except.ok.injEq,
      Bool.not_eq_true', ← Bool.not_eq_true, Thing.isContained_iff]
  rw [Query.AdmitsPawn, hlabels, hside, hfree]
  refine and_congr_right fun _ => ?_
  cases q.matchAll <;> cases q.colonyOnly <;> by_cases hlabel : q.label = "" <;> simp [hlabel]

/-- A visible pawn that is no actor passes as long as nothing is asked of its labels and its side. -/
theorem verdict_actorless (hkind : (c.thing k).kind = .pawn) (hactor : (c.thing k).actor = none)
    (hvisible : ¬ c.Hidden (c.thing k)) : c.verdict q.thingChain k =
      match q.actorlessFailure with
      | some e => .error e
      | none => .ok true := by
  have hseen := hides_eq_false_iff.2 hvisible
  have hpawn := Thing.isPawn_iff.2 hkind
  unfold verdict Query.thingChain Query.actorlessFailure
  cases q.matchAll <;> cases q.colonyOnly <;> by_cases hlabel : q.label = "" <;>
    simp [hlabel, Chain.run, ThingPredicate.judge, hseen, hpawn, hactor, Thing.actorFor, Except.map,
      Thing.isContained]

/-- The chain that returns for a pawn accepts it exactly if it is in sight and the query admits it. -/
theorem verdict_pawn_iff (hkind : (c.thing k).kind = .pawn)
    (hreturns : ∃ holds, c.verdict q.thingChain k = .ok holds) :
    c.verdict q.thingChain k = .ok true ↔ ¬ c.Hidden (c.thing k) ∧ q.AdmitsPawn (c.thing k) := by
  cases hactor : (c.thing k).actor with
  | some a => exact verdict_actor_iff hkind hactor
  | none =>
    by_cases hhidden : c.Hidden (c.thing k)
    · simp [verdict_of_hidden hhidden, hhidden]
    · have hverdict := verdict_actorless (q := q) hkind hactor hhidden
      cases hfail : q.actorlessFailure with
      | some e =>
        obtain ⟨holds, hreturns⟩ := hreturns
        rw [hverdict, hfail] at hreturns
        cases hreturns
      | none =>
        rw [hfail] at hverdict
        refine ⟨fun _ => ⟨hhidden, ?_⟩, fun _ => hverdict⟩
        have hfree : ¬ (c.thing k).Enclosed := by simp [Thing.Enclosed, hactor]
        unfold Query.actorlessFailure at hfail
        unfold Query.AdmitsPawn
        cases hall : q.matchAll with
        | true => exact Or.inl rfl
        | false =>
          by_cases hlabel : q.label = ""
          · cases hside : q.colonyOnly with
            | true => simp [hall, hlabel, hside] at hfail
            | false => exact Or.inr ⟨Or.inl hlabel, Or.inl rfl, hfree⟩
          · simp [hall, hlabel] at hfail

end Colony

/-! ### The members of the results -/

section Members

variable {q : Query} {c : Colony} {s : Scope} {r : Results}

theorem mem_pawns_iff (h : q.compile.evaluate c s = .ok r) {k : ThingKey} :
    k ∈ r.pawns ↔ q.pawns = true ∧ s.Reaches c q k ∧ (c.thing k).kind = .pawn ∧
      ¬ c.Hidden (c.thing k) ∧ q.AdmitsPawn (c.thing k) := by
  obtain ⟨pawns, things, hp, _, rfl⟩ := Compiled.evaluate_eq_ok_iff.1 h
  rw [List.mem_eraseDups]
  unfold Compiled.foundPawns at hp
  cases hwant : q.pawns with
  | false =>
    rw [Query.compile, hwant] at hp
    cases hp
    simp
  | true =>
    rw [Query.compile, hwant] at hp
    rw [Colony.mem_of_accepted hp, Scope.mem_selected_pawnsOn]
    simp only [true_and]
    constructor
    · rintro ⟨⟨hreach, hkind⟩, hverdict⟩
      exact ⟨hreach, hkind, (Colony.verdict_pawn_iff hkind ⟨true, hverdict⟩).1 hverdict⟩
    · rintro ⟨hreach, hkind, hadmit⟩
      refine ⟨⟨hreach, hkind⟩, (Colony.verdict_pawn_iff hkind ?_).2 hadmit⟩
      exact (Colony.accepted_eq_ok_iff.1 hp).1 k (Scope.mem_selected_pawnsOn.2 ⟨hreach, hkind⟩)

theorem mem_things_iff (h : q.compile.evaluate c s = .ok r) {k : ThingKey} :
    k ∈ r.things ↔ q.items = true ∧ s.Reaches c q k ∧ (c.thing k).haulable = true ∧
      (c.thing k).kind ≠ .pawn ∧ ¬ c.Hidden (c.thing k) ∧ q.AdmitsThing (c.thing k) := by
  obtain ⟨pawns, things, _, ht, rfl⟩ := Compiled.evaluate_eq_ok_iff.1 h
  rw [List.mem_eraseDups]
  unfold Compiled.foundThings at ht
  cases hwant : q.items with
  | false =>
    rw [Query.compile, hwant] at ht
    cases ht
    simp
  | true =>
    rw [Query.compile, hwant] at ht
    rw [Colony.mem_of_accepted ht, Scope.mem_selected_haulablesOn]
    simp only [true_and]
    constructor
    · rintro ⟨⟨hreach, hhaul, hkind⟩, hverdict⟩
      exact ⟨hreach, hhaul, hkind, (Colony.verdict_thing_iff hkind).1 hverdict⟩
    · rintro ⟨hreach, hhaul, hkind, hadmit⟩
      exact ⟨⟨hreach, hhaul, hkind⟩, (Colony.verdict_thing_iff hkind).2 hadmit⟩

theorem mem_sites_iff (h : q.compile.evaluate c s = .ok r) {k : SiteKey} :
    k ∈ r.sites ↔ q.worldMap = true ∧ k ∈ s.sites ∧ q.AdmitsSite (c.site k) := by
  obtain ⟨pawns, things, _, _, rfl⟩ := Compiled.evaluate_eq_ok_iff.1 h
  rw [List.mem_eraseDups]
  unfold Compiled.foundSites
  cases hwant : q.worldMap with
  | false => simp [Query.compile, hwant]
  | true =>
    simp only [Query.compile, hwant, if_true, Colony.acceptedSites, List.mem_filter, List.all_eq_true,
      Query.forall_mem_siteChain, true_and]

end Members

/-- The results of a search that returns hold exactly what the query describes: pawns in sight on a visited map that are free, match a label and are on the player's side as far as the query asks for it, haulable things in sight on a visited map whose label matches, and sites of the world whose label matches as it is written. -/
theorem mem_results_iff {q : Query} {c : Colony} {s : Scope} {r : Results}
    (h : q.compile.evaluate c s = .ok r) :
    (∀ k, k ∈ r.pawns ↔ q.pawns = true ∧ s.Reaches c q k ∧ (c.thing k).kind = .pawn ∧
      ¬ c.Hidden (c.thing k) ∧ q.AdmitsPawn (c.thing k)) ∧
    (∀ k, k ∈ r.things ↔ q.items = true ∧ s.Reaches c q k ∧ (c.thing k).haulable = true ∧
      (c.thing k).kind ≠ .pawn ∧ ¬ c.Hidden (c.thing k) ∧ q.AdmitsThing (c.thing k)) ∧
    (∀ k, k ∈ r.sites ↔ q.worldMap = true ∧ k ∈ s.sites ∧ q.AdmitsSite (c.site k)) :=
  ⟨fun _ => mem_pawns_iff h, fun _ => mem_things_iff h, fun _ => mem_sites_iff h⟩

/-! ### A small colony -/

namespace Sample

/-- A colonist, a raider in the fog, an actor that no longer counts as a pawn, and a crate. -/
def things : List Thing :=
  [{ label := "Vet", kind := .pawn, mapHeld := some ⟨0⟩
     actor := some { kindLabel := "ad", faction := some { name := "a", isPlayer := true } } },
   { label := "Ad", kind := .pawn, cell := ⟨1, 1⟩, mapHeld := some ⟨0⟩, actor := some {} },
   { label := "Ad", kind := .corpse, haulable := true, mapHeld := some ⟨0⟩, actor := some {} },
   { label := "Box", haulable := true, mapHeld := some ⟨0⟩ }]

/-- The things stand on one map, which is fogged at one cell; the colonist is listed twice. -/
def colony : Colony where
  thing := fun k => things.getD k.index {}
  map := fun _ => { fogged := [⟨1, 1⟩], spawned := [⟨0⟩, ⟨1⟩, ⟨2⟩, ⟨3⟩, ⟨0⟩] }
  site := fun _ => { label := "AD" }

/-- The map is on show and not loaded. -/
def scope : Scope := { current := some ⟨0⟩, sites := [⟨0⟩] }

/-- Colonists, things to haul and sites with a label. -/
def query : Query :=
  { label := "AD", pawns := true, colonyOnly := true, items := true, worldMap := true }

end Sample

theorem mem_results_iff_sample :
    Sample.query.compile.evaluate Sample.colony Sample.scope = .ok ⟨[⟨2⟩], [⟨0⟩], [⟨0⟩]⟩ ∧
      Sample.query.AdmitsPawn (Sample.colony.thing ⟨0⟩) ∧
      Sample.query.AdmitsThing (Sample.colony.thing ⟨2⟩) ∧
      Sample.query.AdmitsSite (Sample.colony.site ⟨0⟩) := by
  have h : Sample.query.compile.evaluate Sample.colony Sample.scope = .ok ⟨[⟨2⟩], [⟨0⟩], [⟨0⟩]⟩ := by
    decide +kernel
  obtain ⟨hpawns, hthings, hsites⟩ := mem_results_iff h
  obtain ⟨_, _, _, _, hpawn⟩ := (hpawns ⟨0⟩).1 (by decide)
  obtain ⟨_, _, _, _, _, hthing⟩ := (hthings ⟨2⟩).1 (by decide)
  obtain ⟨_, _, hsite⟩ := (hsites ⟨0⟩).1 (by decide)
  exact ⟨h, hpawn, hthing, hsite⟩

end ColonySearch
