import ColonySearch.Proofs.Search.Meaning

/-!
# Where spawned things are found

A thing is known to be somewhere in two ways, by the map that holds it and by the maps that list it, and spawning keeps only the first up to date. So along any run of spawns and changes the maps that list a thing are all those where it was ever spawned, and the one that holds it is the last of them. A search of the map on show goes by the lists: it finds nothing that was never spawned there, and it also finds what has been spawned elsewhere since.
-/

namespace ColonySearch

/-- What can happen to a colony between searches. -/
inductive Act where
  | spawn (m : MapKey) (k : ThingKey)
  | spawnAll (m : MapKey) (keys : List ThingKey)
  | change (k : ThingKey) (change : Change)
  | addFog (m : MapKey) (cells : List Cell)
  | removeFog (m : MapKey) (cells : List Cell)
deriving DecidableEq, Repr

namespace Act

/-- The maps on which the act spawns the thing, in order. -/
def placements (k : ThingKey) : Act → List MapKey
  | .spawn m key => if key = k then [m] else []
  | .spawnAll m keys => List.replicate (keys.count k) m
  | .change _ _ | .addFog _ _ | .removeFog _ _ => []

/-- The act does not take the thing off its map. -/
def Leaves (k : ThingKey) (a : Act) : Prop := a ≠ .change k .detach

end Act

/-- The maps on which the thing is spawned along a run, in order. -/
def placements (k : ThingKey) (acts : List Act) : List MapKey := acts.flatMap (Act.placements k)

theorem Thing.mapHeld_of_change {t t' : Thing} {change : Change} (hchange : change ≠ .detach)
    (h : t.change change = .ok t') : t'.mapHeld = t.mapHeld := by
  cases change with
  | detach => exact absurd rfl hchange
  | faction faction =>
    obtain ⟨actor, _, rfl⟩ := Outcome.map_eq_ok_iff.1 h
    rfl
  | enclosed value =>
    obtain ⟨actor, _, rfl⟩ := Outcome.map_eq_ok_iff.1 h
    rfl
  | label _ | kind _ | cell _ | haulable _ =>
    cases h
    rfl

namespace Colony

/-- The colony after the act. A change that is refused leaves it as it was. -/
def step (c : Colony) : Act → Colony
  | .spawn m k => c.spawn m k
  | .spawnAll m keys => c.spawnAll m keys
  | .change k change =>
    match c.change k change with
    | .ok c' => c'
    | .error _ => c
  | .addFog m cells => c.addFog m cells
  | .removeFog m cells => c.removeFog m cells

def after (c : Colony) (acts : List Act) : Colony := acts.foldl step c

variable {c : Colony} {m n : MapKey} {k key : ThingKey}

/-! ### One spawn -/

theorem mem_spawned_spawn : k ∈ ((c.spawn m key).map n).spawned ↔
    k ∈ (c.map n).spawned ∨ n = m ∧ k = key := by
  by_cases hmap : n = m
  · subst hmap
    rw [spawned_spawn, List.mem_append, List.mem_singleton]
    simp
  · rw [map_spawn_of_ne hmap]
    simp [hmap]

theorem mapHeld_spawn_eq : ((c.spawn m key).thing k).mapHeld =
    if k = key then some m else (c.thing k).mapHeld := by
  by_cases hkey : k = key
  · subst hkey
    rw [mapHeld_spawn, if_pos rfl]
  · rw [thing_spawn_of_ne hkey, if_neg hkey]

theorem mem_spawned_spawnAll {keys : List ThingKey} : k ∈ ((c.spawnAll m keys).map n).spawned ↔
    k ∈ (c.map n).spawned ∨ n = m ∧ k ∈ keys := by
  induction keys generalizing c with
  | nil => simp [spawnAll]
  | cons key rest ih =>
    have hstep : c.spawnAll m (key :: rest) = (c.spawn m key).spawnAll m rest := rfl
    rw [hstep, ih, mem_spawned_spawn, List.mem_cons]
    grind

theorem mapHeld_spawnAll {keys : List ThingKey} : ((c.spawnAll m keys).thing k).mapHeld =
    if k ∈ keys then some m else (c.thing k).mapHeld := by
  induction keys generalizing c with
  | nil => simp [spawnAll]
  | cons key rest ih =>
    have hstep : c.spawnAll m (key :: rest) = (c.spawn m key).spawnAll m rest := rfl
    rw [hstep, ih, mapHeld_spawn_eq]
    grind

/-! ### One act -/

theorem step_change (c : Colony) (key : ThingKey) (change : Change) :
    c.step (.change key change) = c ∨
      ∃ t, (c.thing key).change change = .ok t ∧ c.step (.change key change) = c.setThing key t := by
  rw [step, Colony.change]
  cases h : (c.thing key).change change with
  | error e => exact Or.inl rfl
  | ok t => exact Or.inr ⟨t, rfl, rfl⟩

theorem spawned_setMap {new : LocalMap} (h : new.spawned = (c.map m).spawned) :
    ((c.setMap m new).map n).spawned = (c.map n).spawned := by
  by_cases hmap : n = m
  · subst hmap
    rw [map_setMap, h]
  · rw [map_setMap_of_ne hmap]

theorem mem_spawned_step {a : Act} : k ∈ ((c.step a).map n).spawned ↔
    k ∈ (c.map n).spawned ∨ n ∈ a.placements k := by
  cases a with
  | spawn m key =>
    rw [step, mem_spawned_spawn, Act.placements]
    grind
  | spawnAll m keys =>
    rw [step, mem_spawned_spawnAll, Act.placements, List.mem_replicate, ne_eq, List.count_eq_zero,
      not_not, and_comm]
  | change key change =>
    have hmaps : (c.step (.change key change)).map = c.map := by
      rcases step_change c key change with h | ⟨t, _, h⟩
      · rw [h]
      · rw [h, map_setThing]
    rw [hmaps, Act.placements]
    simp
  | addFog m cells =>
    have hlists : ((c.step (.addFog m cells)).map n).spawned = (c.map n).spawned := spawned_setMap rfl
    rw [hlists, Act.placements]
    simp
  | removeFog m cells =>
    have hlists : ((c.step (.removeFog m cells)).map n).spawned = (c.map n).spawned :=
      spawned_setMap rfl
    rw [hlists, Act.placements]
    simp

theorem mapHeld_step {a : Act} (h : a.Leaves k) : ((c.step a).thing k).mapHeld =
    (a.placements k).getLast?.or (c.thing k).mapHeld := by
  cases a with
  | spawn m key =>
    rw [step, mapHeld_spawn_eq, Act.placements]
    by_cases hkey : k = key
    · rw [if_pos hkey, if_pos hkey.symm]
      rfl
    · rw [if_neg hkey, if_neg (Ne.symm hkey)]
      rfl
  | spawnAll m keys =>
    rw [step, mapHeld_spawnAll, Act.placements, List.getLast?_replicate]
    by_cases hmem : k ∈ keys
    · rw [if_pos hmem, if_neg (Nat.ne_of_gt (List.count_pos_iff.2 hmem))]
      rfl
    · rw [if_neg hmem, if_pos (List.count_eq_zero.2 hmem)]
      rfl
  | change key change =>
    rcases step_change c key change with hstep | ⟨t, ht, hstep⟩
    · rw [hstep]
      rfl
    · rw [hstep]
      by_cases hkey : k = key
      · subst hkey
        have hchange : change ≠ .detach := by
          intro hdetach
          exact h (by rw [hdetach])
        rw [thing_setThing, Thing.mapHeld_of_change hchange ht]
        rfl
      · rw [thing_setThing_of_ne hkey]
        rfl
  | addFog m cells => rfl
  | removeFog m cells => rfl

/-! ### A run -/

theorem mem_spawned_after {acts : List Act} : k ∈ ((c.after acts).map n).spawned ↔
    k ∈ (c.map n).spawned ∨ n ∈ placements k acts := by
  induction acts generalizing c with
  | nil => simp [after, placements]
  | cons a rest ih =>
    have hstep : c.after (a :: rest) = (c.step a).after rest := rfl
    rw [hstep, ih, mem_spawned_step, placements, placements, List.flatMap_cons, List.mem_append,
      or_assoc]

theorem mapHeld_after {acts : List Act} (h : ∀ a ∈ acts, a.Leaves k) :
    ((c.after acts).thing k).mapHeld = (placements k acts).getLast?.or (c.thing k).mapHeld := by
  induction acts generalizing c with
  | nil => rfl
  | cons a rest ih =>
    have hstep : c.after (a :: rest) = (c.step a).after rest := rfl
    rw [hstep, ih fun b hb => h b (List.mem_cons_of_mem a hb), mapHeld_step (h a List.mem_cons_self),
      placements, placements, List.flatMap_cons, List.getLast?_append, Option.or_assoc]

/-- A thing that was spawned once and never taken off its map is held by the map that lists it. -/
theorem mapHeld_eq_of_mem_spawned {acts : List Act} (hempty : ∀ m, (c.map m).spawned = [])
    (hleaves : ∀ a ∈ acts, a.Leaves k) (honce : (placements k acts).length ≤ 1)
    (hlist : k ∈ ((c.after acts).map m).spawned) : ((c.after acts).thing k).mapHeld = some m := by
  rw [mem_spawned_after, hempty] at hlist
  have hplaced : m ∈ placements k acts := hlist.resolve_left List.not_mem_nil
  have hlength := List.length_pos_of_mem hplaced
  obtain ⟨n, hn⟩ := List.length_eq_one_iff.1 (Nat.le_antisymm honce hlength)
  rw [hn, List.mem_singleton] at hplaced
  rw [mapHeld_after hleaves, hn, hplaced]
  rfl

end Colony

/-! ### Searches of the map on show -/

variable {c : Colony} {acts : List Act} {q : Query} {s : Scope} {r : Results} {k : ThingKey}

theorem Scope.Visits.current_eq {m : MapKey} (h : s.Visits q m) (hlocal : q.allMaps = false) :
    s.current = some m := by
  rw [Visits, hlocal, if_neg Bool.false_ne_true] at h
  exact h

theorem reaches_of_found (hr : q.compile.evaluate c s = .ok r) (hk : k ∈ r.pawns ∨ k ∈ r.things) :
    s.Reaches c q k := by
  rcases hk with hk | hk
  · exact ((mem_pawns_iff hr).1 hk).2.1
  · exact ((mem_things_iff hr).1 hk).2.1

/-- What a search of the map on show finds was spawned on this map, and is held by the map where it was spawned last. So it is held by the map on show unless it has been spawned elsewhere since. -/
theorem found_where_spawned (hempty : ∀ m, (c.map m).spawned = []) (hleaves : ∀ a ∈ acts, a.Leaves k)
    (hlocal : q.allMaps = false) (hr : q.compile.evaluate (c.after acts) s = .ok r)
    (hk : k ∈ r.pawns ∨ k ∈ r.things) :
    ∃ m, s.current = some m ∧ m ∈ placements k acts ∧
      ((c.after acts).thing k).mapHeld = (placements k acts).getLast? ∧
      ((∀ n ∈ placements k acts, n = m) → ((c.after acts).thing k).mapHeld = s.current) := by
  obtain ⟨m, hvisits, hlisted⟩ := reaches_of_found hr hk
  have hcurrent := hvisits.current_eq hlocal
  have hplaced : m ∈ placements k acts := by
    rw [Colony.mem_spawned_after, hempty] at hlisted
    exact hlisted.resolve_left List.not_mem_nil
  obtain ⟨last, hlast⟩ := Option.ne_none_iff_exists'.1
    (mt List.getLast?_eq_none_iff.1 (List.ne_nil_of_mem hplaced))
  have hheld : ((c.after acts).thing k).mapHeld = (placements k acts).getLast? := by
    rw [Colony.mapHeld_after hleaves, hlast]
    rfl
  refine ⟨m, hcurrent, hplaced, hheld, ?_⟩
  intro honly
  rw [hheld, hlast, hcurrent, honly last (List.mem_of_getLast? hlast)]

namespace Sample

/-- A crate that no map lists yet. -/
def freshColony : Colony where
  thing := fun _ => { label := "Crate", haulable := true }

/-- The crate is spawned on one map and then, moved and renamed, on another. -/
def moves : List Act :=
  [.spawn ⟨0⟩ ⟨0⟩, .change ⟨0⟩ (.cell ⟨3, 4⟩), .addFog ⟨1⟩ [⟨5, 5⟩], .change ⟨0⟩ (.label "Box"),
    .spawnAll ⟨1⟩ [⟨0⟩]]

end Sample

theorem found_where_spawned_sample :
    (search {} ".cr" (Sample.freshColony.after (Sample.moves.take 3)) { current := some ⟨0⟩ } =
        .ok ⟨[⟨0⟩], [], []⟩ ∧
      ((Sample.freshColony.after (Sample.moves.take 3)).thing ⟨0⟩).mapHeld = some ⟨0⟩) ∧
    (search {} ".bo" (Sample.freshColony.after Sample.moves) { current := some ⟨0⟩ } =
        .ok ⟨[⟨0⟩], [], []⟩ ∧
      ((Sample.freshColony.after Sample.moves).thing ⟨0⟩).mapHeld = some ⟨1⟩) := by
  have hleaves : ∀ a ∈ Sample.moves, a.Leaves ⟨0⟩ := by
    unfold Act.Leaves
    decide
  have hbefore : search {} ".cr" (Sample.freshColony.after (Sample.moves.take 3))
      { current := some ⟨0⟩ } = .ok ⟨[⟨0⟩], [], []⟩ := by
    decide +kernel
  have hafter : search {} ".bo" (Sample.freshColony.after Sample.moves) { current := some ⟨0⟩ } =
      .ok ⟨[⟨0⟩], [], []⟩ := by
    decide +kernel
  obtain ⟨m, hm, _, _, honly⟩ := found_where_spawned (fun _ => rfl)
    (fun a ha => hleaves a (List.mem_of_mem_take ha)) rfl hbefore (Or.inr List.mem_cons_self)
  obtain ⟨_, _, _, hheld, _⟩ :=
    found_where_spawned (fun _ => rfl) hleaves rfl hafter (Or.inr List.mem_cons_self)
  cases hm
  exact ⟨⟨hbefore, honly (by decide)⟩, hafter, hheld⟩

/-- A thing that has been spawned elsewhere since is still found on its old map. -/
theorem found_on_former_map :
    ¬ ∀ (c : Colony) (acts : List Act) (q : Query) (s : Scope) (r : Results) (k : ThingKey),
      (∀ m, (c.map m).spawned = []) → (∀ a ∈ acts, ∀ k, a.Leaves k) → q.allMaps = false →
      q.compile.evaluate (c.after acts) s = .ok r → k ∈ r.pawns ∨ k ∈ r.things →
      ((c.after acts).thing k).mapHeld = s.current := by
  intro h
  have hr : search {} "." (Sample.freshColony.after [.spawn ⟨0⟩ ⟨0⟩, .spawn ⟨1⟩ ⟨0⟩])
      { maps := [⟨0⟩, ⟨1⟩], current := some ⟨0⟩ } = .ok ⟨[⟨0⟩], [], []⟩ := by
    decide +kernel
  have hleaves : ∀ a ∈ [Act.spawn ⟨0⟩ ⟨0⟩, .spawn ⟨1⟩ ⟨0⟩], ∀ k, a.Leaves k := by
    intro a ha k hdetach
    subst hdetach
    simp at ha
  have hheld := h _ _ _ _ _ ⟨0⟩ (fun _ => rfl) hleaves rfl hr (Or.inr (by decide))
  revert hheld
  decide

end ColonySearch
