import ColonySearch.Proofs.Query.Grammar
import ColonySearch.Proofs.Search.Failure

/-!
# What one flag more does to a search

A flag character in front of a term switches its flag on and leaves the rest of the query as it is. What this does to a search is read off from what the query describes, apart for pawns, things and sites: each of them goes by a few flags and by no others, and a flag that it does not go by leaves it as it is. The flags that it does go by ask for less, so that nothing is lost that was found before, with one exception: the flag for the player's side asks more of a pawn. The flag for all maps loses nothing either as long as the map on show is one of those that are loaded.

A search can come to fail only by a flag that sends it to more pawns or asks more of them, so the other three flags keep a search that returns from failing.
-/

namespace ColonySearch

/-- The map on show, if there is one, is loaded. -/
def Scope.ShowsLoaded (s : Scope) : Prop := ∀ m, s.current = some m → m ∈ s.maps

namespace Flag

/-- The flags that the search for pawns goes by. -/
def forPawns : List Flag := [.allMaps, .colonyOnly, .matchAll, .pawns]

/-- The flags that the search for things to haul goes by. -/
def forThings : List Flag := [.allMaps, .items, .matchAll]

/-- The flags that the search for sites goes by. -/
def forSites : List Flag := [.matchAll, .worldMap]

/-- The flags that can make a search fail. -/
def risky : List Flag := [.allMaps, .colonyOnly, .pawns]

end Flag

variable {q : Query} {f : Flag} {c : Colony} {s : Scope} {r r' : Results} {m : MapKey} {k : ThingKey}

/-! ### What the query describes -/

theorem Scope.Visits.turnOn (hloaded : f = .allMaps → s.ShowsLoaded) (h : s.Visits q m) :
    s.Visits (q.turnOn f) m := by
  cases f with
  | allMaps => exact h.mem_or_eq.elim id (hloaded rfl m)
  | _ => exact h

theorem Scope.Reaches.turnOn (hloaded : f = .allMaps → s.ShowsLoaded) (h : s.Reaches c q k) :
    s.Reaches c (q.turnOn f) k := by
  obtain ⟨m, hvisit, hlist⟩ := h
  exact ⟨m, hvisit.turnOn hloaded, hlist⟩

namespace Query

theorem has_turnOn (g : Flag) (h : q.has g = true) : (q.turnOn f).has g = true :=
  has_turnOn_iff.2 (Or.inr h)

theorem AdmitsThing.turnOn {t : Thing} (h : q.AdmitsThing t) : (q.turnOn f).AdmitsThing t := by
  cases f with
  | matchAll => exact Or.inl rfl
  | _ => exact h

theorem AdmitsSite.turnOn {t : Site} (h : q.AdmitsSite t) : (q.turnOn f).AdmitsSite t := by
  cases f with
  | matchAll => exact Or.inl rfl
  | _ => exact h

theorem AdmitsPawn.turnOn {t : Thing} (hf : f ≠ .colonyOnly) (h : q.AdmitsPawn t) :
    (q.turnOn f).AdmitsPawn t := by
  cases f with
  | matchAll => exact Or.inl rfl
  | colonyOnly => exact absurd rfl hf
  | _ => exact h

theorem AdmitsPawn.of_turnOn_colonyOnly {t : Thing} (h : (q.turnOn .colonyOnly).AdmitsPawn t) :
    q.AdmitsPawn t := by
  rcases h with hall | ⟨hlabel, hside, hfree⟩
  · exact Or.inl hall
  · have honside : t.OnPlayerSide := hside.resolve_left (Bool.noConfusion ·)
    exact Or.inr ⟨hlabel, Or.inr honside, hfree⟩

end Query

/-! ### Whether it returns -/

theorem exists_evaluate_turnOn_eq_ok (hf : f ∉ Flag.risky) (hr : q.compile.evaluate c s = .ok r) :
    ∃ r', (q.turnOn f).compile.evaluate c s = .ok r' := by
  apply Outcome.exists_eq_ok
  intro e h
  obtain ⟨hwant, hstray, hfail⟩ := Compiled.evaluate_eq_error_iff.1 h
  have hbefore : q.compile.evaluate c s = .error e := by
    apply Compiled.evaluate_eq_error_iff.2
    cases f with
    | items | worldMap => exact ⟨hwant, hstray, hfail⟩
    | matchAll => cases hfail
    | _ => exact absurd (by decide) hf
  rw [hbefore] at hr
  cases hr

/-! ### Pawns, things and sites -/

section Parts

variable (hr : q.compile.evaluate c s = .ok r) (hr' : (q.turnOn f).compile.evaluate c s = .ok r')

include hr hr'

theorem pawns_perm_turnOn (hf : f ∉ Flag.forPawns) : r'.pawns.Perm r.pawns := by
  apply Compiled.pawns_perm_of_mem_iff hr' hr
  intro k
  rw [mem_pawns_iff hr', mem_pawns_iff hr]
  cases f with
  | items | worldMap => exact Iff.rfl
  | _ => exact absurd (by decide) hf

theorem things_perm_turnOn (hf : f ∉ Flag.forThings) : r'.things.Perm r.things := by
  apply Compiled.things_perm_of_mem_iff hr' hr
  intro k
  rw [mem_things_iff hr', mem_things_iff hr]
  cases f with
  | colonyOnly | pawns | worldMap => exact Iff.rfl
  | _ => exact absurd (by decide) hf

theorem sites_perm_turnOn (hf : f ∉ Flag.forSites) : r'.sites.Perm r.sites := by
  apply Compiled.sites_perm_of_mem_iff hr' hr
  intro k
  rw [mem_sites_iff hr', mem_sites_iff hr]
  cases f with
  | allMaps | colonyOnly | items | pawns => exact Iff.rfl
  | _ => exact absurd (by decide) hf

theorem pawns_subset_turnOn (hf : f ≠ .colonyOnly) (hloaded : f = .allMaps → s.ShowsLoaded) :
    r.pawns ⊆ r'.pawns := by
  intro k hk
  obtain ⟨hwant, hreach, hkind, hseen, hadmits⟩ := (mem_pawns_iff hr).1 hk
  exact (mem_pawns_iff hr').2
    ⟨Query.has_turnOn .pawns hwant, hreach.turnOn hloaded, hkind, hseen, hadmits.turnOn hf⟩

theorem things_subset_turnOn (hloaded : f = .allMaps → s.ShowsLoaded) : r.things ⊆ r'.things := by
  intro k hk
  obtain ⟨hwant, hreach, hhaul, hkind, hseen, hadmits⟩ := (mem_things_iff hr).1 hk
  exact (mem_things_iff hr').2
    ⟨Query.has_turnOn .items hwant, hreach.turnOn hloaded, hhaul, hkind, hseen, hadmits.turnOn⟩

theorem sites_subset_turnOn : r.sites ⊆ r'.sites := by
  intro k hk
  obtain ⟨hwant, hlisted, hadmits⟩ := (mem_sites_iff hr).1 hk
  exact (mem_sites_iff hr').2 ⟨Query.has_turnOn .worldMap hwant, hlisted, hadmits.turnOn⟩

end Parts

section PlayerSide

variable (hr : q.compile.evaluate c s = .ok r)
  (hr' : (q.turnOn .colonyOnly).compile.evaluate c s = .ok r')

include hr hr'

theorem pawns_subset_of_turnOn_colonyOnly : r'.pawns ⊆ r.pawns := by
  intro k hk
  obtain ⟨hwant, hreach, hkind, hseen, hadmits⟩ := (mem_pawns_iff hr').1 hk
  exact (mem_pawns_iff hr).2 ⟨hwant, hreach, hkind, hseen, hadmits.of_turnOn_colonyOnly⟩

/-- A query that matches all does not ask for the player's side. -/
theorem pawns_perm_turnOn_colonyOnly (hall : q.matchAll = true) : r'.pawns.Perm r.pawns := by
  apply Compiled.pawns_perm_of_mem_iff hr' hr
  intro k
  constructor
  · intro hk
    exact pawns_subset_of_turnOn_colonyOnly hr hr' hk
  · intro hk
    obtain ⟨hwant, hreach, hkind, hseen, _⟩ := (mem_pawns_iff hr).1 hk
    exact (mem_pawns_iff hr').2 ⟨hwant, hreach, hkind, hseen, Or.inl hall⟩

end PlayerSide

/-! ### Flags in front of a term -/

variable {a : Alphabet} {raw : String}

/-- A flag character in front of a term turns on its flag. -/
theorem search_flag (f : Flag) (hallows : a.Allows f) : search a (String.singleton f.char ++ raw) c s =
    ((Query.parse a raw).turnOn f).compile.evaluate c s := by
  rw [search, Query.parse_singleton_append (Alphabet.flag?_char hallows)]
  rfl

/-- What each flag in front of a term does to a search that returns. The flags for pawns, for things and for sites can only add to their own part and leave the others as they are. The flag for the player's side can only take away, and only pawns, and under a query that matches all not even these. The flag that matches all takes nothing away, nor does the flag for all maps if the map on show is loaded; and this one does not touch the sites. The search with one flag more returns as well, unless the flag is that for pawns, for the player's side or for all maps, where it may fail. -/
theorem flag_in_front (hr : search a raw c s = .ok r) :
    (∀ r', search a ("-" ++ raw) c s = .ok r' →
      r.pawns ⊆ r'.pawns ∧ r'.things.Perm r.things ∧ r'.sites.Perm r.sites) ∧
    (∃ r', search a ("." ++ raw) c s = .ok r' ∧
      r.things ⊆ r'.things ∧ r'.pawns.Perm r.pawns ∧ r'.sites.Perm r.sites) ∧
    (∀ r', search a ("#" ++ raw) c s = .ok r' →
      r'.pawns ⊆ r.pawns ∧ r'.things.Perm r.things ∧ r'.sites.Perm r.sites ∧
        ((Query.parse a raw).matchAll = true → r'.pawns.Perm r.pawns)) ∧
    (∃ r', search a ("*" ++ raw) c s = .ok r' ∧
      r.pawns ⊆ r'.pawns ∧ r.things ⊆ r'.things ∧ r.sites ⊆ r'.sites) ∧
    (∀ r', search a ("!" ++ raw) c s = .ok r' →
      (s.ShowsLoaded → r.pawns ⊆ r'.pawns ∧ r.things ⊆ r'.things) ∧ r'.sites.Perm r.sites) ∧
    (a.worldFlag = true → ∃ r', search a ("<" ++ raw) c s = .ok r' ∧
      r.sites ⊆ r'.sites ∧ r'.pawns.Perm r.pawns ∧ r'.things.Perm r.things) := by
  refine ⟨?_, ?_, ?_, ?_, ?_, ?_⟩
  · intro r' h
    have hr' := (search_flag .pawns nofun).symm.trans h
    exact ⟨pawns_subset_turnOn hr hr' nofun nofun, things_perm_turnOn hr hr' (by decide),
      sites_perm_turnOn hr hr' (by decide)⟩
  · obtain ⟨r', hr'⟩ := exists_evaluate_turnOn_eq_ok (f := .items) (by decide) hr
    exact ⟨r', (search_flag .items nofun).trans hr', things_subset_turnOn hr hr' nofun,
      pawns_perm_turnOn hr hr' (by decide), sites_perm_turnOn hr hr' (by decide)⟩
  · intro r' h
    have hr' := (search_flag .colonyOnly nofun).symm.trans h
    exact ⟨pawns_subset_of_turnOn_colonyOnly hr hr', things_perm_turnOn hr hr' (by decide),
      sites_perm_turnOn hr hr' (by decide), pawns_perm_turnOn_colonyOnly hr hr'⟩
  · obtain ⟨r', hr'⟩ := exists_evaluate_turnOn_eq_ok (f := .matchAll) (by decide) hr
    exact ⟨r', (search_flag .matchAll nofun).trans hr', pawns_subset_turnOn hr hr' nofun nofun,
      things_subset_turnOn hr hr' nofun, sites_subset_turnOn hr hr'⟩
  · intro r' h
    have hr' := (search_flag .allMaps nofun).symm.trans h
    refine ⟨?_, sites_perm_turnOn hr hr' (by decide)⟩
    intro hloaded
    exact ⟨pawns_subset_turnOn hr hr' nofun fun _ => hloaded,
      things_subset_turnOn hr hr' fun _ => hloaded⟩
  · intro hworld
    obtain ⟨r', hr'⟩ := exists_evaluate_turnOn_eq_ok (f := .worldMap) (by decide) hr
    exact ⟨r', (search_flag .worldMap fun _ => hworld).trans hr', sites_subset_turnOn hr hr',
      pawns_perm_turnOn hr hr' (by decide), things_perm_turnOn hr hr' (by decide)⟩

namespace Sample

/-- The sample colony's map is loaded and on show. -/
def loadedScope : Scope := { maps := [⟨0⟩], current := some ⟨0⟩, sites := [⟨0⟩] }

theorem showsLoaded_loadedScope : loadedScope.ShowsLoaded := by
  intro m hm
  cases hm
  decide

end Sample

open Sample in
theorem flag_in_front_sample :
    search ⟨true⟩ ".AD" colony loadedScope = .ok ⟨[⟨2⟩], [], []⟩ ∧
    (∃ r', search ⟨true⟩ "-.AD" colony loadedScope = .ok r' ∧ r'.pawns = [⟨0⟩] ∧
      r'.things.Perm [⟨2⟩] ∧ r'.sites.Perm []) ∧
    (∃ r', search ⟨true⟩ "*.AD" colony loadedScope = .ok r' ∧ [⟨2⟩] ⊆ r'.things) ∧
    (loadedScope.ShowsLoaded ∧
      ∃ r', search ⟨true⟩ "!.AD" colony loadedScope = .ok r' ∧ [⟨2⟩] ⊆ r'.things) ∧
    (∃ r', search ⟨true⟩ "<.AD" colony loadedScope = .ok r' ∧ r'.things.Perm [⟨2⟩]) := by
  have hr : search ⟨true⟩ ".AD" colony loadedScope = .ok ⟨[⟨2⟩], [], []⟩ := by decide +kernel
  have hpawns : search ⟨true⟩ "-.AD" colony loadedScope = .ok ⟨[⟨2⟩], [⟨0⟩], []⟩ := by
    decide +kernel
  have hmaps : search ⟨true⟩ "!.AD" colony loadedScope = .ok ⟨[⟨2⟩], [], []⟩ := by decide +kernel
  obtain ⟨haddsPawns, _, _, hall, haddsMaps, haddsSites⟩ := flag_in_front hr
  obtain ⟨all, hall, _, hkept, _⟩ := hall
  obtain ⟨world, hworld, _, _, hsame⟩ := haddsSites rfl
  refine ⟨hr, ⟨_, hpawns, rfl, (haddsPawns _ hpawns).2⟩, ⟨all, hall, hkept⟩,
    ⟨showsLoaded_loadedScope, _, hmaps, ?_⟩, ⟨world, hworld, hsame⟩⟩
  exact ((haddsMaps _ hmaps).1 showsLoaded_loadedScope).2

end ColonySearch
