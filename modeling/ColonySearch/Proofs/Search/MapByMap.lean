import ColonySearch.Proofs.Query.Term
import ColonySearch.Proofs.Search.Failure
import ColonySearch.View

/-!
# Searching map by map

A search visits its maps one after another and keeps nothing of one for the next. So it comes to what the same query comes to on each of its maps alone: it fails where one of these searches fails, and what it finds on a map is what the search of that map finds. The sites of the world belong to no map, and every search for a term finds the same ones. Behind this stands one comparison, of a search with the search of a single map that it visits.
-/

namespace ColonySearch

/-- The query asked of the map on show alone. -/
def Query.here (q : Query) : Query := { q with allMaps := false }

/-- The scope with the given map on show. -/
def Scope.showing (s : Scope) (m : MapKey) : Scope := { s with current := some m }

variable {q : Query} {c : Colony} {s s' : Scope} {r r' : Results} {m : MapKey} {k : ThingKey}
  {e : MissingTrait}

/-! ### One of the visited maps -/

theorem Scope.reaches_here_iff : (s.showing m).Reaches c q.here k ↔ k ∈ (c.map m).spawned := by
  constructor
  · intro h
    obtain ⟨m', hvisit, hlist⟩ := h
    cases hvisit
    exact hlist
  · intro hlist
    exact ⟨m, rfl, hlist⟩

theorem Scope.Visits.reaches (hm : s.Visits q m) (hlist : k ∈ (c.map m).spawned) : s.Reaches c q k :=
  ⟨m, hm, hlist⟩

/-- A search fails exactly if it fails on one of the maps that it visits. -/
theorem evaluate_eq_error_iff_here : q.compile.evaluate c s = .error e ↔
    ∃ m, s.Visits q m ∧ q.here.compile.evaluate c (s.showing m) = .error e := by
  simp only [Compiled.evaluate_eq_error_iff, Scope.reaches_here_iff]
  constructor
  · intro h
    obtain ⟨hwant, ⟨k, ⟨m, hvisit, hlist⟩, hstray⟩, hfail⟩ := h
    exact ⟨m, hvisit, hwant, ⟨k, hlist, hstray⟩, hfail⟩
  · intro h
    obtain ⟨m, hvisit, hwant, ⟨k, hlist, hstray⟩, hfail⟩ := h
    exact ⟨hwant, ⟨k, hvisit.reaches hlist, hstray⟩, hfail⟩

theorem exists_here_eq_ok (hr : q.compile.evaluate c s = .ok r) (hm : s.Visits q m) :
    ∃ r', q.here.compile.evaluate c (s.showing m) = .ok r' := by
  apply Outcome.exists_eq_ok
  intro e h
  rw [evaluate_eq_error_iff_here.2 ⟨m, hm, h⟩] at hr
  cases hr

/-- What asks for more than being reached asks the same on one of the visited maps, of what that map lists. -/
theorem Scope.Visits.reaches_here_and_iff {A B : Prop} (hm : s.Visits q m) :
    (A ∧ (s.showing m).Reaches c q.here k ∧ B) ↔
      (A ∧ s.Reaches c q k ∧ B) ∧ k ∈ (c.map m).spawned := by
  rw [reaches_here_iff]
  constructor
  · intro h
    obtain ⟨hwant, hlist, hadmitted⟩ := h
    exact ⟨⟨hwant, hm.reaches hlist, hadmitted⟩, hlist⟩
  · intro h
    obtain ⟨⟨hwant, _, hadmitted⟩, hlist⟩ := h
    exact ⟨hwant, hlist, hadmitted⟩

section Found

variable (hr : q.compile.evaluate c s = .ok r)

include hr

/-- The pawns found on one of the visited maps are those of all that this map lists. -/
theorem mem_pawns_here_iff (hm : s.Visits q m)
    (hr' : q.here.compile.evaluate c (s.showing m) = .ok r') :
    k ∈ r'.pawns ↔ k ∈ r.pawns ∧ k ∈ (c.map m).spawned := by
  rw [mem_pawns_iff hr, mem_pawns_iff hr']
  exact hm.reaches_here_and_iff

theorem mem_things_here_iff (hm : s.Visits q m)
    (hr' : q.here.compile.evaluate c (s.showing m) = .ok r') :
    k ∈ r'.things ↔ k ∈ r.things ∧ k ∈ (c.map m).spawned := by
  rw [mem_things_iff hr, mem_things_iff hr']
  exact hm.reaches_here_and_iff

/-! ### All of them -/

/-- If what is found on each visited map is what this map lists of all that is found, then all of it is found map by map. -/
theorem mem_iff_here (found : Results → List ThingKey) (hreach : k ∈ found r → s.Reaches c q k)
    (hhere : ∀ m r', s.Visits q m → q.here.compile.evaluate c (s.showing m) = .ok r' →
      (k ∈ found r' ↔ k ∈ found r ∧ k ∈ (c.map m).spawned)) :
    k ∈ found r ↔ ∃ m, s.Visits q m ∧
      ∃ r', q.here.compile.evaluate c (s.showing m) = .ok r' ∧ k ∈ found r' := by
  constructor
  · intro hk
    obtain ⟨m, hm, hlist⟩ := hreach hk
    obtain ⟨r', hr'⟩ := exists_here_eq_ok hr hm
    exact ⟨m, hm, r', hr', (hhere m r' hm hr').2 ⟨hk, hlist⟩⟩
  · intro h
    obtain ⟨m, hm, r', hr', hk⟩ := h
    exact ((hhere m r' hm hr').1 hk).1

theorem mem_pawns_iff_here : k ∈ r.pawns ↔ ∃ m, s.Visits q m ∧
    ∃ r', q.here.compile.evaluate c (s.showing m) = .ok r' ∧ k ∈ r'.pawns :=
  mem_iff_here hr Results.pawns (fun hk => ((mem_pawns_iff hr).1 hk).2.1)
    fun _ _ hm hr' => mem_pawns_here_iff hr hm hr'

theorem mem_things_iff_here : k ∈ r.things ↔ ∃ m, s.Visits q m ∧
    ∃ r', q.here.compile.evaluate c (s.showing m) = .ok r' ∧ k ∈ r'.things :=
  mem_iff_here hr Results.things (fun hk => ((mem_things_iff hr).1 hk).2.1)
    fun _ _ hm hr' => mem_things_here_iff hr hm hr'

end Found

theorem sites_of_evaluate (hr : q.compile.evaluate c s = .ok r) :
    r.sites = (q.compile.foundSites c s).eraseDups := by
  obtain ⟨_, _, _, _, rfl⟩ := Compiled.evaluate_eq_ok_iff.1 hr
  rfl

/-- The sites found do not depend on the maps that are visited. -/
theorem sites_eq_here (hsites : s.sites = s'.sites) (hr : q.compile.evaluate c s = .ok r)
    (hr' : q.here.compile.evaluate c s' = .ok r') : r.sites = r'.sites := by
  rw [sites_of_evaluate hr, sites_of_evaluate hr', Compiled.foundSites, hsites]
  rfl

/-! ### The term for all maps -/

theorem Query.here_eq_self (h : q.allMaps = false) : q.here = q := by
  rw [here, ← h]

section Terms

variable {a : Alphabet} {raw : String}

theorem Query.parse_everywhere : parse a ("!" ++ raw) =
    { parse a raw with raw := "!" ++ raw, allMaps := true } := by
  have hflag : a.flag? '!' = some .allMaps := rfl
  exact parse_singleton_append hflag

theorem Scope.visits_everywhere_iff : s.Visits (Query.parse a ("!" ++ raw)) m ↔ m ∈ s.maps := by
  rw [Query.parse_everywhere]
  exact Iff.rfl

/-- A term for the map on show asks of that map what the term for all maps asks of each. -/
theorem search_eq_here (hlocal : (Query.parse a raw).allMaps = false) :
    search a raw c s = (Query.parse a ("!" ++ raw)).here.compile.evaluate c s := by
  rw [search, ← Query.here_eq_self hlocal, Query.parse_everywhere]
  rfl

/-- The maps that the term for all maps visits are those that the view can be taken to. -/
theorem exists_visits_everywhere_iff {v : View} (P : Scope → Prop) :
    (∃ m, v.toScope.Visits (Query.parse a ("!" ++ raw)) m ∧ P (v.toScope.showing m)) ↔
      ∃ m ∈ v.maps, ∃ shown, v.setCurrent c (some m) = .ok shown ∧ P shown.toScope := by
  constructor
  · intro h
    obtain ⟨m, hm, hP⟩ := h
    have hloaded : m ∈ v.maps := Scope.visits_everywhere_iff.1 hm
    exact ⟨m, hloaded, _, View.setCurrent_some_eq_ok_iff.2 ⟨hloaded, rfl⟩, hP⟩
  · intro h
    obtain ⟨m, hloaded, shown, hshown, hP⟩ := h
    obtain ⟨_, rfl⟩ := View.setCurrent_some_eq_ok_iff.1 hshown
    exact ⟨m, Scope.visits_everywhere_iff.2 hloaded, hP⟩

end Terms

/-- The term for all maps comes to the union of going to each loaded map and searching there. It fails exactly if one of these searches fails, and in the same way; otherwise it finds the pawns and the things that they find; and it finds the sites that the term finds whichever map is on show, loaded or not, or none. -/
theorem search_everywhere_is_union {a : Alphabet} {raw : String}
    (hlocal : (Query.parse a raw).allMaps = false) (c : Colony) (v : View) :
    (∀ e, search a ("!" ++ raw) c v.toScope = .error e ↔
      ∃ m ∈ v.maps, ∃ shown, v.setCurrent c (some m) = .ok shown ∧
        search a raw c shown.toScope = .error e) ∧
    ∀ r, search a ("!" ++ raw) c v.toScope = .ok r →
      (∀ k, k ∈ r.pawns ↔ ∃ m ∈ v.maps, ∃ shown, v.setCurrent c (some m) = .ok shown ∧
        ∃ r', search a raw c shown.toScope = .ok r' ∧ k ∈ r'.pawns) ∧
      (∀ k, k ∈ r.things ↔ ∃ m ∈ v.maps, ∃ shown, v.setCurrent c (some m) = .ok shown ∧
        ∃ r', search a raw c shown.toScope = .ok r' ∧ k ∈ r'.things) ∧
      ∀ current r', search a raw c { v.toScope with current } = .ok r' → r.sites = r'.sites := by
  refine ⟨?_, ?_⟩
  · intro e
    rw [search, evaluate_eq_error_iff_here]
    simp only [← search_eq_here hlocal]
    exact exists_visits_everywhere_iff fun s => search a raw c s = .error e
  · intro r hr
    refine ⟨?_, ?_, ?_⟩
    · intro k
      rw [mem_pawns_iff_here hr]
      simp only [← search_eq_here hlocal]
      exact exists_visits_everywhere_iff fun s => ∃ r', search a raw c s = .ok r' ∧ k ∈ r'.pawns
    · intro k
      rw [mem_things_iff_here hr]
      simp only [← search_eq_here hlocal]
      exact exists_visits_everywhere_iff fun s => ∃ r', search a raw c s = .ok r' ∧ k ∈ r'.things
    · intro current r' hr'
      rw [search_eq_here hlocal] at hr'
      have hsites : v.sites = ({ v.toScope with current } : Scope).sites := rfl
      exact sites_eq_here hsites hr hr'

namespace Sample

/-- A colonist on one map, a barrel on another, and on a third a pawn that is no actor. -/
def camps : Colony where
  thing := fun k =>
    if k.index = 0 then { label := "Ada", kind := .pawn, mapHeld := some ⟨0⟩, actor := some {} }
    else if k.index = 1 then { label := "Ale", haulable := true, mapHeld := some ⟨1⟩ }
    else { kind := .pawn, mapHeld := some ⟨2⟩ }
  map := fun m => { spawned := [⟨m.index⟩] }
  site := fun _ => { label := "Abbey" }

/-- The first two maps are loaded, one of them twice, and none is on show. -/
def campView : View := { maps := [⟨0⟩, ⟨1⟩, ⟨0⟩], sites := [⟨0⟩] }

end Sample

open Sample in
theorem search_everywhere_is_union_sample :
    (Query.parse ⟨true⟩ "-.<A").allMaps = false ∧
    (search ⟨true⟩ "!-.<A" camps campView.toScope = .ok ⟨[⟨1⟩], [⟨0⟩], [⟨0⟩]⟩ ∧
      ∃ m ∈ campView.maps, ∃ shown, campView.setCurrent camps (some m) = .ok shown ∧
        ∃ r', search ⟨true⟩ "-.<A" camps shown.toScope = .ok r' ∧ ⟨1⟩ ∈ r'.things) ∧
    (search ⟨true⟩ "-.<A" camps { campView.toScope with current := some ⟨1⟩ } =
        .ok ⟨[⟨1⟩], [], [⟨0⟩]⟩ ∧
      ∃ e, search ⟨true⟩ "!-.<A" camps { maps := [⟨1⟩, ⟨2⟩] } = .error e) := by
  have hlocal : (Query.parse ⟨true⟩ "-.<A").allMaps = false := by decide
  have hall : search ⟨true⟩ "!-.<A" camps campView.toScope = .ok ⟨[⟨1⟩], [⟨0⟩], [⟨0⟩]⟩ := by
    decide +kernel
  have hone : search ⟨true⟩ "-.<A" camps { campView.toScope with current := some ⟨1⟩ } =
      .ok ⟨[⟨1⟩], [], [⟨0⟩]⟩ := by
    decide +kernel
  have hstray : search ⟨true⟩ "-.<A" camps { maps := [⟨1⟩, ⟨2⟩], current := some ⟨2⟩ } =
      .error ⟨.kindLabel⟩ := by
    decide +kernel
  obtain ⟨_, hthings, _⟩ := (search_everywhere_is_union hlocal camps campView).2 _ hall
  have hfails := (search_everywhere_is_union hlocal camps { maps := [⟨1⟩, ⟨2⟩] }).1 ⟨.kindLabel⟩
  refine ⟨hlocal, ⟨hall, (hthings ⟨1⟩).1 (by decide)⟩, hone, _, hfails.2 ?_⟩
  exact ⟨⟨2⟩, by decide, _, View.setCurrent_some_eq_ok_iff.2 ⟨by decide, rfl⟩, hstray⟩

end ColonySearch
