import ColonySearch.CommandLine.Program
import ColonySearch.Proofs.ResultTable
import ColonySearch.Proofs.Search.Flags

/-!
# Searches from the command line

The program searches the demo colony, in which every pawn is an actor and no number is long, so that every search returns and its results always have a table. What the user gets to see of it depends on the results and on the label of the query alone. The option for the world turns the flag of the world map on in the query that was read from the term, which is what the character for it does in front of the term where it is in force.
-/

namespace ColonySearch

/-! ### The demo colony -/

namespace Demo

/-- The colony that the program searches. -/
def colony : Colony := (found {}).2

/-- What a search from the command line can reach. -/
def scope : Scope := (found {}).1.toScope

theorem showsLoaded_scope : scope.ShowsLoaded := by
  intro m hm
  cases hm
  decide

theorem actor_ne_none : ∀ m ∈ scope.maps, ∀ k ∈ (colony.map m).spawned,
    (colony.thing k).kind = .pawn → (colony.thing k).actor ≠ none := by
  decide +kernel

theorem isWritable_cell : ∀ m ∈ scope.maps, ∀ k ∈ (colony.map m).spawned,
    (colony.thing k).cell.IsWritable := by
  decide +kernel

theorem digitCount_tile_le : ∀ k ∈ scope.sites, Text.digitCount (colony.site k).tile ≤ maxDigits := by
  decide +kernel

theorem map_site_sites : scope.sites.map colony.site = sites := by
  decide +kernel

theorem exists_loaded_of_reaches {q : Query} {k : ThingKey} (h : scope.Reaches colony q k) :
    ∃ m ∈ scope.maps, k ∈ (colony.map m).spawned := by
  obtain ⟨m, hvisit, hlist⟩ := h
  exact ⟨m, hvisit.mem_or_eq.elim id (showsLoaded_scope m), hlist⟩

/-- There are no strays in the demo colony, so nothing in it makes a search fail. -/
theorem exists_evaluate_eq_ok (q : Query) : ∃ r, q.compile.evaluate colony scope = .ok r := by
  apply Outcome.exists_eq_ok
  intro e h
  obtain ⟨_, ⟨k, hreach, hstray, _⟩, _⟩ := Compiled.evaluate_eq_error_iff.1 h
  obtain ⟨m, hloaded, hlist⟩ := exists_loaded_of_reaches hreach
  exact actor_ne_none m hloaded k hlist hstray.1 hstray.2

/-- No number in the demo colony is too long to be written out. -/
theorem exists_table_eq_ok {q : Query} {r : Results}
    (hr : q.compile.evaluate colony scope = .ok r) : ∃ t, r.table colony = .ok t := by
  have hcell : ∀ k, scope.Reaches colony q k → (colony.thing k).cell.IsWritable := by
    intro k hreach
    obtain ⟨m, hloaded, hlist⟩ := exists_loaded_of_reaches hreach
    exact isWritable_cell m hloaded k hlist
  apply Results.exists_table_eq_ok_iff.2
  constructor
  · intro k hk
    exact hcell k ((mem_pawns_iff hr).1 hk).2.1
  · intro k hk
    exact hcell k ((mem_things_iff hr).1 hk).2.1
  · intro k hk
    exact digitCount_tile_le k ((mem_sites_iff hr).1 hk).2.1

end Demo

theorem Results.isEmpty_iff {r : Results} :
    r.isEmpty = true ↔ r.pawns = [] ∧ r.things = [] ∧ r.sites = [] := by
  simp only [isEmpty, total, beq_iff_eq, Nat.add_eq_zero_iff, List.length_eq_zero_iff]
  rw [and_assoc, and_left_comm]

namespace CommandLine

variable {cfg : Settings} {homes : Path.Homes} {tree : FileTree} {rank : Nat} {term label : String}
  {world : Bool} {q : Query} {r : Results} {o : Outcome}

/-- What a search under the label leaves to the user once it has found the results: a table of them, or, if there are none, the label alone and the exit code 1. Nothing breaks it off. -/
structure Outcome.Presents (o : Outcome) (label : String) (r : Results) : Prop where
  failure : o.failure = none
  exitCode : o.exitCode = if r.pawns = [] ∧ r.things = [] ∧ r.sites = [] then 1 else 0
  printed : if r.pawns = [] ∧ r.things = [] ∧ r.sites = [] then o.printed = [.noResults label]
    else ∃ table, r.table Demo.colony = .ok table ∧ o.printed = [.table table]

theorem runSearch_of_ok {t : Table} (hr : q.compile.evaluate Demo.colony Demo.scope = .ok r)
    (ht : r.table Demo.colony = .ok t) : runSearch tree q =
      if r.isEmpty then
        { exitCode := 1, tree, printed := [.noResults q.debugLabel], log := [q.evaluated r] }
      else { exitCode := 0, tree, printed := [.table t], log := [q.evaluated r] } := by
  -- The demo colony stands for any other here, and unfolded it would be too large to rewrite in.
  unfold Demo.colony Demo.scope at hr
  unfold Demo.colony at ht
  unfold runSearch
  generalize Demo.found {} = founded at hr ht ⊢
  obtain ⟨view, colony⟩ := founded
  simp only [Compiled.outcome_evaluation, Compiled.log_evaluation_of_ok hr, hr, ht]
  rfl

theorem presents_runSearch (hr : q.compile.evaluate Demo.colony Demo.scope = .ok r) :
    (runSearch tree q).Presents q.debugLabel r := by
  obtain ⟨t, ht⟩ := Demo.exists_table_eq_ok hr
  rw [runSearch_of_ok hr ht]
  by_cases hempty : r.isEmpty = true
  · rw [if_pos hempty]
    have hnone := Results.isEmpty_iff.1 hempty
    exact ⟨rfl, (if_pos hnone).symm, (if_pos hnone).mpr rfl⟩
  · rw [if_neg hempty]
    have hsome := mt Results.isEmpty_iff.2 hempty
    exact ⟨rfl, (if_neg hsome).symm, (if_neg hsome).mpr ⟨t, ht, rfl⟩⟩

theorem debugLabel_searchQuery :
    (searchQuery cfg term world).debugLabel = (Query.parse (alphabet cfg) term).label := by
  cases world <;> rfl

/-- Where the level is valid, only the log depends on it. -/
theorem presents_perform (hlevel : threshold cfg.logLevel = .ok rank)
    (hr : (searchQuery cfg term world).compile.evaluate Demo.colony Demo.scope = .ok r) :
    (perform cfg homes tree (.search term world)).Presents
      (Query.parse (alphabet cfg) term).label r := by
  have hsearch : (runSearch tree (searchQuery cfg term world)).Presents _ r := presents_runSearch hr
  rw [debugLabel_searchQuery] at hsearch
  rw [perform, hlevel]
  exact ⟨hsearch.failure, hsearch.exitCode, hsearch.printed⟩

/-- Outcomes that present the same results under the same label look the same. -/
theorem Outcome.Presents.same {o' : Outcome} (h : o.Presents label r) (h' : o'.Presents label r) :
    o.exitCode = o'.exitCode ∧ o.printed = o'.printed := by
  refine ⟨h.exitCode.trans h'.exitCode.symm, ?_⟩
  have hprinted := h.printed
  have hprinted' := h'.printed
  split at hprinted
  · next hempty =>
    rw [if_pos hempty] at hprinted'
    exact hprinted.trans hprinted'.symm
  · next hfound =>
    rw [if_neg hfound] at hprinted'
    obtain ⟨t, ht, hprinted⟩ := hprinted
    obtain ⟨t', ht', hprinted'⟩ := hprinted'
    rw [hprinted, hprinted', Except.ok.inj (ht.symm.trans ht')]

/-! ### The option and the flag -/

theorem evaluate_flag_eq (hflag : cfg.worldFlagEnabled = true) {c : Colony} {s : Scope} :
    (searchQuery cfg ("<" ++ term) false).compile.evaluate c s =
      (searchQuery cfg term true).compile.evaluate c s :=
  search_flag .worldMap fun _ => hflag

theorem label_flag_eq (hflag : cfg.worldFlagEnabled = true) :
    (Query.parse (alphabet cfg) ("<" ++ term)).label = (Query.parse (alphabet cfg) term).label := by
  have hchar : (alphabet cfg).flag? '<' = some .worldMap :=
    Alphabet.flag?_eq_some_iff.2 ⟨fun _ => hflag, rfl⟩
  exact Query.label_parse_flag (c := '<') hchar

/-- The sites found in the demo colony are those that the query admits. -/
theorem mem_map_site_iff (hr : q.compile.evaluate Demo.colony Demo.scope = .ok r)
    (hworld : q.worldMap = true) {t : Site} :
    t ∈ r.sites.map Demo.colony.site ↔ t ∈ Demo.sites ∧ q.AdmitsSite t := by
  rw [← Demo.map_site_sites, List.mem_map, List.mem_map]
  constructor
  · intro h
    obtain ⟨k, hk, rfl⟩ := h
    obtain ⟨_, hlisted, hadmits⟩ := (mem_sites_iff hr).1 hk
    exact ⟨⟨k, hlisted, rfl⟩, hadmits⟩
  · intro h
    obtain ⟨⟨k, hlisted, rfl⟩, hadmits⟩ := h
    exact ⟨k, (mem_sites_iff hr).2 ⟨hworld, hlisted, hadmits⟩, rfl⟩

/-- The option for the world and the flag of the world map. Where the flag is in force, a search with the option and the search for the term behind the flag's character end with the same exit code and print the same. In force or not, a search with the option finds the pawns and the things that the search without it finds, and just those sites of the demo colony whose label contains that of the term, or all of them if there is no label or the term matches all. And no search fails: each presents what it has found, with exit code 1 if and only if this is nothing. -/
theorem world_option_is_world_flag (hlevel : threshold cfg.logLevel = .ok rank) (homes : Path.Homes)
    (tree : FileTree) (term : String) :
    (cfg.worldFlagEnabled = true →
      (perform cfg homes tree (.search term true)).exitCode =
        (perform cfg homes tree (.search ("<" ++ term) false)).exitCode ∧
      (perform cfg homes tree (.search term true)).printed =
        (perform cfg homes tree (.search ("<" ++ term) false)).printed) ∧
    ∃ r r', (searchQuery cfg term false).compile.evaluate Demo.colony Demo.scope = .ok r ∧
      (searchQuery cfg term true).compile.evaluate Demo.colony Demo.scope = .ok r' ∧
      (r'.pawns.Perm r.pawns ∧ r'.things.Perm r.things ∧
        ∀ t, t ∈ r'.sites.map Demo.colony.site ↔
          t ∈ Demo.sites ∧ (Query.parse (alphabet cfg) term).AdmitsSite t) ∧
      (perform cfg homes tree (.search term false)).Presents
        (Query.parse (alphabet cfg) term).label r ∧
      (perform cfg homes tree (.search term true)).Presents
        (Query.parse (alphabet cfg) term).label r' := by
  obtain ⟨r, hr⟩ := Demo.exists_evaluate_eq_ok (searchQuery cfg term false)
  obtain ⟨r', hr'⟩ := Demo.exists_evaluate_eq_ok (searchQuery cfg term true)
  refine ⟨?_, r, r', hr, hr', ⟨?_, ?_, ?_⟩, presents_perform hlevel hr, presents_perform hlevel hr'⟩
  · intro hflag
    have hcharacter : (perform cfg homes tree (.search ("<" ++ term) false)).Presents _ r' :=
      presents_perform hlevel ((evaluate_flag_eq hflag).trans hr')
    rw [label_flag_eq hflag] at hcharacter
    exact (presents_perform hlevel hr').same hcharacter
  · exact pawns_perm_turnOn (f := .worldMap) hr hr' (by decide)
  · exact things_perm_turnOn (f := .worldMap) hr hr' (by decide)
  · intro t
    exact mem_map_site_iff hr' rfl

namespace Sample

/-- The flag of the world map is in force. -/
def settings : Settings := { worldFlagEnabled := true }

def userHomes : Path.Homes := { own := .ofText "/home/ada" }

/-- The two pawns at home and the two sites whose labels contain an "r", as they are found. -/
def withR : Results := { pawns := [⟨1⟩, ⟨2⟩], sites := [⟨13⟩, ⟨14⟩] }

/-- The same in the order of their labels. -/
def withRByLabel : Results := { pawns := [⟨2⟩, ⟨1⟩], sites := [⟨14⟩, ⟨13⟩] }

def namesWithR : Table where
  title := "4 result(s)"
  columns := ["kind", "label", "where", "description"]
  rows := [["pawn", "Ada", "home (14, 8)", ""], ["pawn", "Trader Joe", "home (10, 12)", "Trade lead"],
    ["world", "Kestrel outpost", "tile 1310", ""], ["world", "New Arbor", "tile 1204", "Player colony"]]

end Sample

open ColonySearch.CommandLine.Sample in
theorem world_option_is_world_flag_sample :
    threshold settings.logLevel = .ok 20 ∧ settings.worldFlagEnabled = true ∧
    (perform settings userHomes {} (.search "-r" true)).exitCode = 0 ∧
    (perform settings userHomes {} (.search "-r" true)).printed = [.table namesWithR] ∧
    (perform settings userHomes {} (.search ("<" ++ "-r") false)).printed = [.table namesWithR] := by
  have hlevel : threshold settings.logLevel = .ok 20 := by decide +kernel
  obtain ⟨hsame, _, r', _, hr', _, _, hpresents⟩ :=
    world_option_is_world_flag hlevel userHomes {} "-r"
  have hfound : (searchQuery settings "-r" true).compile.evaluate Demo.colony Demo.scope =
      .ok withR := by
    decide +kernel
  obtain rfl := Except.ok.inj (hfound.symm.trans hr')
  have hdiffer : withRByLabel.LabelsDiffer Demo.colony :=
    ⟨by decide +kernel, by decide, by decide +kernel⟩
  have hsorted : withRByLabel.InLabelOrder Demo.colony :=
    ⟨by decide +kernel, by decide, by decide +kernel⟩
  have horder : withRByLabel.Reordered withR := ⟨.swap _ _ _, .refl _, .swap _ _ _⟩
  have htable : withR.table Demo.colony = .ok namesWithR := by
    rw [hdiffer.table_eq horder, Results.table_eq, hsorted.byLabel_eq]
    decide +kernel
  obtain ⟨t, ht, hprinted⟩ := hpresents.printed
  obtain rfl := Except.ok.inj (htable.symm.trans ht)
  exact ⟨hlevel, rfl, hpresents.exitCode, hprinted, (hsame rfl).2.symm.trans hprinted⟩

end CommandLine

end ColonySearch
