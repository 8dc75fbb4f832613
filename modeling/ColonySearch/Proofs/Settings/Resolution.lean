import ColonySearch.Proofs.Settings.Grammar
import ColonySearch.Proofs.Settings.Standard
import ColonySearch.Store.Startup

/-!
# Which values settings get

Each field gets its value from the first source that gives one, and no other source has a say in it. This holds with any library that does what is documented: merging the sources by priority leaves for each field the value that wins, and validating what is left judges each field by that value alone. The bound that the program declares for the ticks is one that every session accepts.
-/

namespace ColonySearch

namespace Settings.Library

variable {lib : Library} {s : Sources lib.Raw} {cfg : Settings} {f : Field} {raw : lib.Raw}
  {faults : List (Field × lib.Fault)}

/-- The value is the one of the first source that gives the field one. -/
inductive Wins (lib : Library) (s : Sources lib.Raw) (f : Field) : lib.Raw → Prop
  | argument {raw : lib.Raw} (h : lib.ArgumentGives s f raw) : Wins lib s f raw
  | environment {raw : lib.Raw} (hargument : ∀ r, ¬lib.ArgumentGives s f r)
    (h : lib.EnvironmentGives s f raw) : Wins lib s f raw
  | text {raw : lib.Raw} (hargument : ∀ r, ¬lib.ArgumentGives s f r)
    (henvironment : ∀ r, ¬lib.EnvironmentGives s f r) (h : lib.TextGives s f raw) : Wins lib s f raw

/-- What all sources give together. -/
def merged (lib : Library) (s : Sources lib.Raw) : Field → Option lib.Raw :=
  lib.merge (lib.fromArguments s) (lib.merge (lib.fromEnvironment s) (lib.fromText s))

namespace Lawful

variable (hlib : lib.Lawful)

include hlib

/-! ### What plain sources give -/

theorem argumentGives_iff (h : ∀ a ∈ s.arguments, ∃ g : Field, a.1 = g.name) :
    lib.ArgumentGives s f raw ↔ (f.name, raw) ∈ s.arguments := by
  constructor
  · intro hgives
    obtain ⟨name, hmem, hname⟩ := hgives
    obtain ⟨g, rfl⟩ := h _ hmem
    rwa [hlib.isNamed.1 hname]
  · intro hmem
    exact ⟨f.name, hmem, hlib.isNamed.2 rfl⟩

theorem textGives_iff {lines : List TextLine} (h : ∀ line ∈ lines, line.Plain)
    (htext : s.text = TextLine.join lines) :
    lib.TextGives s f raw ↔ ∃ value, LinesGive lines f value ∧ raw = lib.ofText value := by
  rw [TextGives, htext, hlib.assignments h]
  constructor
  · intro hgives
    obtain ⟨before, name, value, after, hsplit, hname, hafter, rfl⟩ := hgives
    obtain ⟨front, back, rfl, -, hback⟩ := List.filterMap_eq_append_iff.1 hsplit
    obtain ⟨idle, line, left, rfl, -, hline, rfl⟩ := List.filterMap_eq_cons_iff.1 hback
    obtain ⟨_, _, rfl, heq⟩ := TextLine.assigned?_eq_some_iff.1 hline
    cases heq
    refine ⟨value, ⟨front ++ idle, name, left, (List.append_assoc ..).symm, hname, ?_⟩, rfl⟩
    intro other text hmem
    exact hafter (other, some text) (List.mem_filterMap.2 ⟨_, hmem, rfl⟩)
  · intro hgives
    obtain ⟨value, ⟨before, name, after, rfl, hname, hafter⟩, rfl⟩ := hgives
    refine ⟨before.filterMap TextLine.assigned?, name, value, after.filterMap TextLine.assigned?, ?_, hname, ?_, rfl⟩
    · rw [List.filterMap_append]
      rfl
    · intro entry hentry
      obtain ⟨line, hmem, hline⟩ := List.mem_filterMap.1 hentry
      obtain ⟨other, text, rfl, rfl⟩ := TextLine.assigned?_eq_some_iff.1 hline
      exact hafter other text hmem

/-! ### What is left of the sources -/

theorem merged_eq_some_iff (h : lib.Consistent s) : lib.merged s f = some raw ↔ lib.Wins s f raw := by
  simp only [merged, hlib.merge, Option.or_eq_some_iff, Option.eq_none_iff_forall_ne_some, ne_eq,
    hlib.fromArguments h, hlib.fromEnvironment h, hlib.fromText h]
  constructor
  · intro hwins
    rcases hwins with hargument | ⟨hargument, henvironment | ⟨henvironment, htext⟩⟩
    · exact .argument hargument
    · exact .environment hargument henvironment
    · exact .text hargument henvironment htext
  · intro hwins
    cases hwins with
    | argument hargument => exact .inl hargument
    | environment hargument henvironment => exact .inr ⟨hargument, .inl henvironment⟩
    | text hargument henvironment htext => exact .inr ⟨hargument, .inr ⟨henvironment, htext⟩⟩

/-- A field is judged by the value that wins for it. -/
theorem convert_of_wins (h : lib.Consistent s) (hwins : lib.Wins s f raw) :
    lib.convert f (lib.taken (lib.merged s) f) = lib.convert f raw := by
  rw [taken, (hlib.merged_eq_some_iff h).2 hwins, Option.getD_some]

/-- Where no value wins the default is judged, which is within its bound. -/
theorem convert_of_not_wins (h : lib.Consistent s) (hnone : ∀ raw, ¬lib.Wins s f raw) :
    lib.convert f (lib.taken (lib.merged s) f) = .ok f.unset := by
  have hmerged : lib.merged s f = none := by
    rw [Option.eq_none_iff_forall_ne_some]
    intro raw hraw
    exact hnone raw ((hlib.merged_eq_some_iff h).1 hraw)
  rw [taken, hmerged, Option.getD_none, hlib.convert_ofValue f.admits_unset]

theorem convert_eq_error_iff (h : lib.Consistent s) {fault : lib.Fault} :
    lib.convert f (lib.taken (lib.merged s) f) = .error fault ↔
      ∃ raw, lib.Wins s f raw ∧ lib.convert f raw = .error fault := by
  constructor
  · intro hfault
    by_cases hwins : ∃ raw, lib.Wins s f raw
    · obtain ⟨raw, hwins⟩ := hwins
      exact ⟨raw, hwins, (hlib.convert_of_wins h hwins).symm.trans hfault⟩
    · have hnone : ∀ raw, ¬lib.Wins s f raw := fun raw hraw => hwins ⟨raw, hraw⟩
      cases hfault.symm.trans (hlib.convert_of_not_wins h hnone)
  · intro hwins
    obtain ⟨raw, hwins, hread⟩ := hwins
    rw [hlib.convert_of_wins h hwins, hread]

/-! ### What is built of it -/

theorem build_eq_ok_iff :
    lib.build s = .ok cfg ↔ ∀ f, lib.convert f (lib.taken (lib.merged s) f) = .ok (cfg.value f) := by
  rw [hlib.build]
  exact hlib.validate_ok

theorem mem_faults_iff (hfaults : lib.build s = .error faults) {fault : lib.Fault} :
    (f, fault) ∈ faults ↔ lib.convert f (lib.taken (lib.merged s) f) = .error fault := by
  rw [hlib.build] at hfaults
  exact (hlib.validate_error hfaults).2 f fault

theorem exists_build_eq_ok (h : ∀ f, ∃ x, lib.convert f (lib.taken (lib.merged s) f) = .ok x) :
    ∃ cfg, lib.build s = .ok cfg := by
  choose x hx using h
  refine ⟨ofValues x, (hlib.build_eq_ok_iff).2 fun f => ?_⟩
  rw [hx, value_ofValues]

theorem faults_ne_nil (hfaults : lib.build s = .error faults) : faults ≠ [] := by
  intro hnone
  have hok : ∀ f, ∃ x, lib.convert f (lib.taken (lib.merged s) f) = .ok x := by
    intro f
    apply Outcome.exists_eq_ok
    intro fault hfault
    rw [← hlib.mem_faults_iff hfaults, hnone] at hfault
    cases hfault
  obtain ⟨cfg, hcfg⟩ := hlib.exists_build_eq_ok hok
  cases hcfg.symm.trans hfaults

/-- What is built depends on what is left of the sources alone. -/
theorem build_congr {other : Sources lib.Raw} (h : ∀ f, lib.merged s f = lib.merged other f) :
    lib.build s = lib.build other := by
  rw [hlib.build, hlib.build]
  exact congrArg lib.validate (funext h)

/-! ### Sessions -/

/-- The ticks to wait are at least one, whether a source gives them or none does. -/
theorem one_le_debounceTicks (h : lib.build s = .ok cfg) : 1 ≤ cfg.debounceTicks :=
  hlib.admits (hlib.build_eq_ok_iff.1 h .debounceTicks)

theorem exists_start_eq_ok (h : lib.build s = .ok cfg) (alphabet : Alphabet) (term : String) :
    ∃ session, Session.start alphabet term cfg.debounceTicks = .ok session :=
  ⟨_, dif_pos (hlib.one_le_debounceTicks h)⟩

/-- A session that starts with the stored term can fail by what the store holds alone. -/
theorem startSession_ne_debounce (h : lib.build s = .ok cfg) (store : TermStore) (t : FileTree)
    (alphabet : Alphabet) (limit : Option Nat) (e : BadDebounce) :
    (cfg.startSession store t alphabet limit).1 ≠ .error (.debounce e) := by
  rw [startSession]
  cases (store.load t limit).outcome with
  | error failure => exact nofun
  | ok term =>
    obtain ⟨session, hsession⟩ := hlib.exists_start_eq_ok h alphabet term
    dsimp only
    rw [hsession]
    exact nofun

end Lawful

/-- With any library that does what is documented the settings are built exactly if every value that wins can be converted. Each field then has the value that wins for it, or its default; otherwise the faults are those of the winning values that cannot be converted. Values that do not win have no effect. A session can always wait for as long as the settings say, and none is refused for it. Arguments under the names of fields give these fields their values, and a text of plain lines gives a field what the last line for its variable says. -/
theorem settled_by_first_source (hlib : lib.Lawful) (h : lib.Consistent s) :
    ((∃ cfg, lib.build s = .ok cfg) ↔ ∀ f raw, lib.Wins s f raw → ∃ x, lib.convert f raw = .ok x) ∧
    (∀ cfg, lib.build s = .ok cfg →
      (∀ f raw, lib.Wins s f raw → lib.convert f raw = .ok (cfg.value f)) ∧
      (∀ f, (∀ raw, ¬lib.Wins s f raw) → cfg.value f = f.unset) ∧
      1 ≤ cfg.debounceTicks ∧
      (∀ alphabet term, ∃ session, Session.start alphabet term cfg.debounceTicks = .ok session) ∧
      ∀ store t alphabet limit e, (cfg.startSession store t alphabet limit).1 ≠ .error (.debounce e)) ∧
    (∀ faults, lib.build s = .error faults → faults ≠ [] ∧ (faults.map (·.1)).Nodup ∧
      ∀ f fault, (f, fault) ∈ faults ↔ ∃ raw, lib.Wins s f raw ∧ lib.convert f raw = .error fault) ∧
    (∀ other : Sources lib.Raw, lib.Consistent other →
      (∀ f raw, lib.Wins s f raw ↔ lib.Wins other f raw) → lib.build s = lib.build other) ∧
    ((∀ a ∈ s.arguments, ∃ g : Field, a.1 = g.name) →
      ∀ f raw, lib.ArgumentGives s f raw ↔ (f.name, raw) ∈ s.arguments) ∧
    ∀ lines : List TextLine, (∀ line ∈ lines, line.Plain) → s.text = TextLine.join lines →
      ∀ f raw, lib.TextGives s f raw ↔ ∃ value, LinesGive lines f value ∧ raw = lib.ofText value := by
  refine ⟨⟨?_, ?_⟩, ?_, ?_, ?_, ?_, ?_⟩
  · intro hbuilt f raw hwins
    obtain ⟨cfg, hcfg⟩ := hbuilt
    exact ⟨cfg.value f, (hlib.convert_of_wins h hwins).symm.trans (hlib.build_eq_ok_iff.1 hcfg f)⟩
  · intro hvalid
    apply hlib.exists_build_eq_ok
    intro f
    apply Outcome.exists_eq_ok
    intro fault hfault
    obtain ⟨raw, hwins, hread⟩ := (hlib.convert_eq_error_iff h).1 hfault
    obtain ⟨x, hx⟩ := hvalid f raw hwins
    cases hread.symm.trans hx
  · intro cfg hcfg
    refine ⟨?_, ?_, hlib.one_le_debounceTicks hcfg, hlib.exists_start_eq_ok hcfg,
      hlib.startSession_ne_debounce hcfg⟩
    · intro f raw hwins
      exact (hlib.convert_of_wins h hwins).symm.trans (hlib.build_eq_ok_iff.1 hcfg f)
    · intro f hnone
      exact Except.ok.inj
        ((hlib.build_eq_ok_iff.1 hcfg f).symm.trans (hlib.convert_of_not_wins h hnone))
  · intro faults hfaults
    refine ⟨hlib.faults_ne_nil hfaults, ?_, ?_⟩
    · rw [hlib.build] at hfaults
      exact (hlib.validate_error hfaults).1
    · intro f fault
      rw [hlib.mem_faults_iff hfaults, hlib.convert_eq_error_iff h]
  · intro other hother hsame
    apply hlib.build_congr
    intro f
    apply Option.ext
    intro raw
    rw [hlib.merged_eq_some_iff h, hlib.merged_eq_some_iff hother, hsame]
  · intro hnames f raw
    exact hlib.argumentGives_iff hnames
  · intro lines hplain htext f raw
    exact hlib.textGives_iff hplain htext

/-! ### A sample -/

namespace Sample

/-- An argument that overrules a variable, and a text with two lines for one name. -/
def sources : Sources Settings.Raw where
  arguments := [("debounce_ticks", .int 5)]
  environment := [("rim_search_debounce_ticks", "soon")]
  text := "RIM_SEARCH_APP_NAME=old\nRIM_SEARCH_APP_NAME=new"

def lines : List TextLine :=
  [.assignment "RIM_SEARCH_APP_NAME" "old", .assignment "RIM_SEARCH_APP_NAME" "new"]

theorem plain_line {value : String} (h : value.toList.all TextLine.isVariableChar = true) :
    (TextLine.assignment "RIM_SEARCH_APP_NAME" value).Plain :=
  .assignment (by decide) (List.all_eq_true.1 (by decide)) (.word (List.all_eq_true.1 h))

theorem plain_lines : ∀ line ∈ lines, line.Plain :=
  List.forall_mem_cons.2 ⟨plain_line (by decide), List.forall_mem_singleton.2 (plain_line (by decide))⟩

theorem text_eq : sources.text = TextLine.join lines := by decide

theorem name_of_mem {name value : String} (h : .assignment name value ∈ lines) :
    name = "RIM_SEARCH_APP_NAME" := by
  rcases List.mem_cons.1 h with h | h
  · cases h
    rfl
  · cases List.mem_singleton.1 h
    rfl

theorem consistent : standard.Consistent sources where
  arguments := by
    intro f a ha b hb _ _
    exact (List.mem_singleton.1 ha).trans (List.mem_singleton.1 hb).symm
  environment := by
    intro a ha b hb _
    exact (List.mem_singleton.1 ha).trans (List.mem_singleton.1 hb).symm
  text := by
    have hname : ∀ entry ∈ lines.filterMap TextLine.assigned?, entry.1 = "RIM_SEARCH_APP_NAME" := by
      intro entry hentry
      obtain ⟨line, hmem, hline⟩ := List.mem_filterMap.1 hentry
      obtain ⟨name, value, rfl, rfl⟩ := TextLine.assigned?_eq_some_iff.1 hline
      exact name_of_mem hmem
    rw [text_eq, lawful_standard.assignments plain_lines]
    intro a ha b hb _
    rw [hname a ha, hname b hb]

theorem lower_variable (f : Field) : Text.lower (variableStart ++ f.name) = "rim_search_" ++ f.name := by
  cases f <;> decide +kernel

theorem lower_appName :
    Text.lower "RIM_SEARCH_APP_NAME" = Text.lower (variableStart ++ Field.appName.name) := by
  rw [lower_variable]
  decide +kernel

theorem argumentGives_iff {f : Field} {raw : Settings.Raw} :
    standard.ArgumentGives sources f raw ↔ (f.name, raw) = (Field.debounceTicks.name, .int 5) := by
  refine (lawful_standard.argumentGives_iff ?_).trans List.mem_singleton
  intro a ha
  cases List.mem_singleton.1 ha
  exact ⟨.debounceTicks, rfl⟩

theorem of_environmentGives {f : Field} {raw : Settings.Raw}
    (h : standard.EnvironmentGives sources f raw) : f = .debounceTicks := by
  obtain ⟨name, text, hmem, hname, -⟩ := h
  cases List.mem_singleton.1 hmem
  have hlower : Text.lower "rim_search_debounce_ticks" = "rim_search_debounce_ticks" := by decide +kernel
  rw [hlower, lower_variable] at hname
  revert hname
  cases f <;> decide

theorem of_textGives {f : Field} {raw : Settings.Raw} (h : standard.TextGives sources f raw) :
    f = .appName ∧ ∃ text, raw = .text text := by
  obtain ⟨text, ⟨before, name, after, hsplit, hname, -⟩, rfl⟩ :=
    (lawful_standard.textGives_iff plain_lines text_eq).1 h
  refine ⟨?_, text, rfl⟩
  have hmem : .assignment name text ∈ lines := hsplit ▸ List.mem_append_right _ List.mem_cons_self
  rw [name_of_mem hmem, lower_appName, lower_variable, lower_variable] at hname
  revert hname
  cases f <;> decide

theorem wins_debounceTicks : standard.Wins sources .debounceTicks (.int 5) :=
  .argument (argumentGives_iff.2 rfl)

theorem wins_appName : standard.Wins sources .appName (.text "new") := by
  have hlast : LinesGive lines .appName "new" :=
    ⟨[.assignment "RIM_SEARCH_APP_NAME" "old"], "RIM_SEARCH_APP_NAME", [], rfl, lower_appName, nofun⟩
  refine .text ?_ (fun r hr => nomatch of_environmentGives hr)
    ((lawful_standard.textGives_iff plain_lines text_eq).2 ⟨"new", hlast, rfl⟩)
  intro r hr
  have hname := (Prod.mk.inj (argumentGives_iff.1 hr)).1
  cases Field.name_inj.1 hname

/-- Nothing wins but these two, which can be converted. -/
theorem of_wins {f : Field} {raw : Settings.Raw} (h : standard.Wins sources f raw) :
    f ≠ .logLevel ∧ ∃ x, standard.convert f raw = .ok x := by
  cases h with
  | argument h =>
    obtain ⟨hname, rfl⟩ := Prod.mk.inj (argumentGives_iff.1 h)
    obtain rfl := Field.name_inj.1 hname
    exact ⟨nofun, 5, rfl⟩
  | environment hargument h =>
    obtain rfl := of_environmentGives h
    exact absurd (argumentGives_iff.2 rfl) (hargument (.int 5))
  | text _ _ h =>
    obtain ⟨rfl, text, rfl⟩ := of_textGives h
    exact ⟨nofun, text, rfl⟩

end Sample

/-- A number as an argument overrules a text that is none, and the later of two lines the earlier. -/
theorem settled_by_first_source_sample : standard.Lawful ∧ standard.Consistent Sample.sources ∧
    ∃ cfg, standard.build Sample.sources = .ok cfg ∧ cfg.debounceTicks = 5 ∧ cfg.appName = "new" ∧
      cfg.logLevel = "INFO" := by
  obtain ⟨hbuilt, hvalues, -⟩ := settled_by_first_source lawful_standard Sample.consistent
  obtain ⟨cfg, hcfg⟩ := hbuilt.2 fun f raw hwins => (Sample.of_wins hwins).2
  obtain ⟨hwins, hunset, -⟩ := hvalues cfg hcfg
  have hlogLevel : cfg.logLevel = "INFO" := hunset .logLevel fun raw hraw => (Sample.of_wins hraw).1 rfl
  exact ⟨lawful_standard, Sample.consistent, cfg, hcfg,
    (Except.ok.inj (hwins _ _ Sample.wins_debounceTicks)).symm,
    (Except.ok.inj (hwins _ _ Sample.wins_appName)).symm, hlogLevel⟩

end Settings.Library

end ColonySearch
