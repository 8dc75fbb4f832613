import Mathlib.Data.Set.Defs
import Mathlib.Logic.ExistsUnique
import ColonySearch.Proofs.Query.Term

/-!
# The grammar of terms

A term is a run of flag characters, in any order and with any repetitions, and behind it a label that does not begin with one. Every text is such a term in one way only, and reading it gives back the two parts: the set of flags that the run spells, and the label as it stands. So what a term asks for is settled by the set of characters in its run and by its label, and two terms that differ in either ask for different things.

The characters are named here flag by flag, apart from the table that reading looks them up in; `flag?_eq_some_iff` says that the two agree.
-/

namespace ColonySearch

/-- The character that switches a flag on. -/
def Flag.char : Flag → Char
  | .allMaps => '!'
  | .colonyOnly => '#'
  | .items => '.'
  | .matchAll => '*'
  | .pawns => '-'
  | .worldMap => '<'

namespace Alphabet

/-- A term can switch the flag on. That of the world map needs the larger alphabet. -/
def Allows (a : Alphabet) (f : Flag) : Prop := f = .worldMap → a.worldFlag = true

/-- The character is one of the flag characters in force. -/
def Contains (a : Alphabet) (c : Char) : Prop := ∃ f, a.Allows f ∧ f.char = c

/-- The characters of the run are those of the given flags, each at least once and no others. -/
structure Spells (a : Alphabet) (run : String) (flags : Set Flag) : Prop where
  allows : ∀ f ∈ flags, a.Allows f
  mem_iff : ∀ c, c ∈ run.toList ↔ ∃ f ∈ flags, f.char = c

/-- The label is empty or begins with a character that is no flag. -/
def Opens (a : Alphabet) (label : String) : Prop :=
  ∀ c rest, label.toList = c :: rest → ¬ a.Contains c

/-- The term is a run of flag characters with a label behind it. -/
structure Splits (a : Alphabet) (raw run label : String) : Prop where
  parts : raw = run ++ label
  run : ∀ c ∈ run.toList, a.Contains c
  label : a.Opens label

variable {a : Alphabet} {c : Char} {f : Flag} {raw run label : String} {flags : Set Flag}

/-! ### The table of characters -/

theorem flag?_char (h : a.Allows f) : a.flag? f.char = some f := by
  rcases a with ⟨_ | _⟩
  · cases f with
    | worldMap => cases h rfl
    | _ => rfl
  · cases f <;> rfl

theorem of_mem_entries (h : (c, f) ∈ a.entries) : a.Allows f ∧ f.char = c := by
  rw [entries, List.mem_append] at h
  rcases h with h | h
  · simp only [List.mem_cons, Prod.mk.injEq, List.not_mem_nil, or_false] at h
    rcases h with ⟨rfl, rfl⟩ | ⟨rfl, rfl⟩ | ⟨rfl, rfl⟩ | ⟨rfl, rfl⟩ | ⟨rfl, rfl⟩ <;>
      exact ⟨nofun, rfl⟩
  · split at h
    · next hworld =>
      cases List.mem_singleton.1 h
      exact ⟨fun _ => hworld, rfl⟩
    · cases h

theorem flag?_eq_some_iff : a.flag? c = some f ↔ a.Allows f ∧ f.char = c := by
  constructor
  · intro h
    obtain ⟨before, after, hentries, _⟩ := List.lookup_eq_some_iff.1 h
    apply of_mem_entries
    rw [hentries]
    exact List.mem_append_right before List.mem_cons_self
  · intro h
    obtain ⟨hallows, rfl⟩ := h
    exact flag?_char hallows

theorem isFlag_iff : a.isFlag c = true ↔ a.Contains c := by
  rw [isFlag, Option.isSome_iff_exists]
  exact exists_congr fun f => flag?_eq_some_iff

theorem Opens.isLabel (h : a.Opens label) : a.IsLabel label.toList := by
  intro c rest hlabel
  rw [← Bool.not_eq_true, isFlag_iff]
  exact h c rest hlabel

/-! ### Runs -/

theorem mem_filterMap_flag? {chars : List Char} :
    f ∈ chars.filterMap a.flag? ↔ a.Allows f ∧ f.char ∈ chars := by
  rw [List.mem_filterMap]
  constructor
  · intro h
    obtain ⟨c, hc, hf⟩ := h
    obtain ⟨hallows, rfl⟩ := flag?_eq_some_iff.1 hf
    exact ⟨hallows, hc⟩
  · intro h
    exact ⟨f.char, h.2, flag?_char h.1⟩

theorem char_inj {f f' : Flag} (h : f.char = f'.char) : f = f' := by
  cases f <;> cases f' <;> first | rfl | exact absurd h (by decide)

theorem Spells.mem_flags_iff (h : a.Spells run flags) : f ∈ flags ↔ a.Allows f ∧ f.char ∈ run.toList := by
  rw [h.mem_iff]
  constructor
  · intro hf
    exact ⟨h.allows f hf, f, hf, rfl⟩
  · intro hf
    obtain ⟨_, f', hf', hchar⟩ := hf
    exact char_inj hchar ▸ hf'

theorem Spells.splits (h : a.Spells run flags) (hlabel : a.Opens label) :
    a.Splits (run ++ label) run label where
  parts := rfl
  run c hc := by
    obtain ⟨f, hf, hchar⟩ := (h.mem_iff c).1 hc
    exact ⟨f, h.allows f hf, hchar⟩
  label := hlabel

/-- Runs that spell the same flags have the same characters. -/
theorem forall_mem_iff_of_splits {raw' run' label' : String} (h : a.Splits raw run label)
    (h' : a.Splits raw' run' label') :
    (∀ c, c ∈ run.toList ↔ c ∈ run'.toList) ↔
      ∀ f, a.Allows f → (f.char ∈ run.toList ↔ f.char ∈ run'.toList) := by
  constructor
  · intro hsame f _
    exact hsame f.char
  · intro hsame c
    constructor
    · intro hc
      obtain ⟨f, hallows, rfl⟩ := h.run c hc
      exact (hsame f hallows).1 hc
    · intro hc
      obtain ⟨f, hallows, rfl⟩ := h'.run c hc
      exact (hsame f hallows).2 hc

end Alphabet

namespace Query

open Alphabet

variable {a : Alphabet} {raw raw' run run' label label' : String} {f : Flag}

theorem has_ofFlags {flags : List Flag} : (ofFlags raw flags label).has f = flags.contains f := by
  cases f <;> rfl

/-- Two queries agree in all but their terms exactly if they have the same labels and the same flags. -/
theorem setRaw_eq_iff {q q' : Query} (hraw : q'.raw = raw) : { q with raw := raw } = q' ↔
    (∀ f, q.has f = q'.has f) ∧ q.label = q'.label ∧ q.debugLabel = q'.debugLabel := by
  subst hraw
  constructor
  · intro h
    rw [← h]
    refine ⟨?_, rfl, rfl⟩
    intro f
    cases f <;> rfl
  · intro h
    obtain ⟨hhas, hlabel, hdebug⟩ := h
    cases q
    cases q'
    simp only [mk.injEq, true_and]
    exact ⟨hlabel, hhas .allMaps, hhas .worldMap, hhas .pawns, hhas .colonyOnly, hhas .items,
      hhas .matchAll, hdebug⟩

theorem parse_of_splits (h : a.Splits raw run label) :
    parse a raw = ofFlags raw (run.toList.filterMap a.flag?) label := by
  have hraw : raw.toList = run.toList ++ label.toList := by rw [h.parts, String.toList_append]
  have hflags : ∀ c ∈ run.toList, a.isFlag c = true := fun c hc => isFlag_iff.2 (h.run c hc)
  rw [parse_of_parts hraw hflags h.label.isLabel, String.ofList_toList]

theorem has_parse_iff (h : a.Splits raw run label) :
    (parse a raw).has f = true ↔ a.Allows f ∧ f.char ∈ run.toList := by
  rw [parse_of_splits h, has_ofFlags, List.contains_iff_mem, mem_filterMap_flag?]

theorem exists_splits (a : Alphabet) (raw : String) : ∃ run label, a.Splits raw run label := by
  obtain ⟨flags, label, hraw, hflags, hlabel⟩ := exists_parts a raw
  refine ⟨String.ofList flags, String.ofList label, ?_, ?_, ?_⟩
  · rw [← String.ofList_append, ← hraw, String.ofList_toList]
  · intro c hc
    rw [String.toList_ofList] at hc
    exact isFlag_iff.1 (hflags c hc)
  · intro c rest hrest
    rw [String.toList_ofList] at hrest
    rw [← isFlag_iff, hlabel c rest hrest]
    exact Bool.false_ne_true

/-- The label is what reading finds, and the run is what stands in front of it. -/
theorem splits_unique (h : a.Splits raw run label) (h' : a.Splits raw run' label') :
    run = run' ∧ label = label' := by
  have hlabel : label = label' := by
    have hread := parse_of_splits h
    rw [parse_of_splits h'] at hread
    exact (congrArg Query.label hread).symm
  refine ⟨?_, hlabel⟩
  have hparts : run.toList ++ label.toList = run'.toList ++ label.toList := by
    rw [← String.toList_append, ← h.parts, h'.parts, String.toList_append, hlabel]
  exact String.toList_inj.1 (List.append_cancel_right hparts)

end Query

/-- The grammar of terms, both ways. A run that spells a set of flags, with a label behind it, is read as exactly these flags and this label; every text is a run and a label in exactly one way; and two terms ask for the same thing if and only if their runs have the same characters and their labels are the same. -/
theorem term_grammar (a : Alphabet) :
    (∀ (flags : Set Flag) (run label : String), a.Spells run flags → a.Opens label →
      (Query.parse a (run ++ label)).raw = run ++ label ∧
      (Query.parse a (run ++ label)).label = label ∧
      (Query.parse a (run ++ label)).debugLabel = label ∧
      ∀ f, (Query.parse a (run ++ label)).has f = true ↔ f ∈ flags) ∧
    (∀ raw : String, ∃! parts : String × String, a.Splits raw parts.1 parts.2) ∧
    (∀ raw raw' run run' label label' : String,
      a.Splits raw run label → a.Splits raw' run' label' →
      ({ Query.parse a raw with raw := raw' } = Query.parse a raw' ↔
        (∀ c, c ∈ run.toList ↔ c ∈ run'.toList) ∧ label = label')) := by
  refine ⟨?_, ?_, ?_⟩
  · intro flags run label hrun hlabel
    have hsplits := hrun.splits hlabel
    have hhas : ∀ f, (Query.parse a (run ++ label)).has f = true ↔ f ∈ flags := by
      intro f
      rw [Query.has_parse_iff hsplits, hrun.mem_flags_iff]
    rw [Query.parse_of_splits hsplits] at hhas ⊢
    exact ⟨rfl, rfl, rfl, hhas⟩
  · intro raw
    obtain ⟨run, label, hsplits⟩ := Query.exists_splits a raw
    refine ⟨(run, label), hsplits, ?_⟩
    intro parts hparts
    obtain ⟨hrun, hlabel⟩ := Query.splits_unique hparts hsplits
    exact Prod.ext hrun hlabel
  · intro raw raw' run run' label label' h h'
    have hhas : (∀ f, (Query.parse a raw).has f = (Query.parse a raw').has f) ↔
        ∀ c, c ∈ run.toList ↔ c ∈ run'.toList := by
      rw [Alphabet.forall_mem_iff_of_splits h h']
      apply forall_congr'
      intro f
      rw [Bool.eq_iff_iff, Query.has_parse_iff h, Query.has_parse_iff h']
      exact and_congr_right_iff
    have hlabels : (Query.parse a raw).label = (Query.parse a raw').label ∧
        (Query.parse a raw).debugLabel = (Query.parse a raw').debugLabel ↔ label = label' := by
      rw [Query.parse_of_splits h, Query.parse_of_splits h']
      exact and_self_iff
    rw [← hhas, ← hlabels]
    exact Query.setRaw_eq_iff rfl

namespace Sample

def flags : Set Flag := {f | f = .worldMap ∨ f = .pawns}

theorem spells_flags {run : String} (hrun : ∀ c, c ∈ run.toList ↔ c = '<' ∨ c = '-') :
    Alphabet.Spells ⟨true⟩ run flags where
  allows _ _ := fun _ => rfl
  mem_iff c := by
    rw [hrun]
    constructor
    · intro hc
      rcases hc with rfl | rfl
      · exact ⟨.worldMap, Or.inl rfl, rfl⟩
      · exact ⟨.pawns, Or.inr rfl, rfl⟩
    · intro hc
      obtain ⟨f, rfl | rfl, rfl⟩ := hc
      · exact Or.inl rfl
      · exact Or.inr rfl

theorem spells_short : Alphabet.Spells ⟨true⟩ "<-" flags := by
  apply spells_flags
  intro c
  rw [show "<-".toList = ['<', '-'] from rfl]
  simp

/-- The same flags in another order and with a repetition. -/
theorem spells_long : Alphabet.Spells ⟨true⟩ "-<-" flags := by
  apply spells_flags
  intro c
  rw [show "-<-".toList = ['-', '<', '-'] from rfl]
  simp only [List.mem_cons, List.not_mem_nil, or_false]
  grind

/-- Flag characters behind the beginning of the label. -/
theorem opens_label : Alphabet.Opens ⟨true⟩ "a-<" := by
  intro c rest h
  cases h
  rw [← Alphabet.isFlag_iff]
  decide

end Sample

theorem term_grammar_sample :
    ((Query.parse ⟨true⟩ ("-<-" ++ "a-<")).label = "a-<" ∧
      ∀ f, (Query.parse ⟨true⟩ ("-<-" ++ "a-<")).has f = true ↔ f ∈ Sample.flags) ∧
    (∃! parts : String × String, Alphabet.Splits ⟨true⟩ "-<-a-<" parts.1 parts.2) ∧
    { Query.parse ⟨true⟩ "-<-a-<" with raw := "<-a-<" } = Query.parse ⟨true⟩ "<-a-<" := by
  obtain ⟨hread, hsplit, hsame⟩ := term_grammar ⟨true⟩
  obtain ⟨_, hlabel, _, hhas⟩ := hread _ _ _ Sample.spells_long Sample.opens_label
  have hlong : Alphabet.Splits ⟨true⟩ "-<-a-<" "-<-" "a-<" :=
    Sample.spells_long.splits Sample.opens_label
  have hshort : Alphabet.Splits ⟨true⟩ "<-a-<" "<-" "a-<" :=
    Sample.spells_short.splits Sample.opens_label
  refine ⟨⟨hlabel, hhas⟩, hsplit _, (hsame _ _ _ _ _ _ hlong hshort).2 ⟨?_, rfl⟩⟩
  intro c
  rw [Sample.spells_long.mem_iff, Sample.spells_short.mem_iff]

end ColonySearch
