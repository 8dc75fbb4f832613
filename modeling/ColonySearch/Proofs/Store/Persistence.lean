import ColonySearch.Proofs.Json.RoundTrip
import ColonySearch.Proofs.Store.Loading
import Mathlib.Control.Monad.Basic

/-!
# Stored terms survive

The document of a term is a line of printable ASCII, and reading its bytes gives the term back. A successful save leaves the document in the file that its path then names, and no other save touches that file, so the file goes on holding the term that was last saved to it. Whoever loads from the file, under whatever path, gets the term.
-/

namespace ColonySearch.TermStore

open FileTree Json Text Text.Utf8

/-! ### The document of a term -/

theorem tokens_documentOf (term : String) :
    tokens (documentOf term) = [.openObject, .text key, .colon, .text term, .closeObject] := by
  have hopen := tokens_mark (c := '\x7b') rfl rfl (by nofun)
  have hcolon := tokens_mark (c := ':') rfl rfl (by nofun)
  have hclose := tokens_mark (c := '\x7d') rfl rfl (by nofun)
  simp only [documentOf, List.cons_append, List.append_assoc, List.nil_append]
  rw [hopen, tokens_writeText, hcolon, tokens_space rfl, tokens_writeText, hclose, tokens_space rfl,
    tokens]

theorem read_documentOf (term : String) :
    Json.read (documentOf term) = .ok (.object [(key, .text term)]) := by
  rw [Json.read, bounded, tokens_documentOf]
  rfl

theorem documentOf_eq (term : String) :
    ∃ line, documentOf term = line ++ ['\n'] ∧ ∀ c ∈ line, IsPlain c := by
  refine ⟨'\x7b' :: writeText key ++ [':', ' '] ++ writeText term ++ ['\x7d'], ?_, ?_⟩
  · simp only [documentOf, List.append_assoc, List.cons_append, List.nil_append]
  · intro c hc
    simp only [List.mem_append, List.mem_cons, List.not_mem_nil, or_false] at hc
    rcases hc with (((rfl | hc) | rfl | rfl) | hc) | rfl
    · decide
    · exact isPlain_of_mem_writeText hc
    · decide
    · decide
    · exact isPlain_of_mem_writeText hc
    · decide

def fileOf (term : String) : List UInt8 := encode (documentOf term)

theorem toNat_lt_of_mem_documentOf {term : String} {c : Char} (h : c ∈ documentOf term) :
    c.toNat < 0x80 := by
  obtain ⟨line, hline, hplain⟩ := documentOf_eq term
  rw [hline, List.mem_append, List.mem_singleton] at h
  obtain h | rfl := h
  · have : c.toNat ≤ 0x7E := (hplain c h).2
    omega
  · decide

theorem fileOf_eq (term : String) :
    ∃ line, fileOf term = line ++ [0x0A] ∧ ∀ byte ∈ line, 0x20 ≤ byte ∧ byte ≤ 0x7E := by
  obtain ⟨line, hline, hplain⟩ := documentOf_eq term
  refine ⟨line.map fun c => UInt8.ofNat c.toNat, ?_, ?_⟩
  · rw [fileOf, encode_of_ascii fun c => toNat_lt_of_mem_documentOf, hline, List.map_append]
    rfl
  · intro byte hbyte
    obtain ⟨c, hc, rfl⟩ := List.mem_map.1 hbyte
    obtain ⟨hlow, hhigh⟩ : 0x20 ≤ c.toNat ∧ c.toNat ≤ 0x7E := hplain c hc
    rw [UInt8.le_iff_toNat_le, UInt8.le_iff_toNat_le, toNat_byte (by omega)]
    exact ⟨hlow, hhigh⟩

/-- What is written is read back, whatever the fallback. -/
theorem interpret_fileOf (s : TermStore) (term : String) : s.interpret (fileOf term) = ⟨.ok term, []⟩ := by
  have hends : unifyLineEnds (documentOf term) = documentOf term := by
    apply unifyLineEnds_of_not_mem
    obtain ⟨line, hline, hplain⟩ := documentOf_eq term
    intro h
    rw [hline, List.mem_append, List.mem_singleton] at h
    obtain h | h := h
    · exact absurd (hplain '\r' h) (by decide)
    · cases h
  rw [interpret, fileOf, decode_encode]
  dsimp only
  rw [hends, read_documentOf]
  rfl

/-! ### Saving and loading -/

/-- The directories have been made and the file has been opened, and this is the tree with the bytes in the file. -/
structure Puts (s : TermStore) (t : FileTree) (file : List String) (bytes : List UInt8) (t' : FileTree) :
    Prop where
  exists_made : ∃ made, AddsDirectories t made ∧ made.place true s.path = .ok file ∧ made.IsFree file ∧
    t' = made.setEntry file (.file bytes)
  accessible : t.refuses .access file = none

/-- A save fails before the file is opened, having made directories at most, or it puts as many bytes into the file as the transfer leaves there. -/
theorem save_cases (s : TermStore) (t : FileTree) (term : String) (transfer : Transfer)
    (limit : Option Nat) :
    (∃ e, (s.save t term transfer limit).outcome = .error e ∧ (s.save t term transfer limit).log = [] ∧
      AddsDirectories t (s.save t term transfer limit).tree) ∨
    ∃ file, s.Puts t file (transfer.keep (fileOf term)) (s.save t term transfer limit).tree ∧
      (s.save t term transfer limit).outcome = transfer.outcome.mapError .file ∧
      (s.save t term transfer limit).log =
        if transfer.failure? = none then [.termSaved s.path.text term] else [] := by
  have hmade := addsDirectories_makeDirectories t s.path.parent limit
  unfold save
  split
  · next made e hparent =>
    rw [hparent] at hmade
    exact Or.inl ⟨e, rfl, rfl, hmade⟩
  · next made hparent =>
    rw [hparent] at hmade
    unfold write
    cases hopen : made.openEmpty s.path with
    | error e => exact Or.inl ⟨.file e, rfl, rfl, hmade⟩
    | ok opened =>
      obtain ⟨t', file⟩ := opened
      obtain ⟨hplace, hfree, haccess, _, rfl⟩ := openEmpty_eq_ok_iff.1 hopen
      have hputs : s.Puts t file (transfer.keep (fileOf term))
          ((made.setEntry file (.file [])).setEntry file (.file (transfer.keep (fileOf term)))) :=
        ⟨⟨made, hmade, hplace, hfree, setEntry_setEntry _ _⟩, hmade.refuses ▸ haccess⟩
      right
      refine ⟨file, ?_⟩
      dsimp only
      cases hfailure : transfer.failure? with
      | none =>
        have houtcome : transfer.outcome = .ok () := by rw [Transfer.outcome, hfailure]
        rw [houtcome]
        exact ⟨hputs, rfl, rfl⟩
      | some errno =>
        have houtcome : transfer.outcome = .error (.system errno) := by rw [Transfer.outcome, hfailure]
        rw [houtcome]
        exact ⟨hputs, rfl, rfl⟩

section Puts

variable {s : TermStore} {t t' : FileTree} {file : List String} {bytes : List UInt8}

theorem Puts.keeps (h : s.Puts t file bytes t') : Keeps t t' := by
  obtain ⟨made, hmade, _, hfree, rfl⟩ := h.exists_made
  exact hmade.keeps.trans (keeps_setEntry hfree nofun)

theorem Puts.get?_eq (h : s.Puts t file bytes t') : t'.get? file = some (.file bytes) := by
  obtain ⟨made, _, _, hfree, rfl⟩ := h.exists_made
  exact get?_setEntry_self hfree.ne_directory _

theorem Puts.locate_eq (h : s.Puts t file bytes t') : t'.locate s.path = .ok file := by
  obtain ⟨made, _, hplace, hfree, rfl⟩ := h.exists_made
  exact locate_of_place hplace hfree

theorem Puts.hasFile (h : s.Puts t file bytes t') : t'.HasFile s.path bytes :=
  ⟨file, h.locate_eq, h.get?_eq, h.keeps.refuses ▸ h.accessible⟩

/-- Elsewhere nothing has come but directories. -/
theorem Puts.get?_of_ne {names : List String} (h : s.Puts t file bytes t') (hother : names ≠ file) :
    t'.get? names = t.get? names ∨ t.get? names = none ∧ t'.get? names = some .directory := by
  obtain ⟨made, hmade, _, _, rfl⟩ := h.exists_made
  rw [get?_setEntry_of_ne hother]
  exact hmade.entry names

end Puts

/-- The term is what the file gives back: every store whose path leads to the file loads the term and logs nothing, and a session started from it has the term, is clean and has no results. -/
def Remembers (t : FileTree) (file : List String) (term : String) : Prop :=
  ∀ s : TermStore, t.locate s.path = .ok file → s.load t = ⟨.ok term, []⟩ ∧
    ∀ (cfg : Settings) (alphabet : Alphabet), 1 ≤ cfg.debounceTicks →
      ∃ session, cfg.startSession s t alphabet = (.ok session, []) ∧
        session.term = term ∧ session.dirty = false ∧ session.results = none

theorem remembers_of_entry {t : FileTree} {file : List String} {term : String}
    (h : t.get? file = some (.file (fileOf term))) (haccess : t.refuses .access file = none) :
    Remembers t file term := by
  intro s hlocate
  have hload : s.load t = ⟨.ok term, []⟩ := by
    rw [load_eq_interpret ⟨file, hlocate, h, haccess⟩, interpret_fileOf]
  refine ⟨hload, fun cfg alphabet hticks => ?_⟩
  refine ⟨⟨alphabet, term, cfg.debounceTicks.toNat, by omega, false, 0, none⟩, ?_, rfl, rfl, rfl⟩
  rw [Settings.startSession, hload]
  dsimp only
  rw [Session.start, dif_pos hticks]

/-! ### Many saves -/

/-- The tree after saves, one after the other, whether they succeed or not. -/
def saveAll (t : FileTree) : List (TermStore × String) → FileTree
  | [] => t
  | (s, term) :: rest => saveAll (s.save t term).tree rest

/-- The file that a save has left the term in, if it succeeds. -/
def savedFile? (s : TermStore) (t : FileTree) (term : String) : Option (List String) :=
  match (s.save t term).outcome with
  | .ok () => ((s.save t term).tree.locate s.path).toOption
  | .error _ => none

/-- The term that was last saved to a file. -/
def lastSaved (t : FileTree) (file : List String) : List (TermStore × String) → Option String
  | [] => none
  | (s, term) :: rest =>
    (lastSaved (s.save t term).tree file rest).or
      (if s.savedFile? t term = some file then some term else none)

section Saves

variable {s : TermStore} {t : FileTree} {term : String} {file : List String} {bytes : List UInt8}

/-- A save without mishap fails before the file is opened, or puts the whole document into it. -/
theorem save_cases_whole (s : TermStore) (t : FileTree) (term : String) :
    (∃ e, (s.save t term).outcome = .error e ∧ AddsDirectories t (s.save t term).tree) ∨
      (s.save t term).outcome = .ok () ∧ ∃ file, s.Puts t file (fileOf term) (s.save t term).tree := by
  obtain ⟨e, hfailed, _, hmade⟩ | ⟨file, hputs, hsaved, _⟩ := s.save_cases t term {} none
  · exact Or.inl ⟨e, hfailed, hmade⟩
  · exact Or.inr ⟨hsaved, file, hputs⟩

theorem keeps_save (s : TermStore) (t : FileTree) (term : String) : Keeps t (s.save t term).tree := by
  obtain ⟨e, _, hmade⟩ | ⟨_, file, hputs⟩ := s.save_cases_whole t term
  · exact hmade.keeps
  · exact hputs.keeps

theorem keeps_saveAll (t : FileTree) (saves : List (TermStore × String)) : Keeps t (saveAll t saves) := by
  induction saves generalizing t with
  | nil => exact .refl t
  | cons save rest ih => exact (keeps_save save.1 t save.2).trans (ih _)

theorem savedFile?_eq_some (h : s.savedFile? t term = some file) :
    s.Puts t file (fileOf term) (s.save t term).tree := by
  unfold savedFile? at h
  obtain ⟨e, hfailed, _⟩ | ⟨hsaved, file', hputs⟩ := s.save_cases_whole t term
  · rw [hfailed] at h
    cases h
  · rw [hsaved, hputs.locate_eq] at h
    cases h
    exact hputs

theorem exists_savedFile? (h : (s.save t term).outcome = .ok ()) :
    ∃ file, s.savedFile? t term = some file := by
  obtain ⟨e, hfailed, _⟩ | ⟨_, file, hputs⟩ := s.save_cases_whole t term
  · rw [hfailed] at h
    cases h
  · refine ⟨file, ?_⟩
    rw [savedFile?, h, hputs.locate_eq]
    rfl

/-- A file that is not saved to keeps its bytes. -/
theorem file_of_save (h : s.savedFile? t term ≠ some file) (hfile : t.get? file = some (.file bytes)) :
    (s.save t term).tree.get? file = some (.file bytes) := by
  unfold savedFile? at h
  obtain ⟨e, _, hmade⟩ | ⟨hsaved, file', hputs⟩ := s.save_cases_whole t term
  · exact hmade.file_eq hfile
  · rw [hsaved, hputs.locate_eq] at h
    have hne : file ≠ file' := by
      rintro rfl
      exact h rfl
    obtain hsame | ⟨hnone, _⟩ := hputs.get?_of_ne hne
    · rw [hsame, hfile]
    · rw [hfile] at hnone
      cases hnone

theorem file_of_saveAll {saves : List (TermStore × String)} (h : lastSaved t file saves = none)
    (hfile : t.get? file = some (.file bytes)) :
    (saveAll t saves).get? file = some (.file bytes) := by
  induction saves generalizing t with
  | nil => exact hfile
  | cons save rest ih =>
    rw [lastSaved, Option.or_eq_none_iff] at h
    apply ih h.1
    apply file_of_save _ hfile
    intro hsaved
    rw [if_pos hsaved] at h
    cases h.2

/-- The file holds the term that was last saved to it, and the store that saved it still leads there. -/
theorem lastSaved_eq_some {saves : List (TermStore × String)} (h : lastSaved t file saves = some term) :
    (saveAll t saves).get? file = some (.file (fileOf term)) ∧ t.refuses .access file = none ∧
      ∃ s, (s, term) ∈ saves ∧ (saveAll t saves).locate s.path = .ok file := by
  induction saves generalizing t with
  | nil => cases h
  | cons save rest ih =>
    rw [lastSaved, Option.or_eq_some_iff] at h
    rw [saveAll]
    -- Either a later save was the last, or this one was and nothing after it touches the file.
    obtain h | ⟨hnone, h⟩ := h
    · obtain ⟨hfile, haccess, s, hmem, hlocate⟩ := ih h
      rw [(keeps_save save.1 t save.2).refuses] at haccess
      exact ⟨hfile, haccess, s, List.mem_cons_of_mem save hmem, hlocate⟩
    · split at h
      · rename_i hsaved
        cases h
        have hputs := savedFile?_eq_some hsaved
        exact ⟨file_of_saveAll hnone hputs.get?_eq, hputs.accessible, save.1, List.mem_cons_self,
          (keeps_saveAll _ rest).locate_eq hputs.locate_eq⟩
      · cases h

end Saves

/-- Stored terms survive exactly. A save that succeeds leaves a file at its path, one line of printable ASCII with a line feed, that gives the term back; and after any saves a file gives back the term that was last saved to it. -/
theorem stored_terms_survive (t : FileTree) :
    (∀ (s : TermStore) (term : String), (s.save t term).outcome = .ok () →
      ∃ file line, (s.save t term).tree.locate s.path = .ok file ∧
        (s.save t term).tree.contents s.path = .ok (line ++ [0x0A]) ∧
        (∀ byte ∈ line, 0x20 ≤ byte ∧ byte ≤ 0x7E) ∧ Remembers (s.save t term).tree file term) ∧
    ∀ (saves : List (TermStore × String)) (file : List String) (term : String),
      lastSaved t file saves = some term → Remembers (saveAll t saves) file term ∧
        ∃ s, (s, term) ∈ saves ∧ (saveAll t saves).locate s.path = .ok file := by
  constructor
  · intro s term hsaved
    obtain ⟨file, hsaved⟩ := exists_savedFile? hsaved
    have hputs := savedFile?_eq_some hsaved
    obtain ⟨line, hline, hplain⟩ := fileOf_eq term
    refine ⟨file, line, hputs.locate_eq, ?_, hplain, ?_⟩
    · rw [← hline]
      exact contents_eq_ok_iff.2 hputs.hasFile
    · exact remembers_of_entry hputs.get?_eq (hputs.keeps.refuses ▸ hputs.accessible)
  · intro saves file term h
    obtain ⟨hfile, haccess, hstore⟩ := lastSaved_eq_some h
    exact ⟨remembers_of_entry hfile ((keeps_saveAll t saves).refuses ▸ haccess), hstore⟩

/-! ### A file under two paths -/

namespace Sample

def direct : TermStore := ⟨.ofText "/home/u/.config/terms.json", "-."⟩

def roundabout : TermStore := ⟨.ofText "/home/u/.config/../.config//terms.json", "*"⟩

def elsewhere : TermStore := ⟨.ofText "notes/terms.json", ""⟩

def file : List String := ["home", "u", ".config", "terms.json"]

/-- A quote, a backslash, a delete character, a line separator and a character beyond sixteen bits. -/
def term : String := "\"\\\x7f\u2028😀"

def saves : List (TermStore × String) := [(direct, "-."), (roundabout, term), (elsewhere, "!")]

end Sample

theorem stored_terms_survive_sample :
    (Sample.direct.save {} Sample.term).outcome = .ok () ∧
    (∃ file line, (Sample.direct.save {} Sample.term).tree.locate Sample.direct.path = .ok file ∧
      (Sample.direct.save {} Sample.term).tree.contents Sample.direct.path = .ok (line ++ [0x0A]) ∧
      (∀ byte ∈ line, 0x20 ≤ byte ∧ byte ≤ 0x7E) ∧
      Remembers (Sample.direct.save {} Sample.term).tree file Sample.term) ∧
    lastSaved {} Sample.file Sample.saves = some Sample.term ∧
    (saveAll {} Sample.saves).locate Sample.direct.path = .ok Sample.file ∧
    Sample.direct.load (saveAll {} Sample.saves) = ⟨.ok Sample.term, []⟩ := by
  have hsaved : (Sample.direct.save {} Sample.term).outcome = .ok () := by decide +kernel
  have hlast : lastSaved {} Sample.file Sample.saves = some Sample.term := by decide +kernel
  have hlocate : (saveAll {} Sample.saves).locate Sample.direct.path = .ok Sample.file := by
    decide +kernel
  obtain ⟨hsurvives, _⟩ := (stored_terms_survive {}).2 Sample.saves Sample.file Sample.term hlast
  exact ⟨hsaved, (stored_terms_survive {}).1 Sample.direct Sample.term hsaved, hlast, hlocate,
    (hsurvives Sample.direct hlocate).1⟩

end ColonySearch.TermStore
