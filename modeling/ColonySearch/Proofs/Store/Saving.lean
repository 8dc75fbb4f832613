import ColonySearch.Proofs.Store.Persistence

/-!
# What saving leaves alone

A save makes the directories that are missing, one after the other, then opens the file, which empties it, and writes the document. Whichever step fails before the file is open, no file has changed by then: directories only come where nothing was. Once the file is open its old content is gone, and a write that breaks off leaves a beginning of the document behind, in a file that may be new. No other file is touched either way, and a save that succeeds has written to the file at its path in a directory that stands in directories all the way up.
-/

namespace ColonySearch

open FileTree

/-- The names lead to a file with certain bytes after the change exactly if they did so before. -/
def FileTree.SameFile (t t' : FileTree) (names : List String) : Prop :=
  ∀ bytes, t'.get? names = some (.file bytes) ↔ t.get? names = some (.file bytes)

theorem FileTree.sameFile_of_entry {t t' : FileTree} {names : List String}
    (h : t'.get? names = t.get? names ∨ t.get? names = none ∧ t'.get? names = some .directory) :
    SameFile t t' names := by
  intro bytes
  obtain hsame | ⟨hnone, hmade⟩ := h
  · rw [hsame]
  · rw [hnone, hmade]
    exact iff_of_false nofun nofun

theorem FileTree.Transfer.keep_prefix (x : Transfer) (bytes : List UInt8) : x.keep bytes <+: bytes := by
  unfold Transfer.keep
  split
  · exact List.prefix_rfl
  · exact List.take_prefix _ bytes

theorem FileTree.Transfer.keep_eq {x : Transfer} (h : x.kept? = none) (bytes : List UInt8) :
    x.keep bytes = bytes := by
  rw [Transfer.keep, h]

namespace TermStore

open Text.Utf8

theorem stores_documentOf (term : String) : Stores (documentOf term) term :=
  stores_iff.2 ⟨_, Json.document_of_read (read_documentOf term), rfl⟩

/-- The file at the path of the store holds a beginning of the document, all of it if the device keeps what it is given, and every other file is as it was. -/
def Replaces (s : TermStore) (t t' : FileTree) (transfer : Transfer) (document : List Char) : Prop :=
  ∃ file bytes, t'.locate s.path = .ok file ∧ t'.get? file = some (.file bytes) ∧
    bytes <+: encode document ∧ (transfer.kept? = none → bytes = encode document) ∧
    ∀ names, names ≠ file → SameFile t t' names

/-- A file that was written to has a name: no directory is a file. -/
theorem Puts.parts_ne_nil {s : TermStore} {t t' : FileTree} {file : List String} {bytes : List UInt8}
    (h : s.Puts t file bytes t') : s.path.parts ≠ [] := by
  obtain ⟨made, _, hplace, hfree, _⟩ := h.exists_made
  obtain ⟨_, hstart, hleads⟩ := place_eq_ok_iff.1 hplace
  intro hparts
  rw [hparts] at hleads
  cases hleads
  exact hfree.ne_directory hstart

/-- Saving damages no other data. A save that fails reports nothing, and it has made directories at most, unless the write itself broke off with the file open; then the file at its path holds a beginning of a document that stores the term. A save that succeeds leaves that document there, as much of it as the device keeps, with directories all the way above, and reports the path and the term once. Every other file is as it was. -/
theorem saving_damages_nothing (s : TermStore) (t : FileTree) (term : String) (transfer : Transfer)
    (limit : Option Nat) :
    ∃ document, Stores document term ∧
      (∀ e, (s.save t term transfer limit).outcome = .error e → (s.save t term transfer limit).log = [] ∧
        (AddsDirectories t (s.save t term transfer limit).tree ∧
            (∀ names, SameFile t (s.save t term transfer limit).tree names) ∨
          (∃ errno, transfer.failure? = some errno ∧ e = .file (.system errno)) ∧
            s.Replaces t (s.save t term transfer limit).tree transfer document)) ∧
      ((s.save t term transfer limit).outcome = .ok () →
        s.Replaces t (s.save t term transfer limit).tree transfer document ∧
          (∀ n, (s.save t term transfer limit).tree.isDirectory (Path.parent^[n + 1] s.path) = .ok true) ∧
          (s.save t term transfer limit).log = [.termSaved s.path.text term]) := by
  refine ⟨documentOf term, stores_documentOf term, ?_⟩
  obtain ⟨e, hfailed, hlog, hmade⟩ | ⟨file, hputs, houtcome, hlog⟩ := s.save_cases t term transfer limit
  · constructor
    · intro _ _
      exact ⟨hlog, Or.inl ⟨hmade, fun names => sameFile_of_entry (hmade.entry names)⟩⟩
    · intro hsaved
      rw [hfailed] at hsaved
      cases hsaved
  · have hreplaces : s.Replaces t (s.save t term transfer limit).tree transfer (documentOf term) := by
      refine ⟨file, _, hputs.locate_eq, hputs.get?_eq, transfer.keep_prefix _, ?_, ?_⟩
      · intro hwhole
        exact Transfer.keep_eq hwhole _
      · intro names hother
        exact sameFile_of_entry (hputs.get?_of_ne hother)
    rw [houtcome, hlog, Transfer.outcome]
    cases hfailure : transfer.failure? with
    | none =>
      refine ⟨fun e h => ?_, fun _ => ⟨hreplaces, ?_, rfl⟩⟩
      · cases h
      · exact isDirectory_iterate_parent hputs.locate_eq hputs.parts_ne_nil
    | some errno =>
      constructor
      · intro e h
        cases h
        exact ⟨rfl, Or.inr ⟨⟨errno, rfl, rfl⟩, hreplaces⟩⟩
      · intro h
        cases h

/-! ### A file in the way -/

namespace Sample

/-- A file, with nothing else about. -/
def notes : FileTree := ({} : FileTree).setEntry ["notes"] (.file [0x21])

def blocked : TermStore := ⟨.ofText "/new/../notes/terms.json", "*"⟩

def free : TermStore := ⟨.ofText "/new/../kept/terms.json", "*"⟩

/-- A store that keeps its term in the file. -/
def overwriting : TermStore := ⟨.ofText "/notes", "*"⟩

/-- The disk has room for three bytes. -/
def fullDisk : Transfer := ⟨some 3, some ⟨28⟩⟩

/-- A device that reports success for what it drops. -/
def nullDevice : Transfer := ⟨some 0, none⟩

theorem not_stores_nil (term : String) : ¬ Stores [] term := by
  rintro ⟨_, _, ⟨tokens, hlexes, hwritten⟩, _⟩
  generalize htext : ([] : List Char) = text at hlexes
  cases hlexes with
  | nil => exact absurd hwritten.length_pos (Nat.lt_irrefl 0)
  | blank => cases htext
  | lexeme hl =>
    obtain ⟨c, more, rfl, _⟩ := hl.exists_cons
    cases htext

end Sample

/-- One save fails over a file in the way, having made a directory before it got there; one fails on a full disk with the file open; and one succeeds. -/
theorem saving_damages_nothing_sample :
    (Sample.blocked.save Sample.notes "x").outcome = .error (.file (.system .alreadyExists)) ∧
    (Sample.blocked.save Sample.notes "x").tree.get? ["new"] = some .directory ∧
    (Sample.blocked.save Sample.notes "x").tree.get? ["notes"] = some (.file [0x21]) ∧
    (Sample.free.save Sample.notes "x" Sample.fullDisk).outcome = .error (.file (.system ⟨28⟩)) ∧
    (Sample.free.save Sample.notes "x" Sample.fullDisk).tree.get? ["notes"] = some (.file [0x21]) ∧
    (Sample.free.save Sample.notes "x").outcome = .ok () ∧
    (Sample.free.save Sample.notes "x").tree.get? ["notes"] = some (.file [0x21]) ∧
    (∃ document, Stores document "x" ∧
      (Sample.free.save Sample.notes "x").tree.get? ["kept", "terms.json"] = some (.file (encode document))) ∧
    (Sample.free.save Sample.notes "x").tree.isDirectory (.ofText "/new/../kept") = .ok true := by
  have hblocked : (Sample.blocked.save Sample.notes "x").outcome = .error (.file (.system .alreadyExists)) := by
    decide +kernel
  have hfull : (Sample.free.save Sample.notes "x" Sample.fullDisk).outcome = .error (.file (.system ⟨28⟩)) := by
    decide +kernel
  have hfree : (Sample.free.save Sample.notes "x").outcome = .ok () := by decide +kernel
  have hplace : ∀ {transfer : Transfer}, transfer = {} ∨ transfer = Sample.fullDisk →
      (Sample.free.save Sample.notes "x" transfer).tree.locate Sample.free.path = .ok ["kept", "terms.json"] := by
    rintro _ (rfl | rfl) <;> decide +kernel
  obtain ⟨_, _, hbefore, _⟩ := saving_damages_nothing Sample.blocked Sample.notes "x" {} none
  obtain ⟨_, _, hduring, _⟩ := saving_damages_nothing Sample.free Sample.notes "x" Sample.fullDisk none
  obtain ⟨document, hstores, _, hsaved⟩ := saving_damages_nothing Sample.free Sample.notes "x" {} none
  refine ⟨hblocked, by decide +kernel, ?_, hfull, ?_, hfree, ?_⟩
  · obtain ⟨_, ⟨_, hsame⟩ | ⟨⟨_, hfailure, _⟩, _⟩⟩ := hbefore _ hblocked
    · exact (hsame ["notes"] _).2 rfl
    · cases hfailure
  · obtain ⟨_, ⟨_, hsame⟩ | ⟨_, file, _, hlocate, _, _, _, hothers⟩⟩ := hduring _ hfull
    · exact (hsame ["notes"] _).2 rfl
    · rw [hplace (Or.inr rfl)] at hlocate
      cases hlocate
      exact (hothers ["notes"] (by decide) _).2 rfl
  · obtain ⟨⟨file, bytes, hlocate, hfile, _, hwhole, hothers⟩, habove, _⟩ := hsaved hfree
    rw [hplace (Or.inl rfl)] at hlocate
    cases hlocate
    refine ⟨(hothers ["notes"] (by decide) _).2 rfl, ⟨document, hstores, ?_⟩, habove 0⟩
    rw [hfile, hwhole rfl]

/-- With the file open a save can do damage: on a full disk the old content of the file is gone although the save fails, and a device that drops what it is given leaves no document although the save succeeds. -/
theorem interrupted_save_damages_file :
    ¬ (∀ (s : TermStore) (t : FileTree) (term : String) (transfer : Transfer) (e : MakeError),
      (s.save t term transfer).outcome = .error e →
        ∀ names, SameFile t (s.save t term transfer).tree names) ∧
    ¬ (∀ (s : TermStore) (t : FileTree) (term : String) (transfer : Transfer),
      (s.save t term transfer).outcome = .ok () → ∃ file document, Stores document term ∧
        (s.save t term transfer).tree.locate s.path = .ok file ∧
        (s.save t term transfer).tree.get? file = some (.file (encode document))) := by
  constructor
  · intro hsame
    have hfull : (Sample.overwriting.save Sample.notes "x" Sample.fullDisk).outcome =
        .error (.file (.system ⟨28⟩)) := by decide +kernel
    have hgone : (Sample.overwriting.save Sample.notes "x" Sample.fullDisk).tree.get? ["notes"] ≠
        some (.file [0x21]) := by decide +kernel
    exact hgone ((hsame _ _ _ _ _ hfull ["notes"] _).2 rfl)
  · intro hkept
    have hdropped : (Sample.overwriting.save Sample.notes "x" Sample.nullDevice).outcome = .ok () := by
      decide +kernel
    have hplace : (Sample.overwriting.save Sample.notes "x" Sample.nullDevice).tree.locate
        Sample.overwriting.path = .ok ["notes"] := by decide +kernel
    have hempty : (Sample.overwriting.save Sample.notes "x" Sample.nullDevice).tree.get? ["notes"] =
        some (.file []) := by decide +kernel
    obtain ⟨file, document, hstores, hlocate, hfile⟩ := hkept _ _ _ _ hdropped
    rw [hplace] at hlocate
    cases hlocate
    rw [hempty] at hfile
    have hbytes : encode document = encode [] := (Entry.file.inj (Option.some.inj hfile)).symm
    rw [encode_injective hbytes] at hstores
    exact Sample.not_stores_nil "x" hstores

end TermStore

end ColonySearch
