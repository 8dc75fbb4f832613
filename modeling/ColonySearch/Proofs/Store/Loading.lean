import ColonySearch.Proofs.FileTree
import ColonySearch.Proofs.Json.Faults
import ColonySearch.Proofs.Text.Utf8
import ColonySearch.Store.Startup

/-!
# What loading comes to

Loading gives back the term that the file holds and otherwise the fallback, and falling back is what it does for a path that leads nowhere, for a directory or a file that cannot be opened, and for a text that is no document. It was meant to do so for everything else that is wrong with a file, but four failures get past it: the question whether the file exists is refused, as it is for a name that is too long or below a directory that may not be entered, the bytes are not UTF-8, an integer has more digits than are converted, or containers are nested deeper than the reader can follow. A session that starts from the settings is refused with them.
-/

namespace ColonySearch.TermStore

open FileTree Json Text Text.Utf8

/-- The text is a document in which the last member with the key has this term. -/
def Stores (text : List Char) (term : String) : Prop :=
  ∃ before after, Document text (.object (before ++ (key, .text term) :: after)) ∧
    ∀ member ∈ after, member.1 ≠ key

/-- At the path of the store stands a file in UTF-8, and this is its text with all line ends read alike. -/
def FindsText (s : TermStore) (t : FileTree) (text : List Char) : Prop :=
  ∃ written, t.HasFile s.path (encode written) ∧ unifyLineEnds written = text

/-- The text of the file stores this term, and every surrogate in it has its partner. -/
def Holds (s : TermStore) (t : FileTree) (term : String) : Prop :=
  ∃ text, s.FindsText t text ∧ Stores text term ∧ ¬ HasUnpaired text

/-- What loading breaks off with instead of falling back, for a reader that can keep so many containers open. -/
inductive BreaksOff (s : TermStore) (t : FileTree) (limit : Option Nat) : LoadError → Prop
  | refused {errno : Errno} (h : t.locate s.path = .error (.system errno))
    (hother : errno ∉ Errno.leadsNowhere) : BreaksOff s t limit (.file (.system errno))
  | encoding {bytes : List UInt8} {error : DecodeError} (hfile : t.HasFile s.path bytes)
    (h : decode bytes = .error error) : BreaksOff s t limit (.encoding error)
  | tooManyDigits {text : List Char} {count : Nat} (htext : s.FindsText t text)
    (h : Stuck limit text (.tooManyDigits count)) : BreaksOff s t limit (.tooManyDigits count)
  | tooDeep {text : List Char} {container : Container} (htext : s.FindsText t text)
    (h : Stuck limit text (.tooDeep container)) : BreaksOff s t limit (.tooDeep container)

/-! ### The term of a document -/

theorem member?_eq_some_iff {document value : Value} {name : String} :
    document.member? name = some value ↔ ∃ before after,
      document = .object (before ++ (name, value) :: after) ∧ ∀ member ∈ after, member.1 ≠ name := by
  cases document with
  | object members =>
    rw [Value.member?, List.lookup_eq_some_iff]
    constructor
    · rintro ⟨after, before, hmembers, hafter⟩
      refine ⟨before.reverse, after.reverse, ?_, ?_⟩
      · rw [← members.reverse_reverse, hmembers]
        simp
      · intro member hmember
        exact (bne_iff_ne.1 (hafter member (List.mem_reverse.1 hmember))).symm
    · rintro ⟨before, after, hmembers, hafter⟩
      cases hmembers
      refine ⟨after.reverse, before.reverse, by simp, ?_⟩
      intro member hmember
      exact bne_iff_ne.2 (hafter member (List.mem_reverse.1 hmember)).symm
  | _ => simp [Value.member?]

theorem termOf?_eq_some_iff {document : Value} {term : String} :
    termOf? document = some term ↔ ∃ before after,
      document = .object (before ++ (key, .text term) :: after) ∧ ∀ member ∈ after, member.1 ≠ key := by
  have htext : ∀ value : Value, value.text? = some term ↔ value = .text term := by
    intro value
    cases value <;> simp [Value.text?]
  rw [termOf?, Option.bind_eq_some_iff]
  simp only [htext, exists_eq_right, member?_eq_some_iff]

theorem stores_iff {text : List Char} {term : String} :
    Stores text term ↔ ∃ document, Document text document ∧ termOf? document = some term := by
  simp only [termOf?_eq_some_iff]
  constructor
  · rintro ⟨before, after, hdocument, hafter⟩
    exact ⟨_, hdocument, before, after, rfl, hafter⟩
  · rintro ⟨_, hdocument, before, after, rfl, hafter⟩
    exact ⟨before, after, hdocument, hafter⟩

/-! ### Cases of loading -/

section Cases

variable {s : TermStore} {t : FileTree} {limit : Option Nat}

/-- At an existing file, loading comes to what the bytes come to. -/
theorem load_eq_interpret {bytes : List UInt8} (h : t.HasFile s.path bytes) :
    s.load t limit = s.interpret bytes limit := by
  have hexists : t.pathExists s.path = .ok true := by
    obtain ⟨names, hlocate, hfile, _⟩ := h
    rw [pathExists, ask, hlocate]
    dsimp only
    rw [hfile]
    rfl
  rw [load, hexists]
  dsimp only
  rw [contents_eq_ok_iff.2 h]

theorem load_of_findsText {text : List Char} (h : s.FindsText t text) :
    s.load t limit = s.settle (Json.read text limit) := by
  obtain ⟨written, hfile, rfl⟩ := h
  rw [load_eq_interpret hfile, interpret, decode_encode]

theorem outcome_of_breaksOff {e : LoadError} (h : s.BreaksOff t limit e) :
    (s.load t limit).outcome = .error e := by
  cases h with
  | refused h hother => rw [load, pathExists_eq_error_iff.2 ⟨_, rfl, h, hother⟩]
  | encoding hfile h => rw [load_eq_interpret hfile, interpret, h]
  | tooManyDigits htext h => rw [load_of_findsText htext, (read_eq_error_iff h.ne_malformed).2 h, settle]
  | tooDeep htext h => rw [load_of_findsText htext, (read_eq_error_iff h.ne_malformed).2 h, settle]

theorem breaksOff_of_stuck {text : List Char} {error : ReadError} (htext : s.FindsText t text)
    (h : Stuck limit text error) : ∃ e, s.BreaksOff t limit e := by
  cases error with
  | malformed => exact absurd rfl h.ne_malformed
  | tooManyDigits count => exact ⟨_, .tooManyDigits htext h⟩
  | tooDeep container => exact ⟨_, .tooDeep htext h⟩

/-- Where there is no file that can be opened, the outcome is the fallback or the question was refused. -/
theorem outcome_of_no_file (hfile : ¬ ∃ bytes, t.HasFile s.path bytes) :
    (∃ e, s.BreaksOff t limit e) ∨ (s.load t limit).outcome = .ok s.fallback := by
  cases hexists : t.pathExists s.path with
  | error e =>
    obtain ⟨errno, rfl, hlocate, hother⟩ := pathExists_eq_error_iff.1 hexists
    exact Or.inl ⟨_, .refused hlocate hother⟩
  | ok found =>
    right
    cases found with
    | false => rw [load, hexists]
    | true =>
      cases hcontents : t.contents s.path with
      | error e =>
        rw [load, hexists]
        dsimp only
        rw [hcontents]
        rfl
      | ok bytes => exact absurd ⟨bytes, contents_eq_ok_iff.1 hcontents⟩ hfile

/-- Nothing else happens than that loading breaks off, finds a text or falls back. -/
theorem load_cases (s : TermStore) (t : FileTree) (limit : Option Nat) :
    (∃ e, s.BreaksOff t limit e) ∨ (∃ text, s.FindsText t text) ∨
      (s.load t limit).outcome = .ok s.fallback := by
  by_cases hfile : ∃ bytes, t.HasFile s.path bytes
  · obtain ⟨bytes, hfile⟩ := hfile
    cases hdecode : decode bytes with
    | error error => exact Or.inl ⟨_, .encoding hfile hdecode⟩
    | ok written =>
      rw [decode_eq_ok_iff.1 hdecode] at hfile
      exact Or.inr (Or.inl ⟨_, written, hfile, rfl⟩)
  · obtain hbreaks | hfallback := outcome_of_no_file hfile
    · exact Or.inl hbreaks
    · exact Or.inr (Or.inr hfallback)

/-- A text in which the reader does not get stuck gives the term that it stores, or else the fallback. -/
theorem outcome_of_findsText {text : List Char} (htext : s.FindsText t text)
    (hstuck : ∀ e, ¬ Stuck limit text e) :
    (∀ term, Stores text term → (s.load t limit).outcome = .ok term) ∧
      ((∀ term, ¬ Stores text term) → (s.load t limit).outcome = .ok s.fallback) := by
  rw [load_of_findsText htext]
  constructor
  · intro term hterm
    obtain ⟨document, hdocument, hterm⟩ := stores_iff.1 hterm
    rw [read_of_document hdocument hstuck, settle, hterm, Option.getD_some]
  · intro hnone
    cases hread : Json.read text limit with
    | error error =>
      have hmalformed : error = .malformed := by
        by_contra hother
        exact hstuck error ((read_eq_error_iff hother).1 hread)
      rw [hmalformed]
      rfl
    | ok document =>
      have hterm : termOf? document = none := by
        rw [Option.eq_none_iff_forall_ne_some]
        intro term hterm
        exact hnone term (stores_iff.2 ⟨document, document_of_read hread, hterm⟩)
      rw [settle, hterm, Option.getD_none]

/-- Loading that does not break off gives back the term that the file holds, or else the fallback. -/
theorem outcome_of_not_breaksOff (hbreaks : ∀ e, ¬ s.BreaksOff t limit e) :
    (∀ term, s.Holds t term → (s.load t limit).outcome = .ok term) ∧
      ((∀ text, s.FindsText t text → ¬ HasUnpaired text) → (∀ term, ¬ s.Holds t term) →
        (s.load t limit).outcome = .ok s.fallback) := by
  have hstuck : ∀ {text}, s.FindsText t text → ∀ e, ¬ Stuck limit text e := by
    intro text htext e hstuck
    obtain ⟨e', he'⟩ := breaksOff_of_stuck htext hstuck
    exact hbreaks e' he'
  constructor
  · rintro term ⟨text, htext, hterm, _⟩
    exact (outcome_of_findsText htext (hstuck htext)).1 term hterm
  · intro hpaired hnone
    obtain ⟨e, he⟩ | ⟨text, htext⟩ | hfallback := s.load_cases t limit
    · exact absurd he (hbreaks e)
    · apply (outcome_of_findsText htext (hstuck htext)).2
      intro term hterm
      exact hnone term ⟨text, htext, hterm, hpaired text htext⟩
    · exact hfallback

theorem outcome_eq_error_iff {e : LoadError} : (s.load t limit).outcome = .error e ↔ s.BreaksOff t limit e := by
  constructor
  · intro h
    obtain ⟨e', hbreaks⟩ | ⟨text, htext⟩ | hfallback := s.load_cases t limit
    · rw [outcome_of_breaksOff hbreaks] at h
      cases h
      exact hbreaks
    · by_cases hstuck : ∃ error, Stuck limit text error
      · obtain ⟨error, hstuck⟩ := hstuck
        obtain ⟨e', hbreaks⟩ := breaksOff_of_stuck htext hstuck
        rw [outcome_of_breaksOff hbreaks] at h
        cases h
        exact hbreaks
      · obtain ⟨hterm, hnone⟩ := outcome_of_findsText htext (not_exists.1 hstuck)
        by_cases hstores : ∃ term, Stores text term
        · obtain ⟨term, hstores⟩ := hstores
          rw [hterm term hstores] at h
          cases h
        · rw [hnone (not_exists.1 hstores)] at h
          cases h
    · rw [hfallback] at h
      cases h
  · exact outcome_of_breaksOff

theorem outcome_eq_ok_iff {term : String} (hpaired : ∀ text, s.FindsText t text → ¬ HasUnpaired text) :
    (s.load t limit).outcome = .ok term ↔ (∀ e, ¬ s.BreaksOff t limit e) ∧
      (s.Holds t term ∨ (∀ other, ¬ s.Holds t other) ∧ term = s.fallback) := by
  constructor
  · intro h
    have hbreaks : ∀ e, ¬ s.BreaksOff t limit e := by
      intro e hbreaks
      rw [outcome_of_breaksOff hbreaks] at h
      cases h
    obtain ⟨hterm, hnone⟩ := outcome_of_not_breaksOff hbreaks
    refine ⟨hbreaks, ?_⟩
    by_cases hholds : ∃ other, s.Holds t other
    · obtain ⟨other, hholds⟩ := hholds
      rw [hterm other hholds] at h
      cases h
      exact Or.inl hholds
    · rw [hnone hpaired (not_exists.1 hholds)] at h
      cases h
      exact Or.inr ⟨not_exists.1 hholds, rfl⟩
  · rintro ⟨hbreaks, hholds | ⟨hholds, rfl⟩⟩
    · exact (outcome_of_not_breaksOff hbreaks).1 term hholds
    · exact (outcome_of_not_breaksOff hbreaks).2 hpaired hholds

end Cases

/-! ### Bytes and sessions -/

section Sessions

variable {s : TermStore} {t : FileTree} {limit : Option Nat}

theorem breaksOff_encoding_iff : (∃ error, s.BreaksOff t limit (.encoding error)) ↔
    ∃ bytes, t.HasFile s.path bytes ∧ ∀ text, bytes ≠ encode text := by
  constructor
  · intro h
    obtain ⟨error, h⟩ := h
    cases h with
    | @encoding bytes _ hfile h =>
      refine ⟨bytes, hfile, ?_⟩
      intro text htext
      rw [decode_eq_ok_iff.2 htext] at h
      cases h
  · intro h
    obtain ⟨bytes, hfile, hbytes⟩ := h
    cases hdecode : decode bytes with
    | error error => exact ⟨error, .encoding hfile hdecode⟩
    | ok text => exact absurd (decode_eq_ok_iff.1 hdecode) (hbytes text)

theorem startSession_eq_load_error_iff {cfg : Settings} {alphabet : Alphabet} {e : LoadError} :
    (cfg.startSession s t alphabet limit).1 = .error (.load e) ↔ s.BreaksOff t limit e := by
  rw [← outcome_eq_error_iff, Settings.startSession]
  cases (s.load t limit).outcome with
  | error e' => simp
  | ok term =>
    dsimp only
    split <;> simp

end Sessions

/-- Loading breaks off exactly over a question that is refused, bytes that are not UTF-8, an overlong integer and a container too deep in others, and then no session starts. Otherwise it gives back the term that the file holds, or the fallback if it holds none, provided that no surrogate in the file is without its partner. -/
theorem loading_breaks_off_iff (s : TermStore) (t : FileTree) (limit : Option Nat) :
    (∀ e, (s.load t limit).outcome = .error e ↔ s.BreaksOff t limit e) ∧
    ((∀ text, s.FindsText t text → ¬ HasUnpaired text) → ∀ term, (s.load t limit).outcome = .ok term ↔
      (∀ e, ¬ s.BreaksOff t limit e) ∧
        (s.Holds t term ∨ (∀ other, ¬ s.Holds t other) ∧ term = s.fallback)) ∧
    ((∃ error, s.BreaksOff t limit (.encoding error)) ↔
      ∃ bytes, t.HasFile s.path bytes ∧ ∀ text, bytes ≠ encode text) ∧
    ∀ (cfg : Settings) (alphabet : Alphabet) (e : LoadError),
      (cfg.startSession s t alphabet limit).1 = .error (.load e) ↔ s.BreaksOff t limit e := by
  refine ⟨?_, ?_, breaksOff_encoding_iff, ?_⟩
  · intro e
    exact outcome_eq_error_iff
  · intro hpaired term
    exact outcome_eq_ok_iff hpaired
  · intro cfg alphabet e
    exact startSession_eq_load_error_iff

/-! ### Files that break loading -/

namespace Sample

def byte : TermStore := ⟨.ofText "byte.json", "*"⟩

def ones : TermStore := ⟨.ofText "ones.json", "*"⟩

def deep : TermStore := ⟨.ofText "deep.json", "*"⟩

def closed : TermStore := ⟨.ofText "closed/terms.json", "*"⟩

def whole : TermStore := ⟨.ofText "link.json", "*"⟩

def folder : TermStore := ⟨.ofText "folder", "*"⟩

def manyOnes : List Char := List.replicate 4301 '1'

def brackets : List Char := "[[[".toList

def document : List Char := "\x7b\"default_search_term\": \"-a\"\x7d".toList

/-- A file with a byte that begins no character, one with a long integer, one with three arrays in each other, a document behind a link, a directory, and one that may not be entered. -/
def damaged : FileTree where
  entries := fun
    | ["byte.json"] => some (.file [0xFF])
    | ["ones.json"] => some (.file (encode manyOnes))
    | ["deep.json"] => some (.file (encode brackets))
    | ["whole.json"] => some (.file (encode document))
    | ["link.json"] => some (.link (.ofText "/whole.json"))
    | ["folder"] | ["closed"] => some .directory
    | _ => none
  refuses := fun
    | .enter, ["closed"] => some ⟨13⟩
    | _, _ => none

theorem hasFile_byte : damaged.HasFile byte.path [0xFF] := ⟨["byte.json"], by decide +kernel, rfl, rfl⟩

theorem eq_of_mem_manyOnes {c : Char} (h : c ∈ manyOnes) : c = '1' := List.eq_of_mem_replicate h

theorem findsText_ones : ones.FindsText damaged manyOnes := by
  refine ⟨manyOnes, ⟨["ones.json"], by decide +kernel, rfl, rfl⟩, unifyLineEnds_of_not_mem ?_⟩
  intro h
  cases eq_of_mem_manyOnes h

theorem overlong_manyOnes : OverlongInteger 4301 manyOnes := by
  have hones : ∀ d ∈ List.replicate 4300 '1', isDigit d = true := by
    intro d hd
    rw [List.eq_of_mem_replicate hd]
    rfl
  have hdigits : IntegerPart ('1' :: List.replicate 4300 '1') := .digits rfl (by decide) hones
  refine ⟨[], manyOnes, [], by simp, .none, hdigits, List.length_replicate, by decide, nofun, ?_, ?_⟩
  · intro fraction _ hfraction
    exact List.prefix_nil.1 hfraction
  · intro exponent _ hexponent
    exact List.prefix_nil.1 hexponent

theorem stuck_brackets : Stuck (some 2) brackets (.tooDeep .array) := by
  have hfits : Fits 2 [.openArray, .openArray] := (fits_open rfl).2 ((fits_open rfl).2 (fits_nil 0))
  have hlexes : Lexes [.openArray, .openArray] ['[', '['] := .lexeme .openArray (.lexeme .openArray .nil)
  have hshort : ∀ token ∈ [Token.openArray, .openArray], token.IsShort := by
    intro token htoken
    obtain rfl : token = .openArray := by simpa using htoken
    exact Token.IsMark.isShort trivial
  have hreaches : Reaches (some 2) brackets [.openArray, .openArray] [Container.array.bracket] :=
    { exists_front := ⟨['[', '['], rfl, hlexes⟩
      awaits := .array (.item (.array (.item .value)))
      isShort := hshort
      fits := fun _ hroom => Option.some.inj hroom ▸ hfits }
  exact .tooDeep hreaches rfl rfl

/-- The text of the file behind the link is the document. -/
theorem not_hasUnpaired_of_whole {text : List Char} (h : whole.FindsText damaged text) :
    ¬ HasUnpaired text := by
  obtain ⟨written, ⟨names, hlocate, hfile, _⟩, rfl⟩ := h
  have hplace : damaged.locate whole.path = .ok ["whole.json"] := by decide +kernel
  rw [hplace] at hlocate
  cases hlocate
  have hentry : damaged.get? ["whole.json"] = some (.file (encode document)) := rfl
  rw [hentry] at hfile
  have hbytes : encode document = encode written := Entry.file.inj (Option.some.inj hfile)
  rw [← encode_injective hbytes]
  exact not_hasUnpaired (by decide +kernel)

end Sample

theorem loading_breaks_off_iff_sample :
    (∃ error, (Sample.byte.load Sample.damaged).outcome = .error (.encoding error) ∧
      (({} : Settings).startSession Sample.byte Sample.damaged {}).1 = .error (.load (.encoding error))) ∧
    (Sample.ones.load Sample.damaged).outcome = .error (.tooManyDigits 4301) ∧
    (Sample.deep.load Sample.damaged (some 2)).outcome = .error (.tooDeep .array) ∧
    (Sample.closed.load Sample.damaged).outcome = .error (.file (.system ⟨13⟩)) ∧
    (∀ e, ¬ Sample.whole.BreaksOff Sample.damaged (some 1) e) ∧
    Sample.whole.Holds Sample.damaged "-a" ∧
    ∀ e, ¬ Sample.folder.BreaksOff Sample.damaged none e := by
  obtain ⟨hbyte, _, hencoding, hsession⟩ := loading_breaks_off_iff Sample.byte Sample.damaged none
  obtain ⟨hones, _⟩ := loading_breaks_off_iff Sample.ones Sample.damaged none
  obtain ⟨hdeep, _⟩ := loading_breaks_off_iff Sample.deep Sample.damaged (some 2)
  obtain ⟨hclosed, _⟩ := loading_breaks_off_iff Sample.closed Sample.damaged none
  obtain ⟨_, hwhole, _⟩ := loading_breaks_off_iff Sample.whole Sample.damaged (some 1)
  obtain ⟨hfolder, _⟩ := loading_breaks_off_iff Sample.folder Sample.damaged none
  have hloaded : (Sample.whole.load Sample.damaged (some 1)).outcome = .ok "-a" := by decide +kernel
  obtain ⟨hwhole, hholds⟩ :=
    (hwhole (fun _ => Sample.not_hasUnpaired_of_whole) "-a").1 hloaded
  refine ⟨?_, (hones _).2 ?_, (hdeep _).2 ?_, (hclosed _).2 ?_, hwhole, ?_, ?_⟩
  · have hinvalid : ∀ text, [0xFF] ≠ encode text := by
      intro text htext
      cases decode_eq_ok_iff.2 htext
    obtain ⟨error, herror⟩ := hencoding.2 ⟨[0xFF], Sample.hasFile_byte, hinvalid⟩
    exact ⟨error, (hbyte _).2 herror, (hsession {} {} _).2 herror⟩
  · exact .tooManyDigits Sample.findsText_ones
      (.tooManyDigits ⟨⟨[], rfl, .nil⟩, .value, nofun, nofun⟩ Sample.overlong_manyOnes)
  · refine .tooDeep ⟨Sample.brackets, ⟨["deep.json"], by decide +kernel, rfl, rfl⟩, ?_⟩ Sample.stuck_brackets
    exact unifyLineEnds_of_not_mem (by decide)
  · exact .refused (by decide +kernel) (by decide)
  · obtain hholds | ⟨_, hfallback⟩ := hholds
    · exact hholds
    · exact absurd hfallback (by decide)
  · intro e he
    have hloads : (Sample.folder.load Sample.damaged).outcome = .ok "*" := by decide +kernel
    rw [(hfolder e).2 he] at hloads
    cases hloads

/-- A file with one byte that begins no character is enough: loading it gives neither a term nor the fallback, and no session starts from it. -/
theorem invalid_byte_breaks_loading :
    ¬ (∀ (homes : Path.Homes) (path : Path) (fallback : String) (s : TermStore),
      TermStore.ofPath homes path fallback = .ok s →
        ∀ t : FileTree, ∃ term, (s.load t).outcome = .ok term ∧ (s.Holds t term ∨ term = fallback)) ∧
    ¬ (∀ (cfg : Settings) (homes : Path.Homes) (s : TermStore), cfg.termStore homes = .ok s →
      ∀ (t : FileTree) (alphabet : Alphabet) (e : LoadError),
        (cfg.startSession s t alphabet).1 ≠ .error (.load e)) := by
  have hbroken : Sample.byte.BreaksOff Sample.damaged none (.encoding ⟨.invalidStart, 0, 1, 0xFF⟩) :=
    .encoding Sample.hasFile_byte rfl
  constructor
  · intro hloads
    obtain ⟨term, hterm, _⟩ := hloads ⟨.ofText "/home/u", []⟩ (.ofText "byte.json") "*" Sample.byte rfl
      Sample.damaged
    rw [outcome_of_breaksOff hbroken] at hterm
    cases hterm
  · intro hstarts
    apply hstarts { settingsFile := .ofText "byte.json", defaultSearchTerm := "*" }
      ⟨.ofText "/home/u", []⟩ Sample.byte rfl Sample.damaged {} (.encoding ⟨.invalidStart, 0, 1, 0xFF⟩)
    exact startSession_eq_load_error_iff.2 hbroken

end ColonySearch.TermStore
