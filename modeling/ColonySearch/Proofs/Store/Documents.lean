import ColonySearch.Proofs.Json.LineEnds
import ColonySearch.Proofs.Store.Loading

/-!
# What a file gives back

Loading decided by the text of the file alone. If the text is a document, an object whose last member with the key has a text for a value, that text is the term; keys are compared as the texts that they write, escapes read. Whatever else the file holds, the fallback is loaded, and a warning is logged exactly if the text is no document.
-/

namespace ColonySearch.TermStore

open FileTree Json Text Text.Utf8

/-! ### The text of a file -/

section Texts

variable {s : TermStore} {t : FileTree} {text : List Char} (htext : s.FindsText t text)

include htext

theorem load_of_document {document : Value} (h : Json.read text = .ok document) :
    s.load t = ⟨.ok ((termOf? document).getD s.fallback), []⟩ := by
  rw [load_of_findsText htext, h, settle]

theorem load_of_malformed (h : Json.read text = .error .malformed) : s.load t = s.unreadable := by
  rw [load_of_findsText htext, h, settle]

end Texts

theorem not_document_of_byteOrderMark (rest : List Char) (document : Value) :
    ¬ Document ('\ufeff' :: rest) document := by
  rintro ⟨written, hlexes, hwritten⟩
  generalize htext : '\ufeff' :: rest = text at hlexes
  cases hlexes with
  | nil => cases htext
  | blank hc =>
    cases htext
    exact absurd hc (by decide)
  | lexeme hl =>
    cases hl with
    | number hsign hdigits =>
      obtain ⟨c, more, rfl, hc⟩ := hdigits.exists_cons
      cases hsign with
      | none =>
        cases htext
        cases hc
      | minus => cases htext
    | _ => cases htext

/-- A file in UTF-8 gives back the term that its text stores. With any other text it gives back the fallback, and the warning is logged if the text is no document, as none is that has a byte-order mark in front. -/
theorem loading_by_grammar (s : TermStore) (t : FileTree) (text : List Char)
    (hfile : t.HasFile s.path (encode text)) (hshort : ∀ count, ¬ HasOverlongInteger count text) :
    (∀ term, Stores text term → (s.load t).outcome = .ok term) ∧
    ((∀ term, ¬ Stores text term) → (s.load t).outcome = .ok s.fallback) ∧
    ((∃ document, Document text document) → (s.load t).log = []) ∧
    ((∀ document, ¬ Document text document) → (s.load t).log = [.termUnreadable s.path.text]) ∧
    ∀ rest, text = '\ufeff' :: rest → ∀ document, ¬ Document text document := by
  have htext : s.FindsText t (unifyLineEnds text) := ⟨text, hfile, rfl⟩
  obtain ⟨hdocument, hmalformed⟩ :=
    read_cases fun count hlong => hshort count (hasOverlongInteger_of_unify hlong)
  simp only [document_unify_iff] at hdocument hmalformed
  refine ⟨?_, ?_, ?_, ?_, ?_⟩
  · intro term hterm
    obtain ⟨document, hread, hterm⟩ := stores_iff.1 hterm
    rw [load_of_document htext ((hdocument document).2 hread), hterm, Option.getD_some]
  · intro hnone
    by_cases hread : ∃ document, Document text document
    · obtain ⟨document, hread⟩ := hread
      have hterm : termOf? document = none := by
        rw [Option.eq_none_iff_forall_ne_some]
        intro term hterm
        exact hnone term (stores_iff.2 ⟨document, hread, hterm⟩)
      rw [load_of_document htext ((hdocument document).2 hread), hterm, Option.getD_none]
    · rw [load_of_malformed htext (hmalformed.2 (not_exists.1 hread))]
      rfl
  · rintro ⟨document, hread⟩
    rw [load_of_document htext ((hdocument document).2 hread)]
  · intro hread
    rw [load_of_malformed htext (hmalformed.2 hread)]
    rfl
  · rintro rest rfl document
    exact not_document_of_byteOrderMark rest document

/-! ### A repeated key -/

namespace Sample

/-- The second key is the first one with an escape in it, and the lines end in two ways. -/
def repeated : List Char :=
  ("\x7b\"default_search_term\": \"-a\",\r\n\"default_search\\u005fterm\": \"!b\", " ++
    "\"n\": [-1.5e3, NaN]\x7d\n").toList

/-- The same behind a byte-order mark. -/
def marked : List Char := '\ufeff' :: repeated

def repeatedStore : TermStore := ⟨.ofText "repeated.json", "*"⟩

def markedStore : TermStore := ⟨.ofText "marked.json", "*"⟩

def documents : FileTree :=
  (({} : FileTree).setEntry ["repeated.json"] (.file (encode repeated))).setEntry ["marked.json"]
    (.file (encode marked))

theorem stores_repeated : Stores repeated "!b" := by
  have hterm : (Json.read repeated).toOption.bind termOf? = some "!b" := by decide +kernel
  cases hread : Json.read repeated with
  | error e =>
    rw [hread] at hterm
    cases hterm
  | ok document =>
    rw [hread] at hterm
    exact stores_iff.2 ⟨document, document_of_read hread, hterm⟩

end Sample

theorem loading_by_grammar_sample :
    (Sample.repeatedStore.load Sample.documents).outcome = .ok "!b" ∧
    (Sample.repeatedStore.load Sample.documents).log = [] ∧
    (Sample.markedStore.load Sample.documents).outcome = .ok "*" ∧
    (Sample.markedStore.load Sample.documents).log = [.termUnreadable "marked.json"] := by
  have hrepeated : Sample.documents.HasFile Sample.repeatedStore.path (encode Sample.repeated) :=
    ⟨["repeated.json"], by decide +kernel, by rfl, rfl⟩
  have hmarked : Sample.documents.HasFile Sample.markedStore.path (encode Sample.marked) :=
    ⟨["marked.json"], by decide +kernel, by rfl, rfl⟩
  have hshort : ∀ {text : List Char}, text.length ≤ maxDigits → ∀ count, ¬ HasOverlongInteger count text :=
    fun hlength count hlong => absurd hlong.lt_length (Nat.not_lt.2 hlength)
  obtain ⟨hterm, _, hsilent, _⟩ := loading_by_grammar Sample.repeatedStore Sample.documents
    Sample.repeated hrepeated (hshort (by decide))
  obtain ⟨_, hfallback, _, hwarning, hmark⟩ := loading_by_grammar Sample.markedStore Sample.documents
    Sample.marked hmarked (hshort (by decide))
  have hnone : ∀ document, ¬ Document Sample.marked document := hmark Sample.repeated rfl
  refine ⟨hterm "!b" Sample.stores_repeated, ?_, hfallback ?_, hwarning hnone⟩
  · obtain ⟨document, hdocument, _⟩ := stores_iff.1 Sample.stores_repeated
    exact hsilent ⟨document, hdocument⟩
  · rintro term ⟨_, _, hdocument, _⟩
    exact hnone _ hdocument

end ColonySearch.TermStore
