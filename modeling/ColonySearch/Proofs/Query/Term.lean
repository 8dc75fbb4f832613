import ColonySearch.Proofs.Text.Spans
import ColonySearch.Query.Term

/-!
# How terms are read

A term comes apart into flag characters and a text that can stand as a label, and what is read from it is settled by these two parts. So a term whose label has begun can be continued without reading it again.
-/

namespace ColonySearch

/-- The text can stand as a label: it is empty, or it begins with a character that is no flag. -/
def Alphabet.IsLabel (a : Alphabet) (text : List Char) : Prop :=
  ∀ c rest, text = c :: rest → a.isFlag c = false

theorem Alphabet.isLabel_of_eq_cons {a : Alphabet} {text rest : List Char} {c : Char}
    (htext : text = c :: rest) (hc : a.isFlag c = false) : a.IsLabel text := by
  intro c' rest' htext'
  rw [htext] at htext'
  cases htext'
  exact hc

namespace Query

variable {a : Alphabet} {raw text : String} {flags label : List Char}

/-- The query for the term continued by more label text. -/
def extend (q : Query) (text : String) : Query :=
  { q with raw := q.raw ++ text, label := q.label ++ text, debugLabel := q.debugLabel ++ text }

/-- The query with one more flag on. -/
def turnOn (q : Query) : Flag → Query
  | .allMaps => { q with allMaps := true }
  | .colonyOnly => { q with colonyOnly := true }
  | .items => { q with items := true }
  | .matchAll => { q with matchAll := true }
  | .pawns => { q with pawns := true }
  | .worldMap => { q with worldMap := true }

theorem exists_parts (a : Alphabet) (raw : String) : ∃ flags label, raw.toList = flags ++ label ∧
    (∀ c ∈ flags, a.isFlag c = true) ∧ a.IsLabel label := by
  refine ⟨raw.toList.takeWhile a.isFlag, raw.toList.dropWhile a.isFlag,
    List.takeWhile_append_dropWhile.symm, ?_, ?_⟩
  · intro c hmem
    exact List.all_eq_true.1 List.all_takeWhile c hmem
  · intro c rest hrest
    exact Text.forall_mem_head?_dropWhile a.isFlag raw.toList c (hrest ▸ rfl)

theorem parse_of_parts (hraw : raw.toList = flags ++ label) (hflags : ∀ c ∈ flags, a.isFlag c = true)
    (hlabel : a.IsLabel label) :
    parse a raw = ofFlags raw (flags.filterMap a.flag?) (String.ofList label) := by
  have hstop : ∀ c ∈ label.head?, a.isFlag c = false := by
    intro c hc
    obtain ⟨rest, hrest⟩ := List.head?_eq_some_iff.1 hc
    exact hlabel c rest hrest
  rw [parse, hraw, Text.takeWhile_stretch hflags hstop, Text.dropWhile_stretch hflags hstop]

theorem extend_ofFlags (flags : List Flag) (label : String) :
    (ofFlags raw flags label).extend text = ofFlags (raw ++ text) flags (label ++ text) := rfl

/-- What is appended to a label is label text, and so is what is appended to flags unless it goes on with a flag. -/
theorem parse_append (h : (parse a raw).label ≠ "" ∨ a.IsLabel text.toList) :
    parse a (raw ++ text) = (parse a raw).extend text := by
  obtain ⟨flags, label, hraw, hflags, hlabel⟩ := exists_parts a raw
  have hwhole : (raw ++ text).toList = flags ++ (label ++ text.toList) := by
    rw [String.toList_append, hraw, List.append_assoc]
  rw [parse_of_parts hraw hflags hlabel] at h ⊢
  have hlabel' : a.IsLabel (label ++ text.toList) := by
    cases label with
    | nil => exact h.resolve_left (fun hne => hne rfl)
    | cons c rest => exact Alphabet.isLabel_of_eq_cons rfl (hlabel c rest rfl)
  rw [parse_of_parts hwhole hflags hlabel', extend_ofFlags, String.ofList_append,
    String.ofList_toList]

theorem ofFlags_cons (raw' : String) (f : Flag) (flags : List Flag) (label : String) :
    ofFlags raw' (f :: flags) label = { (ofFlags raw flags label).turnOn f with raw := raw' } := by
  cases f <;> simp [ofFlags, turnOn]

/-- A flag character in front of a term switches its flag on and changes nothing else about the query. -/
theorem parse_singleton_append {c : Char} {f : Flag} (h : a.flag? c = some f) :
    parse a (String.singleton c ++ raw) =
      { (parse a raw).turnOn f with raw := String.singleton c ++ raw } := by
  have hflag : a.isFlag c = true := by rw [Alphabet.isFlag, h, Option.isSome_some]
  have hchars : (String.singleton c ++ raw).toList = c :: raw.toList := by simp
  rw [parse, hchars, List.takeWhile_cons_of_pos hflag, List.dropWhile_cons_of_pos hflag,
    List.filterMap_cons_some h, parse, ofFlags_cons]

theorem has_turnOn_iff {q : Query} {f g : Flag} :
    (q.turnOn g).has f = true ↔ f = g ∨ q.has f = true := by
  cases g <;> cases f <;> simp [turnOn, has]

theorem has_parse_flag {c : Char} {f g : Flag} (h : a.flag? c = some g) :
    (parse a (String.singleton c ++ raw)).has f = true ↔ f = g ∨ (parse a raw).has f = true := by
  rw [parse_singleton_append h, ← has_turnOn_iff]
  cases f <;> exact Iff.rfl

theorem label_parse_flag {c : Char} {f : Flag} (h : a.flag? c = some f) :
    (parse a (String.singleton c ++ raw)).label = (parse a raw).label := by
  rw [parse_singleton_append h]
  cases f <;> rfl

/-- Label text behind the flag for things to haul. -/
theorem parse_items (hlabel : Alphabet.IsLabel {} text.toList) : parse {} ("." ++ text) =
    { raw := "." ++ text, label := text, items := true, debugLabel := text } := by
  have hflags : parse {} "." = ofFlags "." [.items] "" := rfl
  rw [parse_append (Or.inr hlabel), hflags, extend_ofFlags, String.empty_append]
  rfl

end Query

end ColonySearch
