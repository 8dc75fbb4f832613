import ColonySearch.Proofs.Query.Grammar

/-!
# Terms that go on

What has been read of a term settles how the rest of it is read. Behind a label that has begun everything is label text. Behind flags alone the rest is read as if it were a term by itself, and its flags are added to those before it. So a flag that is on stays on however the term goes on, and a label that has begun shuts out all further flags.
-/

namespace ColonySearch

namespace Query

variable {a : Alphabet} {raw text label label' : String} {q q' : Query} {f : Flag}

/-- The query of a term without a label that goes on with a second term: the flags of both, and the label of the second. -/
def goOn (q q' : Query) : Query where
  raw := q.raw ++ q'.raw
  label := q'.label
  allMaps := q.allMaps || q'.allMaps
  worldMap := q.worldMap || q'.worldMap
  pawns := q.pawns || q'.pawns
  colonyOnly := q.colonyOnly || q'.colonyOnly
  items := q.items || q'.items
  matchAll := q.matchAll || q'.matchAll
  debugLabel := q'.debugLabel

theorem label_goOn : (q.goOn q').label = q'.label := rfl

theorem has_goOn : (q.goOn q').has f = (q.has f || q'.has f) := by
  cases f <;> rfl

theorem has_extend : (q.extend text).has f = q.has f := by
  cases f <;> rfl

theorem goOn_ofFlags (flags flags' : List Flag) :
    (ofFlags raw flags label).goOn (ofFlags text flags' label') =
      ofFlags (raw ++ text) (flags ++ flags') label' := by
  simp [goOn, ofFlags]

/-- What is appended to flags alone is read as a term of its own. -/
theorem parse_append_of_label_eq_empty (h : (parse a raw).label = "") :
    parse a (raw ++ text) = (parse a raw).goOn (parse a text) := by
  obtain ⟨flags, label, hraw, hflags, hlabel⟩ := exists_parts a raw
  obtain ⟨flags', label', htext, hflags', hlabel'⟩ := exists_parts a text
  rw [parse_of_parts hraw hflags hlabel] at h ⊢
  rw [parse_of_parts htext hflags' hlabel', goOn_ofFlags, ← List.filterMap_append]
  -- Without a label the first term is its flags, which then run on into those of the second.
  have hnone : label = [] := String.ofList_eq_empty_iff.1 h
  have hwhole : (raw ++ text).toList = (flags ++ flags') ++ label' := by
    rw [String.toList_append, hraw, htext, hnone, List.append_nil, List.append_assoc]
  have hboth : ∀ c ∈ flags ++ flags', a.isFlag c = true := by
    intro c hc
    exact (List.mem_append.1 hc).elim (hflags c) (hflags' c)
  exact parse_of_parts hwhole hboth hlabel'

end Query

/-- How a term goes on. Appended to a label that has begun, a text is label and sets no flag, whatever characters it has. Appended to flags alone, it adds its own flags to them and brings its own label. In neither case does it clear a flag. -/
theorem term_goes_on (a : Alphabet) (raw text : String) :
    ((Query.parse a raw).label ≠ "" →
      (∀ f, (Query.parse a (raw ++ text)).has f = (Query.parse a raw).has f) ∧
      (Query.parse a (raw ++ text)).label = (Query.parse a raw).label ++ text) ∧
    ((Query.parse a raw).label = "" →
      (∀ f, (Query.parse a (raw ++ text)).has f = true ↔
        (Query.parse a raw).has f = true ∨ (Query.parse a text).has f = true) ∧
      (Query.parse a (raw ++ text)).label = (Query.parse a text).label) ∧
    ∀ f, (Query.parse a raw).has f = true → (Query.parse a (raw ++ text)).has f = true := by
  have hbegun : (Query.parse a raw).label ≠ "" →
      Query.parse a (raw ++ text) = (Query.parse a raw).extend text :=
    fun h => Query.parse_append (Or.inl h)
  have hflags : (Query.parse a raw).label = "" →
      Query.parse a (raw ++ text) = (Query.parse a raw).goOn (Query.parse a text) :=
    Query.parse_append_of_label_eq_empty
  refine ⟨?_, ?_, ?_⟩
  · intro h
    rw [hbegun h]
    exact ⟨fun _ => Query.has_extend, rfl⟩
  · intro h
    rw [hflags h]
    refine ⟨?_, Query.label_goOn⟩
    intro f
    rw [Query.has_goOn, Bool.or_eq_true]
  · intro f hf
    by_cases h : (Query.parse a raw).label = ""
    · rw [hflags h, Query.has_goOn, hf, Bool.true_or]
    · rw [hbegun h, Query.has_extend, hf]

theorem term_goes_on_sample :
    ((Query.parse ⟨true⟩ "-a").label ≠ "" ∧ (Query.parse ⟨true⟩ ("-a" ++ "<.")).label = "a<." ∧
      (Query.parse ⟨true⟩ ("-a" ++ "<.")).has .worldMap = false) ∧
    ((Query.parse ⟨true⟩ "-.").label = "" ∧ (Query.parse ⟨true⟩ ("-." ++ ".<a")).label = "a" ∧
      (Query.parse ⟨true⟩ ("-." ++ ".<a")).has .worldMap = true ∧
      (Query.parse ⟨true⟩ ("-." ++ ".<a")).has .pawns = true) := by
  have hbegun : (Query.parse ⟨true⟩ "-a").label ≠ "" := by decide
  have hflags : (Query.parse ⟨true⟩ "-.").label = "" := by decide
  obtain ⟨hkeeps, hlabel⟩ := (term_goes_on ⟨true⟩ "-a" "<.").1 hbegun
  obtain ⟨hadds, hsecond⟩ := (term_goes_on ⟨true⟩ "-." ".<a").2.1 hflags
  have hstays := (term_goes_on ⟨true⟩ "-." ".<a").2.2 .pawns
  exact ⟨⟨hbegun, hlabel, hkeeps .worldMap⟩, hflags, hsecond,
    (hadds .worldMap).2 (Or.inr (by decide)), hstays (by decide)⟩

end ColonySearch
