import ColonySearch.Proofs.Search.Pieces

/-!
# Typing on narrows a search

Once a label has begun, whatever is typed on makes it longer and changes nothing else about the query. A longer label can only be found in fewer places: the shorter one begins it, and the lower-case form of a beginning stands in the lower-case form of the whole. The one exception is a beginning that breaks off at a capital sigma, which looks like the end of a word until the next letter is typed. Failures come and go only with the first character of the label, since nothing but its being there is asked of a stray.
-/

namespace ColonySearch

variable {q : Query} {text : String}

theorem Text.OccursInLower.of_append {more label : String} (h : OccursInLower (text ++ more) label)
    (hsigma : ¬ EndsInSigma text.toList) : OccursInLower text label := by
  have hbegins : OccursInLower text (text ++ more) :=
    (keepsSigmas_of_not_endsInSigma hsigma).occursInLower String.toList_append
  exact hbegins.trans h

namespace Query

theorem label_eq_empty_of_extend (h : (q.extend text).label = "") : q.label = "" :=
  (String.append_eq_empty_iff.1 h).1

theorem AdmitsPawn.of_extend {t : Thing} (h : (q.extend text).AdmitsPawn t)
    (hsigma : ¬ Text.EndsInSigma q.label.toList) : q.AdmitsPawn t := by
  rcases h with hall | ⟨hlabel, hside, hfree⟩
  · exact Or.inl hall
  · refine Or.inr ⟨?_, hside, hfree⟩
    rcases hlabel with hempty | ⟨label, hmem, hoccurs⟩
    · exact Or.inl (label_eq_empty_of_extend hempty)
    · exact Or.inr ⟨label, hmem, hoccurs.of_append hsigma⟩

theorem AdmitsThing.of_extend {t : Thing} (h : (q.extend text).AdmitsThing t)
    (hsigma : ¬ Text.EndsInSigma q.label.toList) : q.AdmitsThing t := by
  rcases h with hall | hempty | hoccurs
  · exact Or.inl hall
  · exact Or.inr (Or.inl (label_eq_empty_of_extend hempty))
  · exact Or.inr (Or.inr (hoccurs.of_append hsigma))

theorem AdmitsSite.of_extend {t : Site} (h : (q.extend text).AdmitsSite t) : q.AdmitsSite t := by
  rcases h with hall | hempty | hoccurs
  · exact Or.inl hall
  · exact Or.inr (Or.inl (label_eq_empty_of_extend hempty))
  · have hbegins : q.label.toList <+: (q.extend text).label.toList := by
      rw [extend, String.toList_append]
      exact List.prefix_append _ _
    exact Or.inr (Or.inr (hbegins.isInfix.trans hoccurs))

theorem actorlessFailure_extend (hlabel : q.label ≠ "") :
    (q.extend text).actorlessFailure = q.actorlessFailure := by
  have hlabel' : (q.extend text).label ≠ "" := fun h => hlabel (label_eq_empty_of_extend h)
  rw [actorlessFailure, actorlessFailure, if_neg hlabel, if_neg hlabel']
  rfl

end Query

/-- Typing on only narrows a search. If a label has begun or begins with the text that is typed on, then the flags stay as they are, no site comes in, and no thing and no pawn does either unless the label so far ends in a capital sigma; and once a label has begun, the search fails exactly where it failed before. -/
theorem typing_on_narrows (a : Alphabet) (raw text : String)
    (h : (Query.parse a raw).label ≠ "" ∨
      ∃ c rest, text.toList = c :: rest ∧ a.isFlag c = false) :
    (Query.parse a (raw ++ text)).flags = (Query.parse a raw).flags ∧
    (∀ (c : Colony) (s : Scope) (r r' : Results),
      search a raw c s = .ok r → search a (raw ++ text) c s = .ok r' →
      (∀ k ∈ r'.sites, k ∈ r.sites) ∧
      (¬ Text.EndsInSigma (Query.parse a raw).label.toList →
        (∀ k ∈ r'.things, k ∈ r.things) ∧ ∀ k ∈ r'.pawns, k ∈ r.pawns)) ∧
    ((Query.parse a raw).label ≠ "" → ∀ (c : Colony) (s : Scope) (e : MissingTrait),
      search a (raw ++ text) c s = .error e ↔ search a raw c s = .error e) := by
  have hopens : (Query.parse a raw).label ≠ "" ∨ a.IsLabel text.toList := by
    refine h.imp_right ?_
    intro hfirst
    obtain ⟨c, rest, htext, hc⟩ := hfirst
    exact Alphabet.isLabel_of_eq_cons htext hc
  unfold search
  rw [Query.parse_append hopens]
  refine ⟨rfl, ?_, ?_⟩
  · intro c s r r' hr hr'
    constructor
    · intro k hk
      obtain ⟨hwant, hlisted, hadmits⟩ := (mem_sites_iff hr').1 hk
      exact (mem_sites_iff hr).2 ⟨hwant, hlisted, hadmits.of_extend⟩
    · intro hsigma
      constructor
      · intro k hk
        obtain ⟨hwant, hreach, hhaul, hkind, hseen, hadmits⟩ := (mem_things_iff hr').1 hk
        exact (mem_things_iff hr).2 ⟨hwant, hreach, hhaul, hkind, hseen, hadmits.of_extend hsigma⟩
      · intro k hk
        obtain ⟨hwant, hreach, hkind, hseen, hadmits⟩ := (mem_pawns_iff hr').1 hk
        exact (mem_pawns_iff hr).2 ⟨hwant, hreach, hkind, hseen, hadmits.of_extend hsigma⟩
  · intro hlabel c s e
    rw [Compiled.evaluate_eq_error_iff, Compiled.evaluate_eq_error_iff,
      Query.actorlessFailure_extend hlabel]
    rfl

theorem typing_on_narrows_sample :
    (Query.parse ⟨true⟩ "-.<Ad").flags = [.items, .pawns, .worldMap] ∧
    (search ⟨true⟩ "-.<A" Sample.colony Sample.scope = .ok ⟨[⟨2⟩], [⟨0⟩], [⟨0⟩]⟩ ∧
      ∃ r', search ⟨true⟩ "-.<Ad" Sample.colony Sample.scope = .ok r' ∧
        (∀ k ∈ r'.sites, k = ⟨0⟩) ∧ (∀ k ∈ r'.things, k = ⟨2⟩) ∧ ∀ k ∈ r'.pawns, k = ⟨0⟩) ∧
    search ⟨true⟩ "-.<Ad" Sample.strayColony Sample.scope = .error ⟨.kindLabel⟩ := by
  have hlabel : (Query.parse ⟨true⟩ "-.<A").label ≠ "" := by decide
  have hsigma : ¬ Text.EndsInSigma (Query.parse ⟨true⟩ "-.<A").label.toList := by
    intro hends
    obtain ⟨x, y, hsplit, _⟩ := hends
    have hmem : Text.capitalSigma ∈ (Query.parse ⟨true⟩ "-.<A").label.toList := by
      rw [hsplit]
      simp
    revert hmem
    decide
  obtain ⟨hflags, hnarrows, hfails⟩ := typing_on_narrows ⟨true⟩ "-.<A" "d" (Or.inl hlabel)
  have hr : search ⟨true⟩ "-.<A" Sample.colony Sample.scope = .ok ⟨[⟨2⟩], [⟨0⟩], [⟨0⟩]⟩ := by
    decide +kernel
  have hr' : search ⟨true⟩ ("-.<A" ++ "d") Sample.colony Sample.scope =
      .ok ⟨[⟨2⟩], [⟨0⟩], []⟩ := by
    decide +kernel
  have hstray : search ⟨true⟩ "-.<A" Sample.strayColony Sample.scope = .error ⟨.kindLabel⟩ := by
    decide +kernel
  obtain ⟨hsites, hothers⟩ := hnarrows _ _ _ _ hr hr'
  obtain ⟨hthings, hpawns⟩ := hothers hsigma
  refine ⟨hflags, ⟨hr, _, hr', ?_, ?_, ?_⟩, (hfails hlabel _ _ _).2 hstray⟩
  · intro k hk
    exact List.mem_singleton.1 (hsites k hk)
  · intro k hk
    exact List.mem_singleton.1 (hthings k hk)
  · intro k hk
    exact List.mem_singleton.1 (hpawns k hk)

end ColonySearch
