import ColonySearch.Proofs.Query.Term
import ColonySearch.Proofs.Search.Failure
import ColonySearch.Proofs.Text.Lower

/-!
# Finding a thing by a piece of its label

Copy any piece of a label and search for it: the thing is found as long as the capital sigmas of the piece read in it as they read in the label. The piece and the label are lower-cased apart from each other, so a piece that breaks off at a sigma can end in a final sigma that the label does not have.
-/

namespace ColonySearch

variable {before after : List Char} {piece label : String}

theorem Text.OccursInLower.trans {longer : String} (h : OccursInLower piece label)
    (h' : OccursInLower label longer) : OccursInLower piece longer :=
  List.IsInfix.trans h h'

theorem Text.KeepsSigmas.occursInLower (h : KeepsSigmas before piece.toList after)
    (hlabel : label.toList = before ++ piece.toList ++ after) : OccursInLower piece label := by
  unfold OccursInLower lower
  rw [String.toList_ofList, String.toList_ofList, hlabel]
  exact h.lowerChars_occurs

/-- The thing can be hauled and is in sight on the map on show. -/
structure Scope.Offers (s : Scope) (c : Colony) (k : ThingKey) : Prop where
  listed : ∃ m, s.current = some m ∧ k ∈ (c.map m).spawned
  haulable : (c.thing k).haulable = true
  kind : (c.thing k).kind ≠ .pawn
  seen : ¬ c.Hidden (c.thing k)

/-- What a search for a piece of a label comes to. It returns, it finds the thing exactly if the piece and the label agree in lower case, and they do if the sigmas of the piece keep their forms. -/
theorem search_for_piece {c : Colony} {s : Scope} {k : ThingKey} (hoffers : s.Offers c k)
    (before after : List Char) (piece : String)
    (hpiece : (c.thing k).label.toList = before ++ piece.toList ++ after)
    (hfirst : ∃ first rest, piece.toList = first :: rest ∧ Alphabet.isFlag {} first = false) :
    ∃ r, search {} ("." ++ piece) c s = .ok r ∧
      (k ∈ r.things ↔ Text.OccursInLower piece (c.thing k).label) ∧
      (Text.KeepsSigmas before piece.toList after → k ∈ r.things) := by
  obtain ⟨first, rest, hchars, hletter⟩ := hfirst
  have hparse := Query.parse_items (Alphabet.isLabel_of_eq_cons hchars hletter)
  have hne : piece ≠ "" := by
    intro hempty
    rw [hempty] at hchars
    cases hchars
  obtain ⟨r, hr⟩ : ∃ r, search {} ("." ++ piece) c s = .ok r := by
    rw [search, hparse]
    exact Compiled.exists_evaluate_eq_ok rfl
  have hfound : k ∈ r.things ↔ Text.OccursInLower piece (c.thing k).label := by
    rw [search, hparse] at hr
    rw [mem_things_iff hr]
    constructor
    · intro h
      obtain ⟨_, _, _, _, _, hadmits⟩ := h
      rcases hadmits with hall | hempty | hoccurs
      · cases hall
      · exact absurd hempty hne
      · exact hoccurs
    · intro hoccurs
      exact ⟨rfl, hoffers.listed, hoffers.haulable, hoffers.kind, hoffers.seen,
        Or.inr (Or.inr hoccurs)⟩
  refine ⟨r, hr, hfound, ?_⟩
  intro hkeeps
  exact hfound.2 (hkeeps.occursInLower hpiece)

namespace Sample

/-- Two crates in sight on the map on show, one of them with a Greek label. -/
def crates : Colony where
  thing := fun k =>
    { label := if k.index = 0 then "ΜΟΥΣΑΚΑ" else "Steel Chunk", haulable := true, mapHeld := some ⟨0⟩ }
  map := fun _ => { spawned := [⟨0⟩, ⟨1⟩] }

theorem offers_crates {k : ThingKey} (hk : k = ⟨0⟩ ∨ k = ⟨1⟩) : scope.Offers crates k where
  listed := by
    refine ⟨⟨0⟩, rfl, ?_⟩
    rcases hk with rfl | rfl <;> decide
  haulable := rfl
  kind := by
    intro h
    cases h
  seen := by
    rw [← Colony.hides_eq_false_iff]
    rfl

end Sample

theorem search_for_piece_sample :
    ∃ r, search {} ".el Ch" Sample.crates Sample.scope = .ok r ∧ ⟨1⟩ ∈ r.things := by
  obtain ⟨r, hr, _, hfinds⟩ := search_for_piece (Sample.offers_crates (Or.inr rfl)) "Ste".toList
    "unk".toList "el Ch" (by decide) ⟨'e', _, rfl, by decide⟩
  exact ⟨r, hr, hfinds (Text.keepsSigmas_of_not_mem (by decide))⟩

/-- A piece that breaks off at a sigma does not find its thing. -/
theorem piece_up_to_sigma_not_found :
    ¬ ∀ (c : Colony) (s : Scope) (k : ThingKey) (before after : List Char) (piece : String),
      s.Offers c k → (c.thing k).label.toList = before ++ piece.toList ++ after →
      (∃ first rest, piece.toList = first :: rest ∧ Alphabet.isFlag {} first = false) →
      ∃ r, search {} ("." ++ piece) c s = .ok r ∧ k ∈ r.things := by
  intro h
  obtain ⟨r, hr, hk⟩ := h Sample.crates Sample.scope ⟨0⟩ [] "ΑΚΑ".toList "ΜΟΥΣ"
    (Sample.offers_crates (Or.inl rfl)) (by decide) ⟨'Μ', _, rfl, by decide⟩
  have hnone : search {} ("." ++ "ΜΟΥΣ") Sample.crates Sample.scope = .ok {} := by
    decide +kernel
  rw [hnone] at hr
  cases hr
  cases hk

end ColonySearch
