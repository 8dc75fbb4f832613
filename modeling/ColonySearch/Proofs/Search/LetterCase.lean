import ColonySearch.Proofs.Text.Recasing
import ColonySearch.Query.Predicate

/-!
# Label matching ignores case

The predicate that matches labels sees a text and a label only in lower case. So its answer stays the same when the text it matches is written in another case, and when any of the labels of the thing are, be it in lower case or with some ASCII letters in the other case. This holds for strays too, which have no labels of a kind and fail as they did before.
-/

namespace ColonySearch

open Text

/-- The thing with its own label and those of its kind written in another case, each in a way of its own. -/
def Thing.recase (t : Thing) (own kind kindDef : Recasing) : Thing :=
  { t with
    label := own.apply t.label
    actor := t.actor.map fun a =>
      { a with kindLabel := kind.apply a.kindLabel, kindDefLabel := kindDef.apply a.kindDefLabel } }

namespace ThingPredicate

variable {c : Colony} {t : Thing} {text label text' label' : String}

theorem labelMatches_congr (htext : lower text = lower text') (hlabel : lower label = lower label') :
    labelMatches text label = labelMatches text' label' := by
  rw [labelMatches, labelMatches, htext, hlabel]

theorem judge_labelMatch_congr (h : lower text = lower text') :
    judge c t (.labelMatch text) = judge c t (.labelMatch text') := by
  simp only [judge, labelMatches_congr h rfl]

theorem judge_labelMatch_recase (own kind kindDef : Recasing) :
    judge c (t.recase own kind kindDef) (.labelMatch text) = judge c t (.labelMatch text) := by
  have hpawn : (t.recase own kind kindDef).isPawn = t.isPawn := rfl
  have hown : labelMatches text (own.apply t.label) = labelMatches text t.label :=
    labelMatches_congr rfl (lower_recased own t.label)
  rw [judge, judge, hpawn]
  cases hactor : t.actor with
  | none => simp only [Thing.recase, Thing.actorFor, hactor, Option.map_none, hown]
  | some a =>
    have hkind : labelMatches text (kind.apply a.kindLabel) = labelMatches text a.kindLabel :=
      labelMatches_congr rfl (lower_recased kind a.kindLabel)
    have hkindDef : labelMatches text (kindDef.apply a.kindDefLabel) =
        labelMatches text a.kindDefLabel :=
      labelMatches_congr rfl (lower_recased kindDef a.kindDefLabel)
    simp only [Thing.recase, Thing.actorFor, hactor, Option.map_some, Except.map, hown, hkind, hkindDef]

end ThingPredicate

/-- Label matching ignores case as far as lower-casing does: neither the text that is matched nor any label of the thing can change the answer by being written in another case. -/
theorem label_match_ignores_case (c : Colony) (t : Thing) (text : String) :
    (∀ r : Recasing, ThingPredicate.judge c t (.labelMatch (r.apply text)) =
      ThingPredicate.judge c t (.labelMatch text)) ∧
    ∀ own kind kindDef : Recasing,
      ThingPredicate.judge c (t.recase own kind kindDef) (.labelMatch text) =
        ThingPredicate.judge c t (.labelMatch text) := by
  constructor
  · intro r
    exact ThingPredicate.judge_labelMatch_congr (lower_recased r text)
  · intro own kind kindDef
    exact ThingPredicate.judge_labelMatch_recase own kind kindDef

/-- Case is ignored no further than that: a sharp s is not two letters. -/
example : ThingPredicate.judge {} { label := "GROSS" } (.labelMatch "groß") = .ok false := by
  decide +kernel

end ColonySearch
