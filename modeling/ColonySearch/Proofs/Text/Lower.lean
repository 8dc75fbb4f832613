import ColonySearch.Text.Case

/-!
# Lower case and pieces of a text

Lower-casing a piece of a text and lower-casing the whole text agree on the piece, but for the capital sigma. Whether a sigma takes its final form depends on the letters around it, and where a piece is cut out some of them are missing. The pieces that keep the forms of their sigmas are the ones whose lower-case form stands in that of the whole. A beginning of a text keeps them unless it breaks off right behind a sigma, where characters without case do not count.
-/

namespace ColonySearch.Text

/-- Lower-cases a text as it stands between `before`, which is read backwards, and `after`. -/
def lowerBetween (before : List Char) : List Char → List Char → List Char
  | [], _ => []
  | c :: rest, after =>
    (if c = capitalSigma then [lowerSigma before (rest ++ after)] else lowerChar c) ++
      lowerBetween (c :: before) rest after

/-- Cut out from between the two texts, the piece has each of its sigmas in the same form as before. -/
def KeepsSigmas (before piece after : List Char) : Prop :=
  ∀ x y, piece = x ++ capitalSigma :: y →
    lowerSigma (x.reverse ++ before.reverse) (y ++ after) = lowerSigma x.reverse y

/-- The text has a sigma that only case-ignorable characters follow. -/
def EndsInSigma (text : List Char) : Prop :=
  ∃ x y, text = x ++ capitalSigma :: y ∧ ∀ c ∈ y, isCaseIgnorable c = true

variable {before before' text piece after after' : List Char}

/-! ### Lower-casing in a context -/

theorem lowerBetween_nil : lowerBetween before text [] = lowerAfter before text := by
  induction text generalizing before with
  | nil => rfl
  | cons c rest ih => rw [lowerBetween, lowerAfter, ih, List.append_nil]

theorem lowerBetween_append (x y : List Char) : lowerBetween before (x ++ y) after =
    lowerBetween before x (y ++ after) ++ lowerBetween (x.reverse ++ before) y after := by
  induction x generalizing before with
  | nil => rfl
  | cons c rest ih =>
    rw [List.cons_append, lowerBetween, lowerBetween, ih, List.append_assoc rest y after,
      List.append_assoc, List.reverse_cons, List.append_assoc rest.reverse [c] before]
    rfl

theorem lowerChars_eq_lowerBetween : lowerChars text = lowerBetween [] text [] :=
  lowerBetween_nil.symm

/-- Nothing but the forms of the sigmas depends on the context. -/
theorem lowerBetween_congr (h : ∀ x y, text = x ++ capitalSigma :: y →
      lowerSigma (x.reverse ++ before) (y ++ after) =
        lowerSigma (x.reverse ++ before') (y ++ after')) :
    lowerBetween before text after = lowerBetween before' text after' := by
  induction text generalizing before before' with
  | nil => rfl
  | cons c rest ih =>
    have hrest : lowerBetween (c :: before) rest after = lowerBetween (c :: before') rest after' := by
      apply ih
      intro x y hsplit
      have hform := h (c :: x) y (by rw [hsplit, List.cons_append])
      simpa using hform
    rw [lowerBetween, lowerBetween, hrest]
    by_cases hsigma : c = capitalSigma
    · have hform := h [] rest (by rw [hsigma, List.nil_append])
      rw [List.reverse_nil, List.nil_append, List.nil_append] at hform
      rw [if_pos hsigma, if_pos hsigma, hform]
    · rw [if_neg hsigma, if_neg hsigma]

theorem KeepsSigmas.lowerBetween_eq (h : KeepsSigmas before piece after) :
    lowerBetween before.reverse piece after = lowerChars piece := by
  rw [lowerChars_eq_lowerBetween]
  apply lowerBetween_congr
  intro x y hsplit
  rw [h x y hsplit, List.append_nil, List.append_nil]

/-! ### Pieces of a text -/

/-- The lower-case form of a piece that keeps its sigmas stands in that of the whole text. -/
theorem KeepsSigmas.lowerChars_occurs (h : KeepsSigmas before piece after) :
    lowerChars piece <:+: lowerChars (before ++ piece ++ after) := by
  have hwhole : lowerChars (before ++ piece ++ after) = lowerBetween [] before (piece ++ after) ++
      lowerChars piece ++ lowerBetween (piece.reverse ++ before.reverse) after [] :=
    calc lowerChars (before ++ piece ++ after)
      _ = lowerBetween [] (before ++ (piece ++ after)) [] := by
        rw [lowerChars_eq_lowerBetween, List.append_assoc]
      _ = lowerBetween [] before (piece ++ after) ++
          (lowerBetween before.reverse piece after ++
            lowerBetween (piece.reverse ++ before.reverse) after []) := by
        rw [lowerBetween_append, lowerBetween_append]
        simp only [List.append_nil]
      _ = _ := by rw [h.lowerBetween_eq, List.append_assoc]
  exact ⟨_, _, hwhole.symm⟩

/-- A sigma at the end of a piece is final there and need not be so in the text. -/
example : lower "ΜΟΥΣ" = "μους" ∧ lower "ΜΟΥΣΑΚΑ" = "μουσακα" := by decide +kernel

theorem keepsSigmas_of_not_mem (h : capitalSigma ∉ piece) : KeepsSigmas before piece after := by
  intro x y hsplit
  rw [hsplit] at h
  simp at h

theorem reachesCased_append (h : ∃ c ∈ text, isCaseIgnorable c = false) :
    reachesCased (text ++ after) = reachesCased text := by
  obtain ⟨c, hmem, hcount⟩ := h
  have hfound : (text.find? (!isCaseIgnorable ·)).isSome = true := by
    rw [List.find?_isSome]
    exact ⟨c, hmem, by rw [hcount]; rfl⟩
  rw [reachesCased, reachesCased, List.find?_append, Option.or_of_isSome hfound]

/-- Characters that follow a text change no sigma in it unless it ends in one. -/
theorem keepsSigmas_of_not_endsInSigma (h : ¬ EndsInSigma text) : KeepsSigmas [] text after := by
  intro x y hsplit
  have hletter : ∃ c ∈ y, isCaseIgnorable c = false := by
    apply Classical.byContradiction
    intro hnone
    apply h
    refine ⟨x, y, hsplit, ?_⟩
    intro c hmem
    rw [← Bool.not_eq_false]
    intro hcount
    exact hnone ⟨c, hmem, hcount⟩
  rw [List.reverse_nil, List.append_nil, lowerSigma, lowerSigma, reachesCased_append hletter]

end ColonySearch.Text
