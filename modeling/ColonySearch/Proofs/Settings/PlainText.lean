import ColonySearch.Proofs.Settings.Grammar
import ColonySearch.Proofs.Settings.Table
import ColonySearch.Settings.PlainText

/-!
# Reading plain texts of assignments

A plain text is one of the texts that the grammar describes, and its lines are the assignments that the grammar lists. No line end in it has to be unified and no reference in it to be replaced, so it gives each name the value that stands there.
-/

namespace ColonySearch.Settings

open Assignment

namespace TextLine

variable {line : TextLine} {lines : List TextLine} {name value text lead : List Char} {c : Char}

/-! ### Lines in the grammar -/

theorem isSpacing_of_isVariableChar (h : isVariableChar c = true) : Text.isSpacing c = false := by
  have hfirst : '\x1c' ≤ c ↔ 0x1C ≤ c.toNat := Iff.rfl
  have hlast : '\x1f' < c ↔ 0x1F < c.toNat := Iff.rfl
  simp only [isVariableChar, variableRanges, Text.CodeRange.member, List.any_cons, List.any_nil,
    Bool.or_false, Bool.or_eq_true, Bool.and_eq_true, decide_eq_true_eq] at h
  simp only [Text.isSpacing, Text.isBlank, Text.blankRanges, Text.CodeRange.member, List.any_cons,
    List.any_nil, Bool.or_false, hfirst, Bool.or_eq_false_iff, Bool.and_eq_false_imp, decide_eq_true_eq,
    decide_eq_false_iff_not, Nat.not_le, Char.not_le, hlast]
  omega

theorem ne_of_isVariableChar {d : Char} (h : isVariableChar c = true) (hd : isVariableChar d = false) :
    c ≠ d := by
  intro heq
  rw [heq, hd] at h
  cases h

theorem isNameChar_of_isVariableChar (h : isVariableChar c = true) : isNameChar c = true := by
  have hequals : c ≠ '=' := ne_of_isVariableChar h (by decide)
  have hsign : c ≠ '#' := ne_of_isVariableChar h (by decide)
  rw [isNameChar, isSpacing_of_isVariableChar h, bne_iff_ne.2 hequals, bne_iff_ne.2 hsign]
  rfl

theorem named (hne : name ≠ []) (h : ∀ c ∈ name, isVariableChar c = true) : Named name name := by
  refine .bare hne (fun c hc => isNameChar_of_isVariableChar (h c hc)) ?_
  intro hquote
  exact absurd (h '\'' (List.mem_of_mem_head? hquote)) (by decide)

/-- What can stand as a name can stand as a value. -/
theorem PlainValue.word (h : ∀ c ∈ value, isVariableChar c = true) : PlainValue value where
  inLine := fun c hc => ⟨ne_of_isVariableChar (h c hc) (by decide), ne_of_isVariableChar (h c hc) (by decide)⟩
  opens := by
    intro c hc
    have hvariable := h c (List.mem_of_mem_head? hc)
    refine ⟨isSpacing_of_isVariableChar hvariable, ?_, ?_⟩
    · exact ne_of_isVariableChar hvariable (by decide)
    · exact ne_of_isVariableChar hvariable (by decide)
  closes := fun c hc => isSpacing_of_isVariableChar (h c (List.mem_of_mem_getLast? hc))
  noReference := fun hmem => absurd (h '$' hmem) (by decide)
  noComment := by
    intro before after heq
    exact absurd (h '#' (heq ▸ List.mem_append_right before List.mem_cons_self)) (by decide)

theorem PlainValue.noComment_false (h : PlainValue value) : NoComment false value := by
  intro before after heq
  have hlast := h.noComment before after heq
  rw [spacedBehind]
  cases hget : before.getLast? with
  | none => rfl
  | some c => exact hlast c hget

theorem PlainValue.valued (h : PlainValue value) : Valued false value value := by
  rcases eq_or_ne value [] with rfl | hne
  · exact .empty
  · have hbare : Bare false value :=
      { ne_nil := hne
        line := fun hmem => (h.inLine _ hmem).1 rfl
        opens := fun c hc => (h.opens c hc).imp_left not_isGap
        closes := h.closes
        noComment := h.noComment_false }
    have hvalued := Valued.bare hbare (.gap .nil) nofun
    rwa [List.append_nil] at hvalued

/-! ### Texts in the grammar -/

/-- The assignment that the line is in the grammar. -/
def assignment? : TextLine → Option Assignment
  | .blank | .comment _ => none
  | .assignment name value => some ⟨name, some value⟩

/-- What stands behind the first line. -/
def behind (lines : List TextLine) : List Char := lines.flatMap fun line => '\n' :: line.written.toList

theorem atLineEnd_behind (lines : List TextLine) : AtLineEnd (behind lines) := by
  cases lines with
  | nil => exact nofun
  | cons line lines => exact Text.forall_mem_head?_cons rfl

theorem toList_join_cons : (join (line :: lines)).toList = line.written.toList ++ behind lines := by
  induction lines generalizing line with
  | nil => simp [join, behind]
  | cons next lines ih =>
    have hstep : join (line :: next :: lines) = line.written ++ "\n" ++ join (next :: lines) :=
      String.intercalate_cons_cons
    rw [hstep, String.toList_append, String.toList_append, ih, List.append_assoc]
    rfl

/-- A line is listed before what stands behind it, and so is the spacing in front of the line. -/
theorem Plain.lists {as : List Assignment} {rest : List Char} (h : line.Plain) (hlead : Spacing lead)
    (hend : AtLineEnd rest) (hrest : ∀ {lead}, Spacing lead → Lists as (lead ++ rest)) :
    Lists (line.assignment?.toList ++ as) (lead ++ line.written.toList ++ rest) := by
  have hnone : Spacing [] := nofun
  cases h with
  | blank =>
    have hblank := hrest hlead
    rwa [← List.append_nil lead] at hblank
  | comment h =>
    have hcomment := Lists.comment hlead (fun hmem => (h _ hmem).1 rfl) hend (hrest hnone)
    rwa [written, String.toList_append]
  | assignment hne hname hvalue =>
    have hline := Line.mk .none (named hne hname) (fun _ _ => rfl) .nil .nil hvalue.valued
    have hassignment := Lists.assignment hlead hline hend (hrest hnone)
    simpa [written, assignment?] using hassignment

theorem filterMap_cons_eq_append {α β : Type} (f : α → Option β) (a : α) (l : List α) :
    (a :: l).filterMap f = (f a).toList ++ l.filterMap f := by
  rw [List.filterMap_cons]
  cases f a <;> rfl

theorem lists_behind (h : ∀ line ∈ lines, line.Plain) (hlead : Spacing lead) :
    Lists (lines.filterMap assignment?) (lead ++ behind lines) := by
  induction lines generalizing lead with
  | nil =>
    rw [behind, List.flatMap_nil, List.append_nil]
    exact .nil hlead
  | cons line lines ih =>
    obtain ⟨hline, hlines⟩ := List.forall_mem_cons.1 h
    have hfeed : Spacing (lead ++ ['\n']) := by
      intro c hc
      rcases List.mem_append.1 hc with hc | hc
      · exact hlead c hc
      · exact List.mem_singleton.1 hc ▸ by decide
    have hlists := hline.lists hfeed (atLineEnd_behind lines) (ih hlines)
    rw [filterMap_cons_eq_append]
    simpa [behind] using hlists

/-- The lines of a plain text are listed in their order. -/
theorem lists_join (h : ∀ line ∈ lines, line.Plain) :
    Lists (lines.filterMap assignment?) (join lines).toList := by
  cases lines with
  | nil => exact .nil nofun
  | cons line lines =>
    obtain ⟨hline, hlines⟩ := List.forall_mem_cons.1 h
    have hnone : Spacing [] := nofun
    have hlists := hline.lists hnone (atLineEnd_behind lines) (lists_behind hlines)
    rw [filterMap_cons_eq_append, toList_join_cons]
    exact hlists

/-! ### Reading the text -/

theorem Plain.not_mem_written (h : line.Plain) : '\r' ∉ line.written.toList := by
  cases h with
  | blank => exact nofun
  | comment h =>
    rw [written, String.toList_append]
    exact List.not_mem_append (by decide) fun hmem => (h _ hmem).2 rfl
  | assignment hne hname hvalue =>
    rw [written, String.toList_append, String.toList_append]
    refine List.not_mem_append (List.not_mem_append ?_ (by decide)) fun hmem => (hvalue.inLine _ hmem).2 rfl
    exact fun hmem => absurd (hname _ hmem) (by decide)

theorem not_mem_join (h : ∀ line ∈ lines, line.Plain) : '\r' ∉ (join lines).toList := by
  cases lines with
  | nil => exact nofun
  | cons line lines =>
    obtain ⟨hline, hlines⟩ := List.forall_mem_cons.1 h
    rw [toList_join_cons]
    refine List.not_mem_append hline.not_mem_written fun hmem => ?_
    obtain ⟨next, hnext, hmem⟩ := List.mem_flatMap.1 hmem
    exact List.not_mem_cons_of_ne_of_not_mem (by decide) (hlines next hnext).not_mem_written hmem

theorem Plain.opens {rest : List Char} (h : line.Plain) (hend : AtLineEnd rest) :
    ∀ c ∈ (line.written.toList ++ rest).head?, c ≠ '\ufeff' := by
  cases h with
  | blank =>
    intro c hc
    rw [hend c hc]
    decide
  | comment h =>
    rw [written, String.toList_append]
    exact Text.forall_mem_head?_cons (by decide)
  | @assignment name value hne hname hvalue =>
    obtain ⟨c, chars, hchars⟩ := List.exists_cons_of_ne_nil hne
    rw [hchars] at hname
    rw [written, String.toList_append, String.toList_append, hchars]
    exact Text.forall_mem_head?_cons (ne_of_isVariableChar (hname c List.mem_cons_self) (by decide))

theorem dropByteOrderMark_of_opens {cs : List Char} (h : ∀ c ∈ cs.head?, c ≠ '\ufeff') :
    Text.dropByteOrderMark cs = cs := by
  unfold Text.dropByteOrderMark
  split
  · exact absurd rfl (h '\ufeff' rfl)
  · rfl

theorem dropByteOrderMark_join (h : ∀ line ∈ lines, line.Plain) :
    Text.dropByteOrderMark (join lines).toList = (join lines).toList := by
  cases lines with
  | nil => rfl
  | cons line lines =>
    rw [toList_join_cons]
    exact dropByteOrderMark_of_opens ((h line List.mem_cons_self).opens (atLineEnd_behind lines))

theorem readAll_join (h : ∀ line ∈ lines, line.Plain) :
    Assignment.readAll (join lines) = lines.filterMap assignment? := by
  rw [Assignment.readAll, dropByteOrderMark_join h, Text.unifyLineEnds_of_not_mem (not_mem_join h)]
  exact (lists_join h).readLines_eq

/-- A plain text gives what its lines say. -/
theorem given_assignments {environment : List (String × String)} {vars : Variables}
    (h : ∀ line ∈ lines, line.Plain) :
    Variables.given environment vars (lines.filterMap assignment?) = lines.filterMap assigned? := by
  induction lines generalizing vars with
  | nil => rfl
  | cons line lines ih =>
    obtain ⟨hline, hlines⟩ := List.forall_mem_cons.1 h
    cases hline with
    | blank => exact ih hlines
    | comment => exact ih hlines
    | assignment _ _ hvalue =>
      refine congrArg₂ List.cons (congrArg (Prod.mk _) ?_) (ih hlines)
      exact Variables.meant_of_not_mem rfl hvalue.noReference

end TextLine

end ColonySearch.Settings
