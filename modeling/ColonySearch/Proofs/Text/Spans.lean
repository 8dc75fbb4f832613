/-!
# Stretches at the start of a text

Readers take the longest stretch of characters of one class from the start of a text. Where such a stretch stands in front of a text that does not go on with the class, the stretch is what is taken and the text is what is left.
-/

namespace ColonySearch.Text

variable {p : Char → Bool} {stretch rest : List Char}

theorem forall_mem_head?_cons {P : Char → Prop} {c : Char} (h : P c) : ∀ d ∈ (c :: rest).head?, P d := by
  intro d hd
  cases hd
  exact h

theorem takeWhile_stretch (hall : ∀ c ∈ stretch, p c = true) (hrest : ∀ c ∈ rest.head?, p c = false) :
    (stretch ++ rest).takeWhile p = stretch := by
  rw [List.takeWhile_append_of_pos hall]
  cases rest with
  | nil => exact List.append_nil stretch
  | cons c rest =>
    rw [List.takeWhile_cons_of_neg (Bool.eq_false_iff.1 (hrest c rfl)), List.append_nil]

theorem dropWhile_stretch (hall : ∀ c ∈ stretch, p c = true) (hrest : ∀ c ∈ rest.head?, p c = false) :
    (stretch ++ rest).dropWhile p = rest := by
  rw [List.dropWhile_append_of_pos hall]
  cases rest with
  | nil => rfl
  | cons c rest => exact List.dropWhile_cons_of_neg (Bool.eq_false_iff.1 (hrest c rfl))

/-- What is left does not go on with the class. -/
theorem forall_mem_head?_dropWhile (p : Char → Bool) (cs : List Char) :
    ∀ c ∈ (cs.dropWhile p).head?, p c = false := by
  intro c hc
  have h := List.head?_dropWhile_not p cs
  rw [hc] at h
  simpa using h

end ColonySearch.Text
