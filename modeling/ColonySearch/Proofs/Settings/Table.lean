import ColonySearch.Settings.Variables
import Mathlib.Data.List.Induction
import Mathlib.Data.List.Nodup

/-!
# The table that assignments leave

Which variables a list of entries leaves, and with which values. Of the entries under one name the last one counts.
-/

namespace ColonySearch.Settings

/-- The member is the last of the list that passes the test. -/
def Last {α : Type} (p : α → Prop) (l : List α) (a : α) : Prop :=
  ∃ before after, l = before ++ a :: after ∧ p a ∧ ∀ b ∈ after, ¬p b

section Last

variable {α : Type} {p q : α → Prop} {l : List α} {a b : α}

theorem Last.mem (h : Last p l a) : a ∈ l := by
  obtain ⟨before, after, rfl, -⟩ := h
  exact List.mem_append_right _ List.mem_cons_self

theorem Last.holds (h : Last p l a) : p a := by
  obtain ⟨before, after, -, ha, -⟩ := h
  exact ha

theorem Last.imp (hpq : ∀ b ∈ l, p b ↔ q b) (h : Last p l a) : Last q l a := by
  obtain ⟨before, after, rfl, ha, hafter⟩ := h
  refine ⟨before, after, rfl, (hpq a (List.mem_append_right _ List.mem_cons_self)).1 ha, ?_⟩
  intro b hb hq
  exact hafter b hb ((hpq b (List.mem_append_right _ (List.mem_cons_of_mem a hb))).2 hq)

theorem last_append_singleton : Last p (l ++ [a]) b ↔ p a ∧ b = a ∨ ¬p a ∧ Last p l b := by
  constructor
  · intro h
    obtain ⟨before, after, heq, hb, hafter⟩ := h
    rcases List.eq_nil_or_concat' after with rfl | ⟨middle, c, rfl⟩
    · obtain ⟨rfl, h⟩ := List.append_inj' heq rfl
      cases h
      exact .inl ⟨hb, rfl⟩
    · rw [← List.cons_append, ← List.append_assoc] at heq
      obtain ⟨rfl, h⟩ := List.append_inj' heq rfl
      cases h
      refine .inr ⟨hafter a (List.mem_append_right _ List.mem_cons_self), before, middle, rfl, hb, ?_⟩
      intro c hc
      exact hafter c (List.mem_append_left _ hc)
  · intro h
    rcases h with ⟨ha, rfl⟩ | ⟨ha, before, after, rfl, hb, hafter⟩
    · exact ⟨l, [], rfl, ha, nofun⟩
    · refine ⟨before, after ++ [a], List.append_assoc .., hb, ?_⟩
      intro c hc
      rcases List.mem_append.1 hc with hc | hc
      · exact hafter c hc
      · exact List.mem_singleton.1 hc ▸ ha

end Last

namespace Variables

variable {environment : List (String × String)} {vars : Variables} {name other : String}
  {value : Option String} {entries : List (String × Option String)}

/-- The names of a table, each of which stands there once. -/
def Distinct (vars : Variables) : Prop := (vars.map (·.1)).Nodup

theorem mem_names_put : other ∈ (vars.put name value).map (·.1) ↔ other = name ∨ other ∈ vars.map (·.1) := by
  induction vars with
  | nil => simp [put]
  | cons entry rest ih =>
    by_cases h : entry.1 = name
    · simp [put, h]
    · rw [put, if_neg h, List.map_cons, List.mem_cons, ih, List.map_cons, List.mem_cons]
      exact or_left_comm

theorem Distinct.put (h : Distinct vars) : Distinct (vars.put name value) := by
  induction vars with
  | nil => exact List.nodup_singleton name
  | cons entry rest ih =>
    obtain ⟨hnew, hrest⟩ := List.nodup_cons.1 h
    by_cases hname : entry.1 = name
    · rw [Variables.put, if_pos hname]
      exact List.nodup_cons.2 ⟨hname ▸ hnew, hrest⟩
    · rw [Variables.put, if_neg hname]
      refine List.nodup_cons.2 ⟨?_, ih hrest⟩
      rw [mem_names_put, not_or]
      exact ⟨hname, hnew⟩

theorem ne_mk_of_fst_ne {entry : String × Option String} (h : entry.1 ≠ name) : (name, value) ≠ entry :=
  fun heq => h (heq ▸ rfl)

/-- The other values of the table are kept. -/
theorem mem_put_of_ne {kept : Option String} (h : other ≠ name) :
    (other, kept) ∈ vars.put name value ↔ (other, kept) ∈ vars := by
  have hnew : (other, kept) ≠ (name, value) := ne_mk_of_fst_ne h.symm
  induction vars with
  | nil => exact ⟨fun hmem => absurd (List.mem_singleton.1 hmem) hnew, nofun⟩
  | cons entry rest ih =>
    by_cases hname : entry.1 = name
    · have hold : (other, kept) ≠ entry := ne_mk_of_fst_ne (hname ▸ h.symm)
      rw [put, if_pos hname, List.mem_cons, or_iff_right hnew, List.mem_cons, or_iff_right hold]
    · rw [put, if_neg hname, List.mem_cons, List.mem_cons, or_congr_right ih]

/-- The name has the new value and no other. -/
theorem Distinct.mem_put_self {got : Option String} (h : Distinct vars) :
    (name, got) ∈ vars.put name value ↔ got = value := by
  induction vars with
  | nil => simp [Variables.put]
  | cons entry rest ih =>
    obtain ⟨hnew, hrest⟩ := List.nodup_cons.1 h
    by_cases hname : entry.1 = name
    · have hbehind : (name, got) ∉ rest :=
        fun hmem => hnew (List.mem_map.2 ⟨_, hmem, hname.symm⟩)
      rw [Variables.put, if_pos hname, List.mem_cons, or_iff_left hbehind, Prod.mk.injEq]
      exact and_iff_right rfl
    · rw [Variables.put, if_neg hname, List.mem_cons, or_iff_right (ne_mk_of_fst_ne hname), ih hrest]

theorem putAll_append {entry : String × Option String} :
    putAll (entries ++ [entry]) = (putAll entries).put entry.1 entry.2 := by
  rw [putAll, List.foldl_append]
  rfl

theorem distinct_putAll (entries : List (String × Option String)) : Distinct (putAll entries) := by
  induction entries using List.reverseRec with
  | nil => exact List.nodup_nil
  | append_singleton entries entry ih =>
    rw [putAll_append]
    exact ih.put

/-- The table holds the last entry under each name. -/
theorem mem_putAll_iff :
    (name, value) ∈ putAll entries ↔ Last (fun entry => entry.1 = name) entries (name, value) := by
  induction entries using List.reverseRec with
  | nil => simp [putAll, Last]
  | append_singleton entries entry ih =>
    obtain ⟨newName, newValue⟩ := entry
    rw [putAll_append, last_append_singleton]
    by_cases hname : newName = name
    · subst hname
      rw [(distinct_putAll entries).mem_put_self]
      simp
    · rw [mem_put_of_ne (Ne.symm hname), ih]
      simp [hname]

/-! ### Values without references -/

theorem expand_of_not_mem {value? : String → Option String} {cs : List Char} (h : '$' ∉ cs) :
    expand value? cs = cs := by
  induction cs with
  | nil => rw [expand]
  | cons c cs ih =>
    have hnone : reference? (c :: cs) = none := by
      rw [reference?]
      intro rest heq
      cases heq
      exact h List.mem_cons_self
    rw [expand, ih (fun hmem => h (List.mem_cons_of_mem c hmem))]
    split
    · next hsome => cases hnone.symm.trans hsome
    · rfl

/-- A value without references is meant as it stands. -/
theorem meant_of_not_mem {a : Assignment} {text : String} (h : a.value = some text)
    (hplain : '$' ∉ text.toList) : meant environment vars a = some text := by
  rw [meant, h, Option.map_some, expand_of_not_mem hplain, String.ofList_toList]

end Variables

end ColonySearch.Settings
