import ColonySearch.Path
import ColonySearch.Proofs.Outcome
import Mathlib.Data.String.Basic

/-!
# Paths as they are written

A path that is read from a text has clean parts: none is empty, a single dot, or holds a slash. Written out and read again, a path with clean parts is the same path, so the text of a path stands for the path. To replace a home directory at the start of a path leads to an absolute path, if homes are absolute, and nothing at the start of an absolute path is replaced: doing it twice is doing it once.
-/

namespace ColonySearch.Path

/-- No part says nothing, and none holds a slash. -/
def Clean (p : Path) : Prop := ∀ part ∈ p.parts, isPart part.toList = true ∧ '/' ∉ part.toList

/-- The path is one that a text beginning with a slash is read as. -/
def IsAbsolute (p : Path) : Prop := ∃ text : String, text.toList.head? = some '/' ∧ p = ofText text

/-- Every home directory is an absolute path. -/
structure Homes.Absolute (homes : Homes) : Prop where
  own : homes.own.IsAbsolute
  others : ∀ entry ∈ homes.others, entry.2.IsAbsolute

variable {p q : Path} {homes homes' : Homes}

/-! ### Reading -/

theorem splitOn_slash (text : List Char) : ('/' :: text).splitOn '/' = [] :: text.splitOn '/' :=
  List.splitOn_cons_eq_if_modifyHead ..

theorem not_mem_of_mem_splitOn {between text : List Char} (h : between ∈ text.splitOn '/') :
    '/' ∉ between := by
  induction text generalizing between with
  | nil =>
    rw [List.splitOn_nil, List.mem_singleton] at h
    rw [h]
    exact List.not_mem_nil
  | cons c rest ih =>
    rw [List.splitOn_cons_eq_if_modifyHead] at h
    by_cases hc : c = '/'
    · rw [if_pos (beq_iff_eq.2 hc), List.mem_cons] at h
      rcases h with rfl | h
      · exact List.not_mem_nil
      · exact ih h
    · rw [if_neg (mt beq_iff_eq.1 hc)] at h
      cases hsplit : rest.splitOn '/' with
      | nil => exact absurd hsplit (List.splitOn_ne_nil '/' rest)
      | cons first others =>
        rw [hsplit, List.modifyHead_cons, List.mem_cons] at h
        rcases h with rfl | h
        · have hfirst : '/' ∉ first := ih (hsplit ▸ List.mem_cons_self)
          rw [List.mem_cons, not_or]
          exact ⟨Ne.symm hc, hfirst⟩
        · exact ih (hsplit ▸ List.mem_cons_of_mem first h)

theorem clean_ofText (text : String) : (ofText text).Clean := by
  intro part hpart
  obtain ⟨between, hbetween, rfl⟩ := List.mem_map.1 hpart
  obtain ⟨hsplit, hsaid⟩ := List.mem_filter.1 hbetween
  rw [String.toList_ofList]
  exact ⟨hsaid, not_mem_of_mem_splitOn hsplit⟩

theorem root_of_isAbsolute (h : p.IsAbsolute) : p.root ≠ .relative := by
  obtain ⟨text, hslash, rfl⟩ := h
  change rootOf text.toList ≠ .relative
  unfold rootOf
  split
  · nofun
  · nofun
  · nofun
  · rename_i hother
    obtain ⟨rest, hrest⟩ := List.head?_eq_some_iff.1 hslash
    exact absurd hrest (hother rest)

theorem clean_of_isAbsolute (h : p.IsAbsolute) : p.Clean := by
  obtain ⟨text, _, rfl⟩ := h
  exact clean_ofText text

/-! ### Writing and reading again -/

/-- The parts with slashes between them. -/
def joined (p : Path) : List Char := ['/'].intercalate (p.parts.map String.toList)

/-- What begins with a clean part begins with no slash. -/
theorem Clean.joined_head (h : p.Clean) : p.joined.head? ≠ some '/' := by
  unfold joined
  cases hparts : p.parts with
  | nil => nofun
  | cons part rest =>
    obtain ⟨hsaid, hslash⟩ := h part (hparts ▸ List.mem_cons_self)
    cases hpart : part.toList with
    | nil =>
      rw [hpart] at hsaid
      cases hsaid
    | cons c cs =>
      rw [hpart] at hslash
      have hc : c ≠ '/' := fun heq => hslash (heq ▸ List.mem_cons_self)
      cases rest <;> simpa [List.intercalate, hpart] using hc

/-- Splitting what was joined gives the parts back. -/
theorem Clean.parts_joined (h : p.Clean) :
    ((p.joined.splitOn '/').filter isPart).map String.ofList = p.parts := by
  unfold joined
  cases hparts : p.parts with
  | nil => rfl
  | cons part rest =>
    rw [← hparts, List.splitOn_intercalate]
    · have hall : ∀ between ∈ p.parts.map String.toList, isPart between = true := by
        intro between hbetween
        obtain ⟨part, hpart, rfl⟩ := List.mem_map.1 hbetween
        exact (h part hpart).1
      rw [List.filter_eq_self.2 hall, List.map_map]
      simp
    · intro between hbetween
      obtain ⟨part, hpart, rfl⟩ := List.mem_map.1 hbetween
      exact (h part hpart).2
    · rw [hparts]
      nofun

theorem toList_text (h : ¬ (p.root = .relative ∧ p.parts = [])) :
    p.text.toList = p.root.text.toList ++ p.joined := by
  rw [text, if_neg h, String.toList_append, String.toList_intercalate]
  rfl

theorem rootOf_append {cs : List Char} (root : Root) (h : cs.head? ≠ some '/') :
    rootOf (root.text.toList ++ cs) = root := by
  cases cs with
  | nil => cases root <;> rfl
  | cons c rest =>
    have hc : c ≠ '/' := fun heq => h (congrArg some heq)
    cases root <;> simp [Root.text, rootOf, hc]

/-- The slashes of the root stand between no parts. -/
theorem filter_splitOn_append (root : Root) (cs : List Char) :
    ((root.text.toList ++ cs).splitOn '/').filter isPart = (cs.splitOn '/').filter isPart := by
  have hslash : ∀ cs : List Char,
      (('/' :: cs).splitOn '/').filter isPart = (cs.splitOn '/').filter isPart := by
    intro cs
    rw [splitOn_slash]
    rfl
  cases root with
  | relative => rfl
  | absolute => exact hslash cs
  | doubled => exact (hslash ('/' :: cs)).trans (hslash cs)

/-- A path that is written out is read back. -/
theorem Clean.ofText_text (h : p.Clean) : ofText p.text = p := by
  by_cases hhere : p.root = .relative ∧ p.parts = []
  · rw [text, if_pos hhere]
    obtain ⟨root, parts⟩ := p
    obtain ⟨rfl, rfl⟩ := hhere
    rfl
  · rw [ofText, toList_text hhere, rootOf_append p.root h.joined_head, filter_splitOn_append,
      h.parts_joined]

/-! ### Home directories -/

theorem Homes.Absolute.directory {part : String} {home : Path} (h : homes.Absolute)
    (hdir : homes.directory part = .ok home) : home.IsAbsolute := by
  unfold Homes.directory at hdir
  split at hdir
  · cases hdir
    exact h.own
  · rename_i name _
    split at hdir
    · cases hdir
    · split at hdir
      · rename_i found hfound
        cases hdir
        obtain ⟨before, after, hothers, _⟩ := List.lookup_eq_some_iff.1 hfound
        exact h.others (String.ofList (part.toList.drop 1), home)
          (hothers ▸ List.mem_append_right before List.mem_cons_self)
      · cases hdir

/-- The path names no home directory: it is absolute or does not begin with a tilde. -/
def NamesNoHome (p : Path) : Prop :=
  p.root ≠ .relative ∨ ∀ first rest, p.parts = first :: rest → first.toList.head? ≠ some '~'

theorem NamesNoHome.expandHome_eq (h : p.NamesNoHome) (homes : Homes) :
    p.expandHome homes = .ok p := by
  unfold expandHome
  split
  · rename_i first rest hroot hparts
    rcases h with habsolute | htilde
    · exact absurd hroot habsolute
    · rw [if_neg (htilde first rest hparts)]
  · rfl

/-- Replacing a home directory leads to a path that names none and is as clean as the path was. -/
theorem expandHome_settles (hhomes : homes.Absolute) (hclean : p.Clean)
    (h : p.expandHome homes = .ok q) : q.NamesNoHome ∧ q.Clean := by
  unfold expandHome at h
  split at h
  · rename_i first rest hroot hparts
    split at h
    · obtain ⟨home, hdir, rfl⟩ := Outcome.map_eq_ok_iff.1 h
      have habsolute := hhomes.directory hdir
      have hroot : home.root ≠ .relative := root_of_isAbsolute habsolute
      refine ⟨Or.inl hroot, ?_⟩
      intro part hpart
      rcases List.mem_append.1 hpart with hhome | hrest
      · exact clean_of_isAbsolute habsolute part hhome
      · exact hclean part (hparts ▸ List.mem_cons_of_mem first hrest)
    · rename_i htilde
      cases h
      refine ⟨Or.inr ?_, hclean⟩
      intro first' rest' hparts'
      rw [hparts] at hparts'
      cases hparts'
      exact htilde
  · rename_i hother
    cases h
    refine ⟨?_, hclean⟩
    by_cases hroot : p.root = .relative
    · refine Or.inr fun first rest hparts => ?_
      exact absurd hparts (hother first rest hroot)
    · exact Or.inl hroot

end ColonySearch.Path
