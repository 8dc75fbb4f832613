import ColonySearch.Proofs.Path
import ColonySearch.Proofs.Store.Persistence

/-!
# Stores opened at their own path

The path of a store is what the text it was opened with comes to: cleaned, and with a home directory in the place of a leading tilde. Opened again with that path as it is written, the store has the same path, so that both keep the term in the same file.
-/

namespace ColonySearch.TermStore

open ColonySearch.Path

variable {homes : Homes} {s s' : TermStore} {t : FileTree} {text term fallback : String}

theorem ofPath_eq_ok_iff {p : Path} : ofPath homes p fallback = .ok s ↔
    p.expandHome homes = .ok s.path ∧ s.fallback = fallback := by
  unfold ofPath
  rw [Outcome.map_eq_ok_iff]
  constructor
  · intro h
    obtain ⟨path, hpath, rfl⟩ := h
    exact ⟨hpath, rfl⟩
  · intro h
    obtain ⟨hpath, rfl⟩ := h
    exact ⟨s.path, hpath, rfl⟩

/-- What is saved through a store is loaded through every store with the same path. -/
theorem load_of_save (hpath : s'.path = s.path) (hsaved : (s.save t term).outcome = .ok ()) :
    s'.load (s.save t term).tree = ⟨.ok term, []⟩ := by
  obtain ⟨file, hfile⟩ := exists_savedFile? hsaved
  have hputs := savedFile?_eq_some hfile
  have haccess := hputs.keeps.refuses ▸ hputs.accessible
  exact (remembers_of_entry hputs.get?_eq haccess s' (hpath ▸ hputs.locate_eq)).1

/-- A store that is opened again at its own path reaches the same file. Whatever text a store was opened with, as long as the home directories are absolute, the text of its path opens a store with that same path, and a term that is saved through one of the two is loaded through the other. -/
theorem reopened_at_own_path (hhomes : homes.Absolute)
    (h : ofPath homes (.ofText text) fallback = .ok s) (fallback' : String) :
    ∃ again, ofPath homes (.ofText s.path.text) fallback' = .ok again ∧ again.path = s.path ∧
      ∀ t term, ((s.save t term).outcome = .ok () →
          again.load (s.save t term).tree = ⟨.ok term, []⟩) ∧
        ((again.save t term).outcome = .ok () →
          s.load (again.save t term).tree = ⟨.ok term, []⟩) := by
  obtain ⟨hpath, _⟩ := ofPath_eq_ok_iff.1 h
  obtain ⟨hnone, hclean⟩ := expandHome_settles hhomes (clean_ofText text) hpath
  have hsame : (ofText s.path.text).expandHome homes = .ok s.path := by
    rw [hclean.ofText_text]
    exact hnone.expandHome_eq homes
  refine ⟨⟨s.path, fallback'⟩, ofPath_eq_ok_iff.2 ⟨hsame, rfl⟩, rfl, fun t term => ?_⟩
  exact ⟨load_of_save rfl, load_of_save rfl⟩

/-! ### A tilde in the middle -/

namespace Sample

def users : Homes := { own := .ofText "//srv/u", others := [("kim", .ofText "/home/kim/.")] }

/-- Only the first tilde was replaced. -/
def nested : TermStore := ⟨.ofText "//srv/u/notes/../~kim", "-."⟩

end Sample

theorem reopened_at_own_path_sample :
    Sample.users.Absolute ∧
      ofPath Sample.users (.ofText ".//~/notes/./../~kim/") "-." = .ok Sample.nested ∧
      Sample.nested.path.text = "//srv/u/notes/../~kim" ∧
      ∃ again, ofPath Sample.users (.ofText "//srv/u/notes/../~kim") "*" = .ok again ∧
        again.path = Sample.nested.path := by
  have hhomes : Sample.users.Absolute := by
    refine ⟨⟨"//srv/u", rfl, rfl⟩, fun entry hentry => ?_⟩
    rw [List.mem_singleton.1 hentry]
    exact ⟨"/home/kim/.", rfl, rfl⟩
  have hopened : ofPath Sample.users (.ofText ".//~/notes/./../~kim/") "-." = .ok Sample.nested := by
    decide +kernel
  have htext : Sample.nested.path.text = "//srv/u/notes/../~kim" := by decide +kernel
  obtain ⟨again, hagain, hpath, _⟩ := reopened_at_own_path hhomes hopened "*"
  rw [htext] at hagain
  exact ⟨hhomes, hopened, htext, again, hagain, hpath⟩

end ColonySearch.TermStore
