import ColonySearch.FileTree
import ColonySearch.Proofs.Outcome
import Mathlib.Logic.Function.Iterate

/-!
# What file operations change

Making directories only puts directories where nothing was, and writing replaces one entry that is neither a directory nor a link. A place found before either is found again afterwards, and the path that was written to leads to the new file. Where a path names something, it does so through directories all the way down.
-/

namespace ColonySearch.FileTree

open Outcome

variable {t t' t'' : FileTree} {p : Path} {dir names found : List String} {throughLast : Bool} {links : Nat}

theorem get?_setEntry_self (h : t.get? names ≠ some .directory) (e : Entry) :
    (t.setEntry names e).get? names = some e := by
  cases names with
  | nil => exact absurd rfl h
  | cons name names => exact if_pos rfl

theorem get?_setEntry_of_ne (h : found ≠ names) (e : Entry) :
    (t.setEntry names e).get? found = t.get? found := by
  cases found with
  | nil => rfl
  | cons name found => exact if_neg h

/-- Of two entries set at one place the second stays. -/
theorem setEntry_setEntry (e e' : Entry) : (t.setEntry names e).setEntry names e' = t.setEntry names e' := by
  simp only [setEntry, mk.injEq, and_true]
  funext found
  by_cases hfound : found = names
  · rw [if_pos hfound, if_pos hfound]
  · rw [if_neg hfound, if_neg hfound, if_neg hfound]

/-! ### Following names -/

theorem systemic_eq_ok_iff {α : Type} {outcome : Except Errno α} {a : α} :
    systemic outcome = .ok a ↔ outcome = .ok a := by
  cases outcome with
  | error e => exact iff_of_false nofun nofun
  | ok b => simp only [systemic, Except.ok.injEq]

theorem permit_eq_ok_iff {use : Use} : t.permit use names = .ok () ↔ t.refuses use names = none := by
  unfold permit
  split
  · next h => exact iff_of_true rfl h
  · next h => exact iff_of_false nofun (by rw [h]; nofun)

theorem requireDirectory_eq_ok_iff : t.requireDirectory dir = .ok () ↔ t.get? dir = some .directory := by
  unfold requireDirectory
  split
  · next h => exact iff_of_true rfl h
  · next hother h => exact iff_of_false nofun (by rw [h]; simpa using hother)
  · next h => exact iff_of_false nofun (by rw [h]; nofun)

theorem enter_eq_ok_iff :
    t.enter dir = .ok () ↔ t.get? dir = some .directory ∧ t.refuses .enter dir = none := by
  rw [enter, bind_unit_eq_ok_iff, requireDirectory_eq_ok_iff, permit_eq_ok_iff]

/-- How names lead from a directory to a place, through so many links at most. -/
inductive Leads (t : FileTree) (throughLast : Bool) : Nat → List String → List String → List String → Prop
  | here (links : Nat) (dir : List String) : Leads t throughLast links dir [] dir
  | up {links : Nat} {dir rest found : List String} (henter : t.enter dir = .ok ())
    (h : Leads t throughLast links dir.dropLast rest found) : Leads t throughLast links dir (".." :: rest) found
  | down {links : Nat} {dir child rest found : List String} {name : String} {e : Entry}
    (henter : t.enter dir = .ok ()) (hname : name ≠ "..") (hchild : childOf dir name = .ok child)
    (hentry : t.get? child = some e) (hlink : ∀ target, e ≠ .link target)
    (h : Leads t throughLast links child rest found) : Leads t throughLast links dir (name :: rest) found
  | missing (links : Nat) {dir child : List String} {name : String} (henter : t.enter dir = .ok ())
    (hname : name ≠ "..") (hchild : childOf dir name = .ok child) (hentry : t.get? child = none) :
    Leads t throughLast links dir [name] child
  | atLink (links : Nat) {dir child : List String} {name : String} {target : Path}
    (henter : t.enter dir = .ok ()) (hname : name ≠ "..") (hchild : childOf dir name = .ok child)
    (hentry : t.get? child = some (.link target)) (hlast : throughLast = false) :
    Leads t throughLast links dir [name] child
  | through {links : Nat} {dir child rest found : List String} {name : String} {target : Path}
    (henter : t.enter dir = .ok ()) (hname : name ≠ "..") (hchild : childOf dir name = .ok child)
    (hentry : t.get? child = some (.link target)) (hlast : rest ≠ [] ∨ throughLast = true)
    (h : Leads t throughLast links (startIn dir target) (target.parts ++ rest) found) :
    Leads t throughLast (links + 1) dir (name :: rest) found

section Walk

variable {jump : List String → List String → Except Errno (List String)}

theorem walk_up {rest : List String} (henter : t.enter dir = .ok ()) :
    t.walk throughLast jump dir (".." :: rest) = t.walk throughLast jump dir.dropLast rest := by
  rw [walk, henter]
  rfl

/-- With a name that is no double dot, the entry of the name decides how names are followed. -/
theorem walk_down {name : String} {rest child : List String} (henter : t.enter dir = .ok ())
    (hname : name ≠ "..") (hchild : childOf dir name = .ok child) :
    t.walk throughLast jump dir (name :: rest) = match t.get? child with
      | none => if rest = [] then .ok child else .error .noEntry
      | some (.link target) =>
        if rest = [] ∧ ¬ throughLast then .ok child
        else jump (startIn dir target) (target.parts ++ rest)
      | some _ => t.walk throughLast jump child rest := by
  rw [walk, henter]
  show (if name = ".." then _ else _) = _
  rw [if_neg hname, hchild]
  rfl

/-- A walk leads where it goes, if this holds of the jumps; it has one link fewer to go through in them. -/
theorem leads_of_walk (hjump : ∀ {dir names}, jump dir names = .ok found →
      ∃ fewer, links = fewer + 1 ∧ Leads t throughLast fewer dir names found)
    (h : t.walk throughLast jump dir names = .ok found) : Leads t throughLast links dir names found := by
  induction names generalizing dir with
  | nil =>
    cases h
    exact .here links _
  | cons name rest ih =>
    have hwalk := h
    rw [walk] at h
    obtain ⟨⟨⟩, henter, h⟩ := bind_eq_ok_iff.1 h
    by_cases hname : name = ".."
    · rw [hname, walk_up henter] at hwalk
      rw [hname]
      exact .up henter (ih hwalk)
    · rw [if_neg hname] at h
      obtain ⟨child, hchild, _⟩ := bind_eq_ok_iff.1 h
      rw [walk_down henter hname hchild] at hwalk
      split at hwalk
      · next hentry =>
        split at hwalk
        · next hrest =>
          cases hwalk
          rw [hrest]
          exact .missing links henter hname hchild hentry
        · cases hwalk
      · next target hentry =>
        split at hwalk
        · next hlast =>
          cases hwalk
          rw [hlast.1]
          exact .atLink links henter hname hchild hentry (Bool.eq_false_iff.2 hlast.2)
        · next hlast =>
          obtain ⟨fewer, rfl, hleads⟩ := hjump hwalk
          refine .through henter hname hchild hentry ?_ hleads
          rw [not_and_or, not_not] at hlast
          exact hlast
      · next e hlink hentry => exact .down henter hname hchild hentry hlink (ih hwalk)

end Walk

theorem leads_of_reach (h : t.reach throughLast links dir names = .ok found) :
    Leads t throughLast links dir names found := by
  induction links generalizing dir names with
  | zero => exact leads_of_walk (by nofun) h
  | succ links ih => exact leads_of_walk (fun hjump => ⟨links, rfl, ih hjump⟩) h

/-- What comes after a jump, with one link fewer left to go through. -/
theorem reach_eq_walk (t : FileTree) (throughLast : Bool) (links : Nat) :
    ∃ jump, t.reach throughLast links = t.walk throughLast jump ∧
      ∀ fewer, links = fewer + 1 → jump = t.reach throughLast fewer := by
  cases links with
  | zero => exact ⟨_, rfl, nofun⟩
  | succ links => exact ⟨_, rfl, fun fewer h => by rw [Nat.succ.inj h]⟩

theorem Leads.reach_eq (h : Leads t throughLast links dir names found) :
    t.reach throughLast links dir names = .ok found := by
  induction h with
  | here links dir =>
    obtain ⟨jump, hreach, _⟩ := t.reach_eq_walk throughLast links
    rw [hreach, walk]
  | @up links _ _ _ henter _ ih =>
    obtain ⟨jump, hreach, _⟩ := t.reach_eq_walk throughLast links
    rw [hreach] at ih ⊢
    rw [walk_up henter, ih]
  | @down links _ _ _ _ _ e henter hname hchild hentry hlink _ ih =>
    obtain ⟨jump, hreach, _⟩ := t.reach_eq_walk throughLast links
    rw [hreach] at ih ⊢
    rw [walk_down henter hname hchild, hentry]
    cases e with
    | link target => exact absurd rfl (hlink target)
    | directory => exact ih
    | file bytes => exact ih
  | missing links henter hname hchild hentry =>
    obtain ⟨jump, hreach, _⟩ := t.reach_eq_walk throughLast links
    rw [hreach, walk_down henter hname hchild, hentry]
    rfl
  | atLink links henter hname hchild hentry hlast =>
    obtain ⟨jump, hreach, _⟩ := t.reach_eq_walk throughLast links
    rw [hreach, walk_down henter hname hchild, hentry, hlast]
    rfl
  | @through links _ _ _ _ _ _ henter hname hchild hentry hlast _ ih =>
    obtain ⟨jump, hreach, hjump⟩ := t.reach_eq_walk throughLast (links + 1)
    rw [hreach, walk_down henter hname hchild, hentry, hjump links rfl]
    dsimp only
    rw [if_neg (by rwa [not_and_or, not_not]), ih]

/-- On the way to what names lead to with a name at the end, the names in front lead to a directory, in which the last name is looked up. -/
theorem Leads.exists_directory {last : String} {rest : List String}
    (h : Leads t throughLast links dir (names ++ last :: rest) found) :
    ∃ place, Leads t true links dir names place ∧ t.enter place = .ok () := by
  generalize hall : names ++ last :: rest = all at h
  induction h generalizing names with
  | here => simp at hall
  | @up links dir _ _ henter _ ih =>
    cases names with
    | nil => exact ⟨dir, .here links dir, henter⟩
    | cons name names =>
      obtain ⟨rfl, rfl⟩ := List.cons.inj hall
      obtain ⟨place, hplace, hentered⟩ := ih rfl
      exact ⟨place, .up henter hplace, hentered⟩
  | @down links dir _ _ _ _ _ henter hname hchild hentry hlink _ ih =>
    cases names with
    | nil => exact ⟨dir, .here links dir, henter⟩
    | cons name names =>
      obtain ⟨rfl, rfl⟩ := List.cons.inj hall
      obtain ⟨place, hplace, hentered⟩ := ih rfl
      exact ⟨place, .down henter hname hchild hentry hlink hplace, hentered⟩
  | @missing links dir _ _ henter | @atLink links dir _ _ _ henter =>
    cases names with
    | nil => exact ⟨dir, .here links dir, henter⟩
    | cons name names => simp at hall
  | @through links dir _ _ _ _ _ henter hname hchild hentry _ _ ih =>
    cases names with
    | nil => exact ⟨dir, .here _ dir, henter⟩
    | cons name names =>
      obtain ⟨rfl, rfl⟩ := List.cons.inj hall
      obtain ⟨place, hplace, hentered⟩ := ih (List.append_assoc ..)
      exact ⟨place, .through henter hname hchild hentry (Or.inr rfl) hplace, hentered⟩

theorem place_eq_ok_iff : t.place throughLast p = .ok names ↔ checkPath p = .ok () ∧
    t.get? (startIn t.workingDirectory p) = some .directory ∧
      Leads t throughLast maxLinks (startIn t.workingDirectory p) p.parts names := by
  rw [place, bind_eq_ok_iff]
  simp only [systemic_eq_ok_iff, bind_eq_ok_iff, ← requireDirectory_eq_ok_iff]
  constructor
  · rintro ⟨_, hcheck, _, hstart, hreach⟩
    exact ⟨hcheck, hstart, leads_of_reach hreach⟩
  · rintro ⟨hcheck, hstart, hleads⟩
    exact ⟨(), hcheck, (), hstart, hleads.reach_eq⟩

theorem locate_eq_ok_iff :
    t.locate p = .ok names ↔ t.place true p = .ok names ∧ (t.get? names).isSome := by
  rw [locate, bind_eq_ok_iff]
  constructor
  · rintro ⟨place, hplace, h⟩
    split at h
    · next hsome =>
      cases h
      exact ⟨hplace, hsome⟩
    · cases h
  · rintro ⟨hplace, hsome⟩
    exact ⟨names, hplace, if_pos hsome⟩

/-! ### Asking and reading -/

/-- The question whether a path names something fails over an error that does not say that the path leads nowhere. -/
theorem pathExists_eq_error_iff {e : FileError} : t.pathExists p = .error e ↔
    ∃ errno, e = .system errno ∧ t.locate p = .error (.system errno) ∧ errno ∉ Errno.leadsNowhere := by
  unfold pathExists ask
  split
  · next h => simp [h]
  · next h => simp [h]
  · next errno h =>
    rw [h]
    split
    · next hnowhere =>
      apply iff_of_false nofun
      rintro ⟨_, _, ⟨⟩, hother⟩
      exact hother hnowhere
    · next hother =>
      constructor
      · rintro ⟨⟩
        exact ⟨errno, rfl, rfl, hother⟩
      · rintro ⟨_, rfl, ⟨⟩, _⟩
        rfl

theorem isDirectory_eq_true_iff : t.isDirectory p = .ok true ↔
    ∃ names, t.locate p = .ok names ∧ t.get? names = some .directory := by
  unfold isDirectory ask
  split
  · next h => simp [h, Option.any_eq_true]
  · next h => simp [h]
  · next h =>
    rw [h]
    split <;> simp

/-- A file with these bytes stands at the path and can be opened. -/
def HasFile (t : FileTree) (p : Path) (bytes : List UInt8) : Prop :=
  ∃ names, t.locate p = .ok names ∧ t.get? names = some (.file bytes) ∧ t.refuses .access names = none

theorem contents_eq_ok_iff {bytes : List UInt8} : t.contents p = .ok bytes ↔ t.HasFile p bytes := by
  rw [contents, bind_eq_ok_iff]
  apply exists_congr
  intro names
  apply and_congr_right
  intro _
  split
  · next h =>
    rw [h, bind_unit_eq_ok_iff, systemic_eq_ok_iff, permit_eq_ok_iff]
    simp [pure, Except.pure, and_comm]
  · next h =>
    apply iff_of_false nofun
    exact fun hfile => h bytes hfile.1

/-! ### Directories above a path -/

theorem parent_eq_self (h : p.parts = []) : p.parent = p := by
  rw [Path.parent, h, List.dropLast_nil, ← h]

/-- The text of a path goes on from the text of its parent, unless that is a mere dot. -/
theorem text_eq_parent_append (p : Path) :
    p.parent.text = "." ∨ ∃ rest, p.text = p.parent.text ++ rest := by
  obtain hparts | ⟨parts, last, hparts⟩ := p.parts.eq_nil_or_concat
  · exact Or.inr ⟨"", by rw [parent_eq_self hparts, String.append_empty]⟩
  · rw [List.concat_eq_append] at hparts
    have hparent : p.parent.text =
        if p.root = .relative ∧ parts = [] then "." else p.root.text ++ "/".intercalate parts := by
      rw [Path.text, Path.parent, hparts, List.dropLast_concat]
    have htext : p.text = p.root.text ++ "/".intercalate (parts ++ [last]) := by
      rw [Path.text, if_neg (by simp [hparts]), hparts]
    by_cases hbare : p.root = .relative ∧ parts = []
    · exact Or.inl (by rw [hparent, if_pos hbare])
    · right
      rw [hparent, if_neg hbare, htext]
      by_cases hnil : parts = []
      · exact ⟨last, by rw [hnil]; simp⟩
      · refine ⟨"/" ++ last, ?_⟩
        rw [String.intercalate_append_of_ne_nil hnil (List.cons_ne_nil last [])]
        simp only [String.intercalate_singleton, String.append_assoc]

theorem checkPath_eq_ok_iff :
    checkPath p = .ok () ↔ '\x00' ∉ p.text.toList ∧ p.text.utf8ByteSize ≤ maxPathBytes := by
  unfold checkPath
  split
  · rename_i hnull
    exact iff_of_false nofun fun h => h.1 (List.contains_iff_mem.1 hnull)
  · rename_i hnull
    split
    · rename_i hlong
      exact iff_of_false nofun fun h => absurd h.2 (Nat.not_le.2 hlong)
    · rename_i hshort
      exact iff_of_true rfl ⟨fun h => hnull (List.contains_iff_mem.2 h), Nat.not_lt.1 hshort⟩

theorem checkPath_parent (h : checkPath p = .ok ()) : checkPath p.parent = .ok () := by
  rw [checkPath_eq_ok_iff] at h ⊢
  obtain hdot | ⟨rest, hrest⟩ := text_eq_parent_append p
  · rw [hdot]
    decide
  · rw [hrest, String.toList_append, List.mem_append, String.utf8ByteSize_append] at h
    exact ⟨fun hnull => h.1 (Or.inl hnull), by omega⟩

/-- Whatever a path names is in a directory, and that is what the path without the last part names. -/
theorem isDirectory_parent (hlocate : t.locate p = .ok names) (hparts : p.parts ≠ []) :
    t.isDirectory p.parent = .ok true := by
  obtain ⟨hcheck, hstart, hleads⟩ := place_eq_ok_iff.1 (locate_eq_ok_iff.1 hlocate).1
  rw [← List.dropLast_concat_getLast hparts] at hleads
  obtain ⟨dir, hdir, henter⟩ := hleads.exists_directory
  have hdirectory := (enter_eq_ok_iff.1 henter).1
  refine isDirectory_eq_true_iff.2 ⟨dir, locate_eq_ok_iff.2 ⟨?_, ?_⟩, hdirectory⟩
  · exact place_eq_ok_iff.2 ⟨checkPath_parent hcheck, hstart, hdir⟩
  · rw [hdirectory]
    rfl

/-- Above what a path names there are directories all the way up. -/
theorem isDirectory_iterate_parent (hlocate : t.locate p = .ok names) (hparts : p.parts ≠ []) (n : Nat) :
    t.isDirectory (Path.parent^[n + 1] p) = .ok true := by
  induction n with
  | zero => exact isDirectory_parent hlocate hparts
  | succ n ih =>
    rw [Function.iterate_succ_apply']
    obtain ⟨dir, hdir, _⟩ := isDirectory_eq_true_iff.1 ih
    by_cases habove : (Path.parent^[n + 1] p).parts = []
    · rw [parent_eq_self habove, ih]
    · exact isDirectory_parent hdir habove

/-! ### Trees that keep what was there -/

/-- At the place is a file or nothing. -/
def IsFree (t : FileTree) (names : List String) : Prop :=
  t.get? names = none ∨ ∃ bytes, t.get? names = some (.file bytes)

theorem IsFree.ne_directory (h : t.IsFree names) : t.get? names ≠ some .directory := by
  obtain h | ⟨_, h⟩ := h <;> rw [h] <;> nofun

theorem IsFree.ne_link (h : t.IsFree names) (target : Path) : t.get? names ≠ some (.link target) := by
  obtain h | ⟨_, h⟩ := h <;> rw [h] <;> nofun

/-- Every directory and every link is still there, and what has come or changed is no link. -/
structure Keeps (t t' : FileTree) : Prop where
  workingDirectory : t'.workingDirectory = t.workingDirectory
  refuses : t'.refuses = t.refuses
  entry : ∀ names, t'.get? names = t.get? names ∨
    t.IsFree names ∧ ∃ e, t'.get? names = some e ∧ ∀ target, e ≠ .link target

theorem Keeps.refl (t : FileTree) : Keeps t t := ⟨rfl, rfl, fun _ => Or.inl rfl⟩

theorem Keeps.trans (h : Keeps t t') (h' : Keeps t' t'') : Keeps t t'' where
  workingDirectory := h'.workingDirectory.trans h.workingDirectory
  refuses := h'.refuses.trans h.refuses
  entry names := by
    obtain hsame' | ⟨hfree', e', he', hlink'⟩ := h'.entry names
    · rw [hsame']
      exact h.entry names
    · obtain hsame | ⟨hfree, _⟩ := h.entry names
      · rw [IsFree, hsame] at hfree'
        exact Or.inr ⟨hfree', e', he', hlink'⟩
      · exact Or.inr ⟨hfree, e', he', hlink'⟩

theorem Keeps.directory (h : Keeps t t') (hdirectory : t.get? names = some .directory) :
    t'.get? names = some .directory := by
  obtain hsame | ⟨hfree, _⟩ := h.entry names
  · rw [hsame, hdirectory]
  · exact absurd hdirectory hfree.ne_directory

theorem Keeps.link {target : Path} (h : Keeps t t') (hlink : t.get? names = some (.link target)) :
    t'.get? names = some (.link target) := by
  obtain hsame | ⟨hfree, _⟩ := h.entry names
  · rw [hsame, hlink]
  · exact absurd hlink (hfree.ne_link target)

theorem Keeps.isSome (h : Keeps t t') (hsome : (t.get? names).isSome) : (t'.get? names).isSome := by
  obtain hsame | ⟨_, e, he, _⟩ := h.entry names
  · rwa [hsame]
  · rw [he]
    rfl

theorem Keeps.enter_eq (h : Keeps t t') (henter : t.enter dir = .ok ()) : t'.enter dir = .ok () := by
  rw [enter_eq_ok_iff] at henter ⊢
  exact ⟨h.directory henter.1, h.refuses ▸ henter.2⟩

/-- Where names led, they still lead. -/
theorem Leads.keeps (hleads : Leads t throughLast links dir names found) (h : Keeps t t') :
    Leads t' throughLast links dir names found := by
  induction hleads with
  | here links dir => exact .here links dir
  | up henter _ ih => exact .up (h.enter_eq henter) ih
  | @down _ _ child _ _ _ e henter hname hchild hentry hlink _ ih =>
    obtain hsame | ⟨_, e', he', hlink'⟩ := h.entry child
    · exact .down (h.enter_eq henter) hname hchild (hsame.trans hentry) hlink ih
    · exact .down (h.enter_eq henter) hname hchild he' hlink' ih
  | @missing links _ child _ henter hname hchild hentry =>
    obtain hsame | ⟨_, e', he', hlink'⟩ := h.entry child
    · exact .missing links (h.enter_eq henter) hname hchild (hsame.trans hentry)
    · exact .down (h.enter_eq henter) hname hchild he' hlink' (.here links child)
  | atLink links henter hname hchild hentry hlast =>
    exact .atLink links (h.enter_eq henter) hname hchild (h.link hentry) hlast
  | through henter hname hchild hentry hlast _ ih =>
    exact .through (h.enter_eq henter) hname hchild (h.link hentry) hlast ih

theorem Keeps.place_eq (h : Keeps t t') (hplace : t.place throughLast p = .ok names) :
    t'.place throughLast p = .ok names := by
  obtain ⟨hcheck, hstart, hleads⟩ := place_eq_ok_iff.1 hplace
  rw [← h.workingDirectory] at hstart hleads
  exact place_eq_ok_iff.2 ⟨hcheck, h.directory hstart, hleads.keeps h⟩

theorem Keeps.locate_eq (h : Keeps t t') (hlocate : t.locate p = .ok names) : t'.locate p = .ok names := by
  obtain ⟨hplace, hsome⟩ := locate_eq_ok_iff.1 hlocate
  exact locate_eq_ok_iff.2 ⟨h.place_eq hplace, h.isSome hsome⟩

theorem keeps_setEntry {e : Entry} (h : t.IsFree names) (hlink : ∀ target, e ≠ .link target) :
    Keeps t (t.setEntry names e) where
  workingDirectory := rfl
  refuses := rfl
  entry found := by
    by_cases hsame : found = names
    · rw [hsame, get?_setEntry_self h.ne_directory]
      exact Or.inr ⟨h, e, rfl, hlink⟩
    · exact Or.inl (get?_setEntry_of_ne hsame e)

/-! ### Making directories -/

/-- Nothing has changed but that directories stand where nothing was. -/
structure AddsDirectories (t t' : FileTree) : Prop where
  workingDirectory : t'.workingDirectory = t.workingDirectory
  refuses : t'.refuses = t.refuses
  entry : ∀ names, t'.get? names = t.get? names ∨
    t.get? names = none ∧ t'.get? names = some .directory

theorem AddsDirectories.refl (t : FileTree) : AddsDirectories t t := ⟨rfl, rfl, fun _ => Or.inl rfl⟩

theorem AddsDirectories.trans (h : AddsDirectories t t') (h' : AddsDirectories t' t'') :
    AddsDirectories t t'' where
  workingDirectory := h'.workingDirectory.trans h.workingDirectory
  refuses := h'.refuses.trans h.refuses
  entry names := by
    obtain hsame' | ⟨hnone, hmade⟩ := h'.entry names
    · rw [hsame']
      exact h.entry names
    · obtain hsame | ⟨_, hmade'⟩ := h.entry names
      · exact Or.inr ⟨hsame ▸ hnone, hmade⟩
      · rw [hmade'] at hnone
        cases hnone

theorem AddsDirectories.file_eq {bytes : List UInt8} (h : AddsDirectories t t')
    (hfile : t.get? names = some (.file bytes)) : t'.get? names = some (.file bytes) := by
  obtain hsame | ⟨hnone, _⟩ := h.entry names
  · rw [hsame, hfile]
  · rw [hfile] at hnone
    cases hnone

theorem AddsDirectories.keeps (h : AddsDirectories t t') : Keeps t t' where
  workingDirectory := h.workingDirectory
  refuses := h.refuses
  entry names := by
    obtain hsame | ⟨hnone, hmade⟩ := h.entry names
    · exact Or.inl hsame
    · exact Or.inr ⟨Or.inl hnone, .directory, hmade, nofun⟩

theorem addsDirectories_of_makeDirectory (h : t.makeDirectory p = .ok t') : AddsDirectories t t' := by
  obtain ⟨names, _, h⟩ := bind_eq_ok_iff.1 h
  split at h
  · cases h
  · next hnone =>
    obtain ⟨_, _, h⟩ := bind_eq_ok_iff.1 h
    cases h
    rw [Option.not_isSome_iff_eq_none] at hnone
    refine ⟨rfl, rfl, fun found => ?_⟩
    by_cases hsame : found = names
    · rw [hsame, get?_setEntry_self (IsFree.ne_directory (Or.inl hnone))]
      exact Or.inr ⟨hnone, rfl⟩
    · exact Or.inl (get?_setEntry_of_ne hsame _)

theorem addsDirectories_of_ensureDirectory (h : t.ensureDirectory p = .ok t') : AddsDirectories t t' := by
  unfold ensureDirectory at h
  split at h
  · next hmade =>
    cases h
    exact addsDirectories_of_makeDirectory hmade
  · cases h
  · split at h
    · cases h
    · obtain ⟨there, _, h⟩ := bind_eq_ok_iff.1 h
      split at h
      · cases h
        exact .refl t
      · cases h

theorem addsDirectories_makeDirectories (t : FileTree) (p : Path) (limit : Option Nat) :
    AddsDirectories t (t.makeDirectories p limit).1 := by
  fun_induction makeDirectories t p limit with
  | case1 p limit t' hmade => exact addsDirectories_of_ensureDirectory hmade
  | case2 p limit e hfailed hlast => exact .refl t
  | case3 p e hfailed hmissing => exact .refl t
  | case4 p limit e hfailed hmissing hlimit t' e' hparent ih =>
    rw [hparent] at ih
    exact ih
  | case5 p limit e hfailed hmissing hlimit t' hparent t'' hmade ih =>
    rw [hparent] at ih
    exact ih.trans (addsDirectories_of_ensureDirectory hmade)
  | case6 p limit e hfailed hmissing hlimit t' hparent e' hfailed' ih =>
    rw [hparent] at ih
    exact ih

/-! ### Writing -/

/-- A file that could be opened for writing stands empty at the place that its path leads to, where there was neither a directory nor a link. -/
theorem openEmpty_eq_ok_iff : t.openEmpty p = .ok (t', names) ↔ t.place true p = .ok names ∧
    t.IsFree names ∧ t.refuses .access names = none ∧ t.refuses .change names = none ∧
      t' = t.setEntry names (.file []) := by
  rw [openEmpty, bind_eq_ok_iff]
  have hopen : ∀ found, (do
      systemic (t.permit .access found)
      systemic (t.permit .change found)
      return (t.setEntry found (.file []), found)) = Except.ok (t', names) ↔ t.refuses .access found = none ∧
        t.refuses .change found = none ∧ t' = t.setEntry names (.file []) ∧ found = names := by
    intro found
    simp only [bind_unit_eq_ok_iff, systemic_eq_ok_iff, permit_eq_ok_iff]
    constructor
    · rintro ⟨haccess, hchange, ⟨⟩⟩
      exact ⟨haccess, hchange, rfl, rfl⟩
    · rintro ⟨haccess, hchange, rfl, rfl⟩
      exact ⟨haccess, hchange, rfl⟩
  constructor
  · rintro ⟨found, hplace, h⟩
    split at h
    · next hnone =>
      obtain ⟨haccess, hchange, rfl, rfl⟩ := (hopen found).1 h
      exact ⟨hplace, Or.inl hnone, haccess, hchange, rfl⟩
    · next hfile =>
      obtain ⟨haccess, hchange, rfl, rfl⟩ := (hopen found).1 h
      exact ⟨hplace, Or.inr ⟨_, hfile⟩, haccess, hchange, rfl⟩
    · cases h
  · rintro ⟨hplace, hfree, haccess, hchange, rfl⟩
    refine ⟨names, hplace, ?_⟩
    obtain hnone | ⟨bytes, hfile⟩ := hfree
    · rw [hnone]
      exact (hopen names).2 ⟨haccess, hchange, rfl, rfl⟩
    · rw [hfile]
      exact (hopen names).2 ⟨haccess, hchange, rfl, rfl⟩

theorem locate_of_place {bytes : List UInt8} (hplace : t.place true p = .ok names)
    (hfree : t.IsFree names) : (t.setEntry names (.file bytes)).locate p = .ok names := by
  refine locate_eq_ok_iff.2 ⟨(keeps_setEntry hfree (by nofun)).place_eq hplace, ?_⟩
  rw [get?_setEntry_self hfree.ne_directory]
  rfl

end ColonySearch.FileTree
