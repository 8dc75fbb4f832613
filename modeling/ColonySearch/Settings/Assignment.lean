import ColonySearch.Text.Blank
import ColonySearch.Text.LineEnd

/-!
# Texts that assign variables

A text of assignments, one a line: a name, an equals sign and a value, behind the word `export` or not. Spacing around the parts does not count. A name or a value may be quoted; a quoted value can hold line ends and escapes, and double quotes allow more escapes than single ones. A value without quotes ends at the first number sign behind spacing. A number sign behind a name or behind a quoted value begins a comment, as it does at the start of a line.

A line that is none of this assigns nothing: reading goes on behind the end of the line in which it stopped. Every step leaves less text, which is why `Assignment.readAll` ends.
-/

namespace ColonySearch.Settings

/-- What one line assigns. A name that stands alone has no value. -/
structure Assignment where
  name : String
  value : Option String
deriving DecidableEq, Repr

namespace Assignment

/-- Whether a character is spacing that ends no line. -/
def isGap (c : Char) : Bool := Text.isSpacing c && c != '\n'

/-- The text from the line end on. -/
def toLineEnd (cs : List Char) : List Char := cs.dropWhile (· != '\n')

def skipLine (cs : List Char) : List Char := (toLineEnd cs).drop 1

/-! ### Quoted texts -/

/-- The text up to the closing quote and the text behind it. A backslash takes the character behind it along, so that a quote there does not close. -/
def splitQuoted? (quote : Char) : List Char → Option (List Char × List Char)
  | [] => none
  | '\\' :: c :: rest =>
    (splitQuoted? quote rest).map fun (inner, after) => ('\\' :: c :: inner, after)
  | c :: rest =>
    if c = quote then some ([], rest)
    else (splitQuoted? quote rest).map fun (inner, after) => (c :: inner, after)

/-- The escapes between single quotes: what follows the backslash, and what is meant. -/
def singleEscapes : List (Char × Char) := [('\\', '\\'), ('\'', '\'')]

def doubleEscapes : List (Char × Char) :=
  singleEscapes ++ [('"', '"'), ('a', '\x07'), ('b', '\x08'), ('f', '\x0c'), ('n', '\n'), ('r', '\r'),
    ('t', '\t'), ('v', '\x0b')]

/-- The text with its escapes replaced; a backslash that begins none stands for itself. -/
def unescape (escapes : List (Char × Char)) : List Char → List Char
  | [] => []
  | '\\' :: c :: rest =>
    match escapes.lookup c with
    | some meant => meant :: unescape escapes rest
    | none => '\\' :: unescape escapes (c :: rest)
  | c :: rest => c :: unescape escapes rest

/-! ### The parts of a line

A part that is read comes with the text behind it. A part that cannot be read leaves the text where reading stopped.
-/

/-- The text behind the word `export` and the gap that follows it, if it begins with them. -/
def dropExport (cs : List Char) : List Char :=
  if "export".toList.isPrefixOf cs && (cs.drop 6).head?.any isGap then (cs.drop 6).dropWhile isGap
  else cs

/-- Whether a character can belong to a name without quotes. -/
def isNameChar (c : Char) : Bool := c != '=' && c != '#' && !Text.isSpacing c

def readName : List Char → Except (List Char) (List Char × List Char)
  | '\'' :: rest =>
    match rest.takeWhile (· != '\''), rest.dropWhile (· != '\'') with
    | c :: name, _ :: after => .ok (c :: name, after)
    | _, _ => .error ('\'' :: rest)
  | cs =>
    match cs.takeWhile isNameChar with
    | [] => .error cs
    | c :: name => .ok (c :: name, cs.dropWhile isNameChar)

/-- The text up to the first number sign behind spacing. `spaced` says whether spacing stands in front of the text. -/
def dropComment (spaced : Bool) : List Char → List Char
  | [] => []
  | c :: rest => if spaced && c == '#' then [] else c :: dropComment (Text.isSpacing c) rest

/-- Reads a quoted text behind its opening quote. -/
def readQuoted (quote : Char) (escapes : List (Char × Char)) (cs : List Char) :
    Except (List Char) (List Char × List Char) :=
  match splitQuoted? quote cs with
  | some (inner, after) => .ok (unescape escapes inner, after)
  | none => .error (quote :: cs)

/-- Reads a value. `spaced` says whether spacing stands in front of it. -/
def readValue (spaced : Bool) : List Char → Except (List Char) (List Char × List Char)
  | '\'' :: rest => readQuoted '\'' singleEscapes rest
  | '"' :: rest => readQuoted '"' doubleEscapes rest
  | cs => .ok (Text.trimSpacingEnd (dropComment spaced (cs.takeWhile (· != '\n'))), toLineEnd cs)

/-- The text from the line end on if a comment stands before it. -/
def skipComment (cs : List Char) : List Char :=
  match cs.dropWhile isGap with
  | '#' :: rest => toLineEnd rest
  | _ => cs

/-- Reads the end of a line and the comment before it, if there is one. -/
def readEnd (cs : List Char) : Except (List Char) (List Char) :=
  match (skipComment cs).dropWhile isGap with
  | [] => .ok []
  | c :: rest => if c = '\n' then .ok rest else .error cs

/-- What stands behind a name: a value behind an equals sign, or nothing. -/
def readAssigned (cs : List Char) : Except (List Char) (Option (List Char) × List Char) :=
  match cs.dropWhile isGap with
  | '=' :: rest =>
    (readValue (rest.head?.any isGap) (rest.dropWhile isGap)).map fun (value, after) =>
      (some value, after)
  | rest => .ok (none, rest)

/-- Reads an assignment with the end of its line. -/
def readNamed (cs : List Char) : Except (List Char) (Assignment × List Char) :=
  match readName cs with
  | .error stop => .error stop
  | .ok (name, rest) =>
    match readAssigned rest with
    | .error stop => .error stop
    | .ok (value, rest) =>
      (readEnd rest).map fun after => (⟨String.ofList name, value.map String.ofList⟩, after)

/-- Reads a line that begins with no spacing: a comment or an assignment. -/
def readLine (cs : List Char) : Except (List Char) (Option Assignment × List Char) :=
  match dropExport cs with
  | '#' :: rest => .ok (none, skipLine rest)
  | rest => (readNamed rest).map fun (a, after) => (some a, after)

/-! ### Every step leaves less text -/

private theorem dropWhile_le {p : Char → Bool} (cs : List Char) :
    (cs.dropWhile p).length ≤ cs.length :=
  (List.dropWhile_sublist p).length_le

theorem length_toLineEnd_le (cs : List Char) : (toLineEnd cs).length ≤ cs.length := dropWhile_le cs

theorem length_skipLine_le (cs : List Char) : (skipLine cs).length ≤ cs.length - 1 := by
  have := length_toLineEnd_le cs
  simp only [skipLine, List.length_drop]
  omega

theorem length_lt_of_splitQuoted? {quote : Char} {cs inner after : List Char}
    (h : splitQuoted? quote cs = some (inner, after)) : after.length < cs.length := by
  fun_induction splitQuoted? quote cs generalizing inner after with
  | case1 => simp at h
  | case2 c rest ih =>
    obtain ⟨⟨i, a⟩, hq, h⟩ := Option.map_eq_some_iff.1 h
    have := ih hq
    simp only [Prod.mk.injEq] at h
    simp only [← h.2, List.length_cons]
    omega
  | case3 rest hne =>
    simp only [Option.some.injEq, Prod.mk.injEq] at h
    simp [← h.2]
  | case4 c rest hne hc ih =>
    obtain ⟨⟨i, a⟩, hq, h⟩ := Option.map_eq_some_iff.1 h
    have := ih hq
    simp only [Prod.mk.injEq] at h
    simp only [← h.2, List.length_cons]
    omega

theorem length_dropExport_le (cs : List Char) : (dropExport cs).length ≤ cs.length := by
  unfold dropExport
  split
  · exact Nat.le_trans (dropWhile_le _) (List.length_drop ▸ Nat.sub_le ..)
  · exact Nat.le_refl _

/-- The length of the text that a part leaves, read or not. -/
def leftLength {α : Type} : Except (List Char) (α × List Char) → Nat
  | .ok (_, after) => after.length
  | .error stop => stop.length

theorem leftLength_map {α β : Type} (r : Except (List Char) (α × List Char)) (f : α → β) :
    leftLength (r.map fun (a, after) => (f a, after)) = leftLength r := by
  cases r <;> rfl

theorem leftLength_readName_le (cs : List Char) : leftLength (readName cs) ≤ cs.length := by
  unfold readName
  split
  · rename_i rest
    split
    · rename_i c name d after _ hd
      have := dropWhile_le (p := (· != '\'')) rest
      simp only [hd, List.length_cons] at this
      simp only [leftLength, List.length_cons]
      omega
    · exact Nat.le_refl _
  · split
    · exact Nat.le_refl _
    · exact dropWhile_le _

theorem length_lt_of_readName {cs name after : List Char} (h : readName cs = .ok (name, after)) :
    after.length < cs.length := by
  unfold readName at h
  split at h
  · rename_i rest
    split at h
    · rename_i c n d r _ hd
      have := dropWhile_le (p := (· != '\'')) rest
      simp only [Except.ok.injEq, Prod.mk.injEq] at h
      simp only [hd, h.2, List.length_cons] at this ⊢
      omega
    · cases h
  · split at h
    · cases h
    · rename_i c n ht
      simp only [Except.ok.injEq, Prod.mk.injEq] at h
      have := congrArg List.length (List.takeWhile_append_dropWhile (p := isNameChar) (l := cs))
      simp only [ht, h.2, List.length_append, List.length_cons] at this
      omega

theorem leftLength_readQuoted_le (quote : Char) (escapes : List (Char × Char)) (cs : List Char) :
    leftLength (readQuoted quote escapes cs) ≤ cs.length + 1 := by
  unfold readQuoted
  split
  · rename_i h
    have := length_lt_of_splitQuoted? h
    simp only [leftLength]
    omega
  · simp [leftLength]

theorem leftLength_readValue_le (spaced : Bool) (cs : List Char) :
    leftLength (readValue spaced cs) ≤ cs.length := by
  unfold readValue
  split
  · exact leftLength_readQuoted_le ..
  · exact leftLength_readQuoted_le ..
  · exact length_toLineEnd_le cs

theorem leftLength_readAssigned_le (cs : List Char) : leftLength (readAssigned cs) ≤ cs.length := by
  have hd := dropWhile_le (p := isGap) cs
  unfold readAssigned
  split
  · rename_i rest hr
    have hv := leftLength_readValue_le (rest.head?.any isGap) (rest.dropWhile isGap)
    have hg := dropWhile_le (p := isGap) rest
    rw [leftLength_map]
    simp only [hr, List.length_cons] at hd
    omega
  · exact hd

theorem length_skipComment_le (cs : List Char) : (skipComment cs).length ≤ cs.length := by
  have hd := dropWhile_le (p := isGap) cs
  unfold skipComment
  split
  · rename_i rest hr
    have := length_toLineEnd_le rest
    simp only [hr, List.length_cons] at hd
    omega
  · exact Nat.le_refl _

theorem length_le_of_readEnd {cs after : List Char} (h : readEnd cs = .ok after) :
    after.length ≤ cs.length := by
  have hs := length_skipComment_le cs
  have hd := dropWhile_le (p := isGap) (skipComment cs)
  unfold readEnd at h
  split at h
  · cases h
    exact Nat.zero_le _
  · rename_i c rest hr
    split at h
    · cases h
      simp only [hr, List.length_cons] at hd
      omega
    · cases h

theorem eq_of_readEnd_error {cs stop : List Char} (h : readEnd cs = .error stop) : stop = cs := by
  unfold readEnd at h
  split at h
  · cases h
  · split at h <;> cases h
    rfl

theorem length_lt_of_readNamed {cs after : List Char} {a : Assignment}
    (h : readNamed cs = .ok (a, after)) : after.length < cs.length := by
  unfold readNamed at h
  split at h
  · cases h
  · rename_i name rest hn
    have h₁ := length_lt_of_readName hn
    have h₂ := leftLength_readAssigned_le rest
    split at h
    · cases h
    · rename_i value left hv
      rw [hv] at h₂
      cases he : readEnd left with
      | error stop => simp [he, Except.map] at h
      | ok r =>
        have h₃ := length_le_of_readEnd he
        simp only [he, Except.map, Except.ok.injEq, Prod.mk.injEq] at h
        simp only [leftLength] at h₂
        rw [← h.2]
        omega

theorem length_le_of_readNamed_error {cs stop : List Char} (h : readNamed cs = .error stop) :
    stop.length ≤ cs.length := by
  have h₀ := leftLength_readName_le cs
  unfold readNamed at h
  split at h
  · rename_i hn
    cases h
    rwa [hn] at h₀
  · rename_i name rest hn
    have h₁ := length_lt_of_readName hn
    have h₂ := leftLength_readAssigned_le rest
    split at h
    · rename_i hv
      cases h
      rw [hv] at h₂
      simp only [leftLength] at h₂
      omega
    · rename_i value left hv
      rw [hv] at h₂
      cases he : readEnd left with
      | error s =>
        simp only [he, Except.map, Except.error.injEq] at h
        simp only [leftLength] at h₂
        rw [← h, eq_of_readEnd_error he]
        omega
      | ok r => simp [he, Except.map] at h

theorem length_lt_of_readLine {cs after : List Char} {a : Option Assignment} (hne : cs ≠ [])
    (h : readLine cs = .ok (a, after)) : after.length < cs.length := by
  have hpos := List.length_pos_iff.2 hne
  have hd := length_dropExport_le cs
  unfold readLine at h
  split at h
  · rename_i rest hr
    have hs := length_skipLine_le rest
    simp only [Except.ok.injEq, Prod.mk.injEq] at h
    simp only [hr, List.length_cons] at hd
    rw [← h.2]
    omega
  · rename_i rest _
    cases hn : readNamed (dropExport cs) with
    | error stop => simp [hn, Except.map] at h
    | ok r =>
      have := length_lt_of_readNamed hn
      simp only [hn, Except.map, Except.ok.injEq, Prod.mk.injEq] at h
      rw [← h.2]
      omega

theorem length_le_of_readLine_error {cs stop : List Char} (h : readLine cs = .error stop) :
    stop.length ≤ cs.length := by
  have hd := length_dropExport_le cs
  unfold readLine at h
  split at h
  · cases h
  · cases hn : readNamed (dropExport cs) with
    | error s =>
      have := length_le_of_readNamed_error hn
      simp only [hn, Except.map, Except.error.injEq] at h
      rw [← h]
      omega
    | ok r => simp [hn, Except.map] at h

theorem length_lt_of_line {cs rest after : List Char} {c : Char} {a : Option Assignment}
    (hc : cs.dropWhile Text.isSpacing = c :: rest) (h : readLine (c :: rest) = .ok (a, after)) :
    after.length < cs.length := by
  have hd := dropWhile_le (p := Text.isSpacing) cs
  have hr := length_lt_of_readLine (List.cons_ne_nil c rest) h
  rw [hc] at hd
  omega

theorem length_skipLine_lt_of_line {cs rest stop : List Char} {c : Char}
    (hc : cs.dropWhile Text.isSpacing = c :: rest) (h : readLine (c :: rest) = .error stop) :
    (skipLine stop).length < cs.length := by
  have hd := dropWhile_le (p := Text.isSpacing) cs
  have hr := length_le_of_readLine_error h
  have hs := length_skipLine_le stop
  rw [hc] at hd
  simp only [List.length_cons] at hd hr
  omega

/-! ### The text -/

/-- The assignments of a text in which every line ends with a line feed. -/
def readLines (cs : List Char) : List Assignment :=
  match hc : cs.dropWhile Text.isSpacing with
  | [] => []
  | c :: rest =>
    match h : readLine (c :: rest) with
    | .ok (a, after) =>
      have := length_lt_of_line hc h
      a.toList ++ readLines after
    | .error stop =>
      have := length_skipLine_lt_of_line hc h
      readLines (skipLine stop)
termination_by cs.length
decreasing_by
  · exact this
  · exact this

/-- The assignments of a text in their order. A byte-order mark in front of the text does not count. -/
def readAll (text : String) : List Assignment :=
  readLines (Text.unifyLineEnds (Text.dropByteOrderMark text.toList))

end Assignment

end ColonySearch.Settings
