import ColonySearch.Proofs.Text.Spans
import ColonySearch.Settings.Assignment

/-!
# What a text of assignments is

The grammar of texts in which every line assigns a value to a name, is a comment, or is blank, with no reader in it. Names and values may stand between quotes, there may be gaps around the parts, and a line may end in a comment. Reading such a text gives its assignments, in their order and with nothing else.
-/

namespace ColonySearch.Settings.Assignment

/-! ### The parts of a line -/

def Spacing (cs : List Char) : Prop := ∀ c ∈ cs, Text.isSpacing c = true

/-- Spacing that ends no line. -/
def Gap (cs : List Char) : Prop := ∀ c ∈ cs, isGap c = true

/-- What is written for a name. -/
inductive Named : List Char → List Char → Prop
  | bare {name : List Char} (hne : name ≠ []) (hchars : ∀ c ∈ name, isNameChar c = true)
    (hquote : name.head? ≠ some '\'') : Named name name
  | quoted {name : List Char} (hne : name ≠ []) (hquote : '\'' ∉ name) :
    Named name ('\'' :: name ++ ['\''])

/-- What is written between quotes for a value. A backslash that begins no escape stands for itself. -/
inductive Quoted (quote : Char) (escapes : List (Char × Char)) : List Char → List Char → Prop
  | nil : Quoted quote escapes [] []
  | plain {c : Char} {value written : List Char} (hquote : c ≠ quote) (hbackslash : c ≠ '\\')
    (hs : Quoted quote escapes value written) : Quoted quote escapes (c :: value) (c :: written)
  | escape {c meant : Char} {value written : List Char} (h : escapes.lookup c = some meant)
    (hs : Quoted quote escapes value written) :
    Quoted quote escapes (meant :: value) ('\\' :: c :: written)
  | backslash {c : Char} {value written : List Char} (h : escapes.lookup c = none) (hbackslash : c ≠ '\\')
    (hs : Quoted quote escapes value written) :
    Quoted quote escapes ('\\' :: c :: value) ('\\' :: c :: written)

/-- A gap, with a comment behind it or not. -/
inductive Trail : List Char → Prop
  | gap {gap : List Char} (hgap : Gap gap) : Trail gap
  | comment {gap text : List Char} (hgap : Gap gap) (hline : '\n' ∉ text) : Trail (gap ++ '#' :: text)

/-- Whether what follows the text stands behind spacing. `spaced` says whether the text does. -/
def spacedBehind (spaced : Bool) (cs : List Char) : Bool := (cs.getLast?.map Text.isSpacing).getD spaced

/-- No number sign stands behind spacing. -/
def NoComment (spaced : Bool) (cs : List Char) : Prop :=
  ∀ before after, cs = before ++ '#' :: after → spacedBehind spaced before = false

/-- The text can stand as a value without quotes. -/
structure Bare (spaced : Bool) (value : List Char) : Prop where
  ne_nil : value ≠ []
  line : '\n' ∉ value
  opens : ∀ c ∈ value.head?, isGap c = false ∧ c ≠ '\'' ∧ c ≠ '"'
  closes : ∀ c ∈ value.getLast?, Text.isSpacing c = false
  noComment : NoComment spaced value

/-- What is written for a value up to the end of its line. `spaced` says whether a gap stands in front of it. -/
inductive Valued (spaced : Bool) : List Char → List Char → Prop
  | empty : Valued spaced [] []
  | comment {text : List Char} (hspaced : spaced = true) (hline : '\n' ∉ text) :
    Valued spaced [] ('#' :: text)
  | bare {value trail : List Char} (h : Bare spaced value) (htrail : Trail trail)
    (hgap : trail.head? ≠ some '#') : Valued spaced value (value ++ trail)
  | single {value written trail : List Char} (h : Quoted '\'' singleEscapes value written)
    (htrail : Trail trail) : Valued spaced value ('\'' :: written ++ '\'' :: trail)
  | double {value written trail : List Char} (h : Quoted '"' doubleEscapes value written)
    (htrail : Trail trail) : Valued spaced value ('"' :: written ++ '"' :: trail)

/-- What may stand in front of a name. -/
inductive Export : List Char → Prop
  | none : Export []
  | word {gap : List Char} (hgap : Gap gap) (hne : gap ≠ []) : Export ("export".toList ++ gap)

/-! ### Lines and texts -/

/-- The line assigns the value to the name. The word `export` alone is no name where a gap follows it. -/
inductive Line : String → String → List Char → Prop
  | mk {start name written gap gap' value right : List Char} (hstart : Export start)
    (hname : Named name written) (hword : start = [] → written = "export".toList → gap = [])
    (hgap : Gap gap) (hgap' : Gap gap') (hvalue : Valued (!gap'.isEmpty) value right) :
    Line (String.ofList name) (String.ofList value) (start ++ written ++ gap ++ '=' :: gap' ++ right)

/-- Nothing goes on in the line. -/
def AtLineEnd (cs : List Char) : Prop := ∀ c ∈ cs.head?, c = '\n'

/-- The text consists of comments and of lines that make the assignments, with spacing in front of each. -/
inductive Lists : List Assignment → List Char → Prop
  | nil {cs : List Char} (h : Spacing cs) : Lists [] cs
  | comment {lead text rest : List Char} {as : List Assignment} (hlead : Spacing lead)
    (hline : '\n' ∉ text) (hend : AtLineEnd rest) (hs : Lists as rest) :
    Lists as (lead ++ '#' :: text ++ rest)
  | assignment {lead line rest : List Char} {name value : String} {as : List Assignment}
    (hlead : Spacing lead) (h : Line name value line) (hend : AtLineEnd rest) (hs : Lists as rest) :
    Lists (⟨name, some value⟩ :: as) (lead ++ line ++ rest)

variable {spaced : Bool} {name value written trail gap rest cs text : List Char} {as : List Assignment}

theorem noComment_of_not_mem (h : '#' ∉ cs) : NoComment spaced cs := by
  intro before after heq
  exact absurd (heq ▸ List.mem_append_right before List.mem_cons_self) h

theorem not_isGap {c : Char} (h : Text.isSpacing c = false) : isGap c = false := by
  rw [isGap, h, Bool.false_and]

theorem not_isSpacing_of_isNameChar {c : Char} (h : isNameChar c = true) : Text.isSpacing c = false := by
  simp only [isNameChar, Bool.and_eq_true, Bool.not_eq_true'] at h
  exact h.2

theorem Gap.nil : Gap [] := nofun

/-! ### Reading the parts -/

theorem not_isNameChar_of_isGap {c : Char} (h : isGap c = true) : isNameChar c = false := by
  rw [← Bool.not_eq_true]
  intro hname
  rw [not_isGap (not_isSpacing_of_isNameChar hname)] at h
  cases h

theorem Gap.spacing (h : Gap gap) : Spacing gap := fun c hc => (Bool.and_eq_true_iff.1 (h c hc)).1

theorem Gap.line (h : Gap gap) : '\n' ∉ gap := fun hc => absurd (h '\n' hc) (by decide)

theorem toLineEnd_append (hline : '\n' ∉ text) (hend : AtLineEnd rest) :
    toLineEnd (text ++ rest) = rest := by
  apply Text.dropWhile_stretch
  · intro c hc
    exact bne_iff_ne.2 fun heq => hline (heq ▸ hc)
  · intro c hc
    exact bne_eq_false_iff_eq.2 (hend c hc)

theorem takeLine_append (hline : '\n' ∉ text) (hend : AtLineEnd rest) :
    (text ++ rest).takeWhile (· != '\n') = text := by
  apply Text.takeWhile_stretch
  · intro c hc
    exact bne_iff_ne.2 fun heq => hline (heq ▸ hc)
  · intro c hc
    exact bne_eq_false_iff_eq.2 (hend c hc)

theorem AtLineEnd.noGap (h : AtLineEnd rest) : ∀ c ∈ rest.head?, isGap c = false := by
  intro c hc
  rw [h c hc]
  decide

theorem dropGap_append (hgap : Gap gap) (hrest : ∀ c ∈ rest.head?, isGap c = false) :
    (gap ++ rest).dropWhile isGap = rest :=
  Text.dropWhile_stretch hgap hrest

theorem noGap_lineFeed : ∀ c ∈ ('\n' :: rest).head?, isGap c = false :=
  Text.forall_mem_head?_cons (by decide)

/-- Behind a trail nothing is left of its line. -/
theorem Trail.readEnd_append (h : Trail trail) (hend : AtLineEnd rest) :
    readEnd (trail ++ rest) = .ok (rest.drop 1) := by
  have hskip : (skipComment (trail ++ rest)).dropWhile isGap = rest := by
    have hrest : rest.dropWhile isGap = rest := dropGap_append .nil hend.noGap
    cases h with
    | gap hgap =>
      rw [skipComment, dropGap_append hgap hend.noGap]
      cases rest with
      | nil => exact dropGap_append hgap hend.noGap
      | cons c rest =>
        rw [hend c rfl]
        exact dropGap_append hgap noGap_lineFeed
    | @comment gap text hgap hline =>
      have hsign : ((gap ++ '#' :: text) ++ rest).dropWhile isGap = '#' :: (text ++ rest) := by
        rw [List.append_assoc]
        exact dropGap_append hgap (Text.forall_mem_head?_cons (by decide))
      rw [skipComment, hsign]
      show (toLineEnd (text ++ rest)).dropWhile isGap = rest
      rw [toLineEnd_append hline hend, hrest]
  rw [readEnd, hskip]
  cases rest with
  | nil => rfl
  | cons c rest =>
    rw [hend c rfl]
    rfl

theorem Named.readName_append (h : Named name written) (hrest : ∀ c ∈ rest.head?, isNameChar c = false) :
    readName (written ++ rest) = .ok (name, rest) := by
  cases h with
  | bare hne hchars hquote =>
    have htake := Text.takeWhile_stretch hchars hrest
    have hdrop := Text.dropWhile_stretch hchars hrest
    cases name with
    | nil => exact absurd rfl hne
    | cons c name =>
      rw [readName]
      · rw [htake, hdrop]
      · intro more heq
        cases heq
        exact hquote rfl
  | quoted hne hquote =>
    have hall : ∀ c ∈ name, (c != '\'') = true := fun c hc => bne_iff_ne.2 fun heq => hquote (heq ▸ hc)
    have hclose : ∀ c ∈ ('\'' :: rest).head?, (c != '\'') = false := Text.forall_mem_head?_cons rfl
    have hsplit : ('\'' :: name ++ ['\'']) ++ rest = '\'' :: (name ++ '\'' :: rest) := by simp
    rw [hsplit, readName, Text.takeWhile_stretch hall hclose, Text.dropWhile_stretch hall hclose]
    cases name with
    | nil => exact absurd rfl hne
    | cons c name => rfl

/-! ### Reading a value -/

theorem splitQuoted?_cons {quote c : Char} (h : c ≠ '\\') :
    splitQuoted? quote (c :: rest) =
      if c = quote then some ([], rest)
      else (splitQuoted? quote rest).map fun (inner, after) => (c :: inner, after) := by
  rw [splitQuoted?]
  intro d more hc
  exact absurd hc h

theorem unescape_cons {escapes : List (Char × Char)} {c : Char} (h : c ≠ '\\') :
    unescape escapes (c :: rest) = c :: unescape escapes rest := by
  rw [unescape]
  intro d more hc
  exact absurd hc h

section Quoted

variable {quote : Char} {escapes : List (Char × Char)}

theorem Quoted.splitQuoted?_append (hquote : quote ≠ '\\') (h : Quoted quote escapes value written) :
    splitQuoted? quote (written ++ quote :: rest) = some (written, rest) := by
  induction h with
  | nil => exact (splitQuoted?_cons hquote).trans (if_pos rfl)
  | plain hc hbackslash _ ih =>
    rw [List.cons_append, splitQuoted?_cons hbackslash, if_neg hc, ih]
    rfl
  | escape _ _ ih =>
    rw [List.cons_append, List.cons_append, splitQuoted?, ih]
    rfl
  | backslash _ _ _ ih =>
    rw [List.cons_append, List.cons_append, splitQuoted?, ih]
    rfl

theorem Quoted.unescape_eq (h : Quoted quote escapes value written) : unescape escapes written = value := by
  induction h with
  | nil => rfl
  | plain _ hbackslash _ ih => rw [unescape_cons hbackslash, ih]
  | escape h _ ih =>
    rw [unescape, h]
    exact congrArg _ ih
  | backslash h hbackslash _ ih =>
    rw [unescape, h]
    show '\\' :: unescape escapes _ = _
    rw [unescape_cons hbackslash, ih]

theorem Quoted.readQuoted_append (hquote : quote ≠ '\\') (h : Quoted quote escapes value written) :
    readQuoted quote escapes (written ++ quote :: rest) = .ok (value, rest) := by
  rw [readQuoted, h.splitQuoted?_append hquote]
  show Except.ok (unescape escapes written, rest) = _
  rw [h.unescape_eq]

end Quoted

theorem spacedBehind_cons {c : Char} :
    spacedBehind spaced (c :: cs) = spacedBehind (Text.isSpacing c) cs := by
  rw [spacedBehind, spacedBehind, List.getLast?_cons, Option.map_some, Option.getD_some, Option.getD_map]

theorem NoComment.tail {c : Char} (h : NoComment spaced (c :: cs)) : NoComment (Text.isSpacing c) cs := by
  intro before after hcs
  rw [← spacedBehind_cons]
  exact h (c :: before) after (congrArg (c :: ·) hcs)

/-- A text without a comment is kept, whatever follows it. -/
theorem NoComment.dropComment_append (h : NoComment spaced cs) :
    dropComment spaced (cs ++ rest) = cs ++ dropComment (spacedBehind spaced cs) rest := by
  induction cs generalizing spaced with
  | nil => rfl
  | cons c cs ih =>
    have hc : (spaced && c == '#') = false := by
      rw [Bool.and_eq_false_imp]
      intro hspaced
      rw [beq_eq_false_iff_ne]
      intro heq
      have := h [] cs (heq ▸ rfl)
      exact absurd (hspaced.symm.trans this) nofun
    rw [List.cons_append, dropComment, hc, spacedBehind_cons, ih h.tail]
    rfl

theorem Gap.noComment (h : Gap gap) : NoComment spaced gap :=
  noComment_of_not_mem fun hmem => absurd (h '#' hmem) (by decide)

theorem Gap.spacedBehind_eq (h : Gap gap) (hne : gap ≠ []) : spacedBehind spaced gap = true := by
  rw [spacedBehind, List.getLast?_eq_some_getLast hne]
  exact h.spacing _ (List.getLast_mem hne)

/-- Of a trail that does not begin with its comment the gap is kept. -/
theorem Trail.dropComment_eq (h : Trail trail) (spaced : Bool) (hsign : trail.head? ≠ some '#') :
    ∃ gap, Gap gap ∧ dropComment spaced trail = gap := by
  cases h with
  | gap hgap =>
    refine ⟨trail, hgap, ?_⟩
    have hkept : dropComment spaced (trail ++ []) = trail ++ dropComment _ [] :=
      hgap.noComment.dropComment_append
    rwa [List.append_nil, dropComment, List.append_nil] at hkept
  | @comment gap text hgap hline =>
    have hne : gap ≠ [] := fun hnil => hsign (hnil ▸ rfl)
    refine ⟨gap, hgap, ?_⟩
    rw [hgap.noComment.dropComment_append, hgap.spacedBehind_eq hne]
    exact List.append_nil gap

theorem line_comment (h : '\n' ∉ text) : '\n' ∉ '#' :: text :=
  List.not_mem_cons_of_ne_of_not_mem (by decide) h

theorem Trail.line (h : Trail trail) : '\n' ∉ trail := by
  cases h with
  | gap hgap => exact hgap.line
  | comment hgap hline => exact List.not_mem_append hgap.line (line_comment hline)

theorem trimSpacingEnd_append (hgap : Gap gap) (hcloses : ∀ c ∈ value.getLast?, Text.isSpacing c = false) :
    Text.trimSpacingEnd (value ++ gap) = value := by
  rw [Text.trimSpacingEnd, List.reverse_append, Text.dropWhile_stretch, List.reverse_reverse]
  · intro c hc
    exact hgap.spacing c (List.mem_reverse.1 hc)
  · rwa [List.head?_reverse]

theorem Bare.opens_append (h : Bare spaced value) :
    ∀ c ∈ (value ++ rest).head?, isGap c = false ∧ c ≠ '\'' ∧ c ≠ '"' := by
  cases value with
  | nil => exact absurd rfl h.ne_nil
  | cons c value => exact h.opens

/-- What opens no quotes is read up to the end of its line. -/
theorem readValue_line (hopens : ∀ c ∈ (cs ++ rest).head?, c ≠ '\'' ∧ c ≠ '"') (hline : '\n' ∉ cs)
    (hend : AtLineEnd rest) :
    readValue spaced (cs ++ rest) = .ok (Text.trimSpacingEnd (dropComment spaced cs), rest) := by
  rw [readValue, takeLine_append hline hend, toLineEnd_append hline hend]
  · intro more heq
    exact (hopens '\'' (heq ▸ rfl)).1 rfl
  · intro more heq
    exact (hopens '"' (heq ▸ rfl)).2 rfl

theorem AtLineEnd.opens (h : AtLineEnd rest) : ∀ c ∈ rest.head?, c ≠ '\'' ∧ c ≠ '"' := by
  intro c hc
  rw [h c hc]
  decide

theorem AtLineEnd.readEnd_eq (h : AtLineEnd rest) : readEnd rest = .ok (rest.drop 1) :=
  (Trail.gap .nil).readEnd_append h

/-- A value is read with nothing but its trail left of the line. -/
theorem Valued.readValue_append (h : Valued spaced value written) (hend : AtLineEnd rest) :
    ∃ left, readValue spaced (written ++ rest) = .ok (value, left) ∧ readEnd left = .ok (rest.drop 1) := by
  cases h with
  | empty =>
    refine ⟨rest, ?_, hend.readEnd_eq⟩
    exact readValue_line hend.opens Gap.nil.line hend
  | comment hspaced hline =>
    refine ⟨rest, ?_, hend.readEnd_eq⟩
    rw [hspaced]
    exact readValue_line (Text.forall_mem_head?_cons (by decide)) (line_comment hline) hend
  | @bare value trail h htrail hsign =>
    refine ⟨rest, ?_, hend.readEnd_eq⟩
    obtain ⟨gap, hgap, hdrop⟩ := htrail.dropComment_eq (spacedBehind spaced value) hsign
    have hopens : ∀ c ∈ ((value ++ trail) ++ rest).head?, c ≠ '\'' ∧ c ≠ '"' := by
      intro c hc
      rw [List.append_assoc] at hc
      exact (h.opens_append c hc).2
    rw [readValue_line hopens (List.not_mem_append h.line htrail.line) hend,
      h.noComment.dropComment_append, hdrop, trimSpacingEnd_append hgap h.closes]
  | @single value written trail h htrail =>
    refine ⟨trail ++ rest, ?_, htrail.readEnd_append hend⟩
    rw [List.cons_append, List.cons_append, List.append_assoc]
    exact h.readQuoted_append (by decide)
  | @double value written trail h htrail =>
    refine ⟨trail ++ rest, ?_, htrail.readEnd_append hend⟩
    rw [List.cons_append, List.cons_append, List.append_assoc]
    exact h.readQuoted_append (by decide)

/-! ### Reading a line -/

theorem Valued.noGap (h : Valued spaced value written) (hend : AtLineEnd rest) :
    ∀ c ∈ (written ++ rest).head?, isGap c = false := by
  cases h with
  | empty => exact hend.noGap
  | comment => exact Text.forall_mem_head?_cons (by decide)
  | bare h =>
    intro c hc
    rw [List.append_assoc] at hc
    exact (h.opens_append c hc).1
  | single => exact Text.forall_mem_head?_cons (by decide)
  | double => exact Text.forall_mem_head?_cons (by decide)

/-- Behind a name an equals sign and a value are read. -/
theorem Valued.readAssigned_append {gap' : List Char} (hgap : Gap gap) (hgap' : Gap gap')
    (h : Valued (!gap'.isEmpty) value written) (hend : AtLineEnd rest) :
    ∃ left, readAssigned (gap ++ '=' :: (gap' ++ (written ++ rest))) = .ok (some value, left) ∧
      readEnd left = .ok (rest.drop 1) := by
  obtain ⟨left, hvalue, hleft⟩ := h.readValue_append hend
  refine ⟨left, ?_, hleft⟩
  have hequals : (gap ++ '=' :: (gap' ++ (written ++ rest))).dropWhile isGap =
      '=' :: (gap' ++ (written ++ rest)) :=
    dropGap_append hgap (Text.forall_mem_head?_cons (by decide))
  have hspaced : (gap' ++ (written ++ rest)).head?.any isGap = !gap'.isEmpty := by
    cases gap' with
    | nil => exact (Option.any_eq_false _ _).2 (h.noGap hend)
    | cons c gap' => exact hgap' c List.mem_cons_self
  rw [readAssigned, hequals]
  show (readValue _ _).map _ = _
  rw [hspaced, dropGap_append hgap' (h.noGap hend), hvalue]
  rfl

theorem Named.opens (h : Named name written) :
    ∀ c ∈ (written ++ rest).head?, Text.isSpacing c = false ∧ c ≠ '#' := by
  cases h with
  | bare hne hchars hquote =>
    cases name with
    | nil => exact absurd rfl hne
    | cons c name =>
      have hc := hchars c List.mem_cons_self
      refine Text.forall_mem_head?_cons ⟨not_isSpacing_of_isNameChar hc, ?_⟩
      intro heq
      rw [heq] at hc
      exact absurd hc (by decide)
  | quoted => exact Text.forall_mem_head?_cons (by decide)

theorem Named.noGap (h : Named name written) : ∀ c ∈ (written ++ rest).head?, isGap c = false :=
  fun c hc => not_isGap (h.opens c hc).1

theorem Gap.endsName (h : Gap gap) : ∀ c ∈ (gap ++ '=' :: rest).head?, isNameChar c = false := by
  cases gap with
  | nil => exact Text.forall_mem_head?_cons (by decide)
  | cons c gap => exact Text.forall_mem_head?_cons (not_isNameChar_of_isGap (h c List.mem_cons_self))

theorem dropExport_word (hgap : Gap gap) (hne : gap ≠ [])
    (hrest : ∀ c ∈ rest.head?, isGap c = false) :
    dropExport (("export".toList ++ gap) ++ rest) = rest := by
  rw [List.append_assoc]
  have hword : "export".toList.isPrefixOf ("export".toList ++ (gap ++ rest)) = true :=
    List.isPrefixOf_iff_prefix.2 (List.prefix_append _ _)
  have hbehind : ("export".toList ++ (gap ++ rest)).drop 6 = gap ++ rest := List.drop_left' (by decide)
  have hhead : (gap ++ rest).head?.any isGap = true := by
    cases gap with
    | nil => exact absurd rfl hne
    | cons c gap => exact hgap c List.mem_cons_self
  rw [dropExport, hword, hbehind, hhead]
  exact dropGap_append hgap hrest

/-- A name is not taken for the word `export` in front of it, though it may begin with that word. -/
theorem Named.dropExport_append (h : Named name written)
    (hrest : ∀ c ∈ rest.head?, isNameChar c = false)
    (hword : written = "export".toList → ∀ c ∈ rest.head?, isGap c = false) :
    dropExport (written ++ rest) = written ++ rest := by
  rw [dropExport, if_neg]
  rw [Bool.and_eq_true, List.isPrefixOf_iff_prefix]
  intro hexport
  obtain ⟨⟨behind, heq⟩, hgap⟩ := hexport
  rw [← heq, List.drop_left' (by decide), Option.any_eq_true] at hgap
  obtain ⟨c, hc, hgap⟩ := hgap
  have hbare : ∀ d ∈ written, isNameChar d = true := by
    cases h with
    | bare _ hchars => exact hchars
    | quoted => exact absurd heq (by simp)
  -- Both the name and the word are the longest stretch of characters that can belong to a name.
  have hname : (written ++ rest).takeWhile isNameChar = written := Text.takeWhile_stretch hbare hrest
  have hletters : ("export".toList ++ behind).takeWhile isNameChar = "export".toList := by
    apply Text.takeWhile_stretch (List.all_eq_true.1 (by decide))
    intro d hd
    cases hc.symm.trans hd
    exact not_isNameChar_of_isGap hgap
  have hsame : written = "export".toList := by rw [← hname, ← heq, hletters]
  rw [hsame] at heq
  rw [List.append_cancel_left heq] at hc
  exact absurd hgap (Bool.eq_false_iff.1 (hword hsame c hc))

theorem readLine_assignment {a : Assignment} {after : List Char} (hopens : ∀ c ∈ cs.head?, c ≠ '#')
    (hexport : dropExport text = cs) (h : readNamed cs = .ok (a, after)) :
    readLine text = .ok (some a, after) := by
  rw [readLine, hexport]
  split
  · exact absurd rfl (hopens '#' rfl)
  · rw [h]
    rfl

/-- A line that assigns is read with its end. -/
theorem Line.readLine_append {name value : String} {line : List Char} (h : Line name value line)
    (hend : AtLineEnd rest) :
    readLine (line ++ rest) = .ok (some ⟨name, some value⟩, rest.drop 1) := by
  cases h with
  | @mk start name written gap gap' value right hstart hname hword hgap hgap' hvalue =>
    obtain ⟨left, hassigned, hleft⟩ := hvalue.readAssigned_append hgap hgap' hend
    have hnamed : readNamed (written ++ (gap ++ '=' :: (gap' ++ (right ++ rest)))) =
        .ok (⟨String.ofList name, some (String.ofList value)⟩, rest.drop 1) := by
      rw [readNamed, hname.readName_append hgap.endsName]
      dsimp only
      rw [hassigned]
      dsimp only
      rw [hleft]
      rfl
    have hsplit : (start ++ written ++ gap ++ '=' :: gap' ++ right) ++ rest =
        start ++ (written ++ (gap ++ '=' :: (gap' ++ (right ++ rest)))) := by
      simp only [List.append_assoc, List.cons_append]
    rw [hsplit]
    refine readLine_assignment (fun c hc => (hname.opens c hc).2) ?_ hnamed
    cases hstart with
    | none =>
      refine hname.dropExport_append hgap.endsName ?_
      intro heq
      rw [hword rfl heq]
      exact Text.forall_mem_head?_cons (by decide)
    | word hstart hne => exact dropExport_word hstart hne hname.noGap

theorem readLine_comment (hline : '\n' ∉ text) (hend : AtLineEnd rest) :
    readLine ('#' :: (text ++ rest)) = .ok (none, rest.drop 1) := by
  have hexport : dropExport ('#' :: (text ++ rest)) = '#' :: (text ++ rest) := if_neg (by simp)
  rw [readLine, hexport]
  show Except.ok (none, skipLine (text ++ rest)) = _
  rw [skipLine, toLineEnd_append hline hend]

/-! ### Reading a text -/

theorem readLines_of_spacing (h : Spacing cs) : readLines cs = [] := by
  have hdrop : (cs ++ []).dropWhile Text.isSpacing = [] := Text.dropWhile_stretch h nofun
  rw [List.append_nil] at hdrop
  rw [readLines]
  split
  · rfl
  · next c rest hc => cases hdrop.symm.trans hc

theorem readLines_of_line {c : Char} {after : List Char} {a : Option Assignment}
    (hc : cs.dropWhile Text.isSpacing = c :: rest) (h : readLine (c :: rest) = .ok (a, after)) :
    readLines cs = a.toList ++ readLines after := by
  rw [readLines]
  split
  · next hnil => cases hc.symm.trans hnil
  · next d more hd =>
    obtain ⟨rfl, rfl⟩ := List.cons_eq_cons.1 (hc.symm.trans hd)
    split
    · next b left hb =>
      cases h.symm.trans hb
      rfl
    · next stop herror => cases h.symm.trans herror

theorem readLines_lineFeed : readLines ('\n' :: rest) = readLines rest := by
  rw [readLines, readLines]
  rfl

/-- Whether a line end is read with its line or with the text behind it makes no difference. -/
theorem readLines_drop (hend : AtLineEnd rest) : readLines (rest.drop 1) = readLines rest := by
  cases rest with
  | nil => rfl
  | cons c rest =>
    rw [hend c rfl]
    exact readLines_lineFeed.symm

/-- Behind spacing one line is read and then the text behind it. -/
theorem readLines_append {lead line : List Char} {a : Option Assignment} (hlead : Spacing lead)
    (hopens : ∀ c ∈ (line ++ rest).head?, Text.isSpacing c = false) (hne : line ≠ [])
    (hend : AtLineEnd rest) (h : readLine (line ++ rest) = .ok (a, rest.drop 1)) :
    readLines (lead ++ line ++ rest) = a.toList ++ readLines rest := by
  have hdrop : (lead ++ line ++ rest).dropWhile Text.isSpacing = line ++ rest := by
    rw [List.append_assoc]
    exact Text.dropWhile_stretch hlead hopens
  cases line with
  | nil => exact absurd rfl hne
  | cons c line => rw [readLines_of_line hdrop h, readLines_drop hend]

theorem Line.opens {name value : String} {line : List Char} (h : Line name value line) :
    ∀ c ∈ (line ++ rest).head?, Text.isSpacing c = false := by
  cases h with
  | mk hstart hname =>
    cases hstart with
    | none =>
      intro c hc
      simp only [List.append_assoc, List.nil_append] at hc
      exact (hname.opens c hc).1
    | word => exact Text.forall_mem_head?_cons (by decide)

theorem Line.ne_nil {name value : String} {line : List Char} (h : Line name value line) : line ≠ [] := by
  cases h with
  | mk => simp

/-- A text is read as the assignments that it lists. -/
theorem Lists.readLines_eq (h : Lists as cs) : readLines cs = as := by
  induction h with
  | nil h => exact readLines_of_spacing h
  | @comment lead text rest as hlead hline hend _ ih =>
    have hopens : ∀ c ∈ ('#' :: text ++ rest).head?, Text.isSpacing c = false :=
      Text.forall_mem_head?_cons (by decide)
    rw [readLines_append hlead hopens (List.cons_ne_nil _ _) hend (readLine_comment hline hend), ih]
    rfl
  | assignment hlead h hend _ ih =>
    rw [readLines_append hlead h.opens h.ne_nil hend (h.readLine_append hend), ih]
    rfl

end ColonySearch.Settings.Assignment
