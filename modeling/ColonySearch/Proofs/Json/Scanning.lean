import ColonySearch.Proofs.Json.Numbers
import ColonySearch.Proofs.Json.Texts
import Mathlib.Data.List.Chain

/-!
# Scanning by the grammar

The tokens of a text are those of the lexemes that it is cut into. One direction holds of every text, up to the place where the tokens end in a fault. For the other the cut has to be the one that the scanner makes: a number goes on as long as it can, so the lexeme behind it must be a mark. Then only an integer that is too long comes between, and the fault stands where the integer does.
-/

namespace ColonySearch.Json

/-! ### Lexemes -/

theorem lexeme_of_mark? {c : Char} {token : Token} (h : mark? c = some token) :
    Lexeme token [c] ∧ token.IsMark := by
  obtain ⟨before, after, hlist, _⟩ := List.lookup_eq_some_iff.1 h
  have hmem : (c, token) ∈ before ++ (c, token) :: after :=
    List.mem_append_right before List.mem_cons_self
  rw [← hlist] at hmem
  simp only [List.mem_cons, Prod.mk.injEq, List.not_mem_nil, or_false] at hmem
  rcases hmem with ⟨rfl, rfl⟩ | ⟨rfl, rfl⟩ | ⟨rfl, rfl⟩ | ⟨rfl, rfl⟩ | ⟨rfl, rfl⟩ | ⟨rfl, rfl⟩
  · exact ⟨.openArray, trivial⟩
  · exact ⟨.closeArray, trivial⟩
  · exact ⟨.openObject, trivial⟩
  · exact ⟨.closeObject, trivial⟩
  · exact ⟨.colon, trivial⟩
  · exact ⟨.comma, trivial⟩

theorem lexeme_of_mem_words {word : List Char} {value : Value} (h : (word, value) ∈ words) :
    Lexeme (.scalar value) word := by
  simp only [words, List.mem_cons, Prod.mk.injEq, List.not_mem_nil, or_false] at h
  rcases h with ⟨rfl, rfl⟩ | ⟨rfl, rfl⟩ | ⟨rfl, rfl⟩ | ⟨rfl, rfl⟩ | ⟨rfl, rfl⟩ | ⟨rfl, rfl⟩
  · exact .null
  · exact .trueWord
  · exact .falseWord
  · exact .notNumber
  · exact .infinity
  · exact .minusInfinity

theorem word?_eq_some {cs rest : List Char} {token : Token} (h : word? cs = some (token, rest)) :
    ∃ l, cs = l ++ rest ∧ Lexeme token l := by
  obtain ⟨⟨word, value⟩, hmem, h⟩ := List.exists_of_findSome?_eq_some h
  dsimp only at h
  split at h
  · rename_i hbegin
    cases h
    refine ⟨word, ?_, lexeme_of_mem_words hmem⟩
    exact (List.prefix_iff_eq_append.1 (List.isPrefixOf_iff_prefix.1 hbegin)).symm
  · cases h

/-- What is scanned first is written in front, unless it is an integer that is too long. -/
theorem lexeme?_eq_some {cs rest : List Char} {token : Token} (h : lexeme? cs = some (token, rest)) :
    (∃ l, cs = l ++ rest ∧ Lexeme token l) ∨
      ∃ count, token = .fault (.tooManyDigits count) ∧ OverlongInteger count cs := by
  unfold lexeme? at h
  split at h
  · cases h
  · rename_i c r
    split at h
    · rename_i mark hmark
      cases h
      exact Or.inl ⟨[c], rfl, (lexeme_of_mark? hmark).1⟩
    · split at h
      · rename_i hquote
        obtain ⟨⟨value, r'⟩, hread, h⟩ := Option.map_eq_some_iff.1 h
        cases h
        obtain ⟨codes, ps, chars, rfl, hps, hchars, rfl⟩ := readText_eq_some_iff.1 hread
        refine Or.inl ⟨'"' :: ps ++ ['"'], ?_, .text hps hchars⟩
        rw [hquote, List.append_assoc, List.cons_append, List.singleton_append]
      · split at h
        · rename_i hword
          exact Or.inl (word?_eq_some (h ▸ hword))
        · split at h
          · rename_i hminus
            rw [hminus]
            exact number?_eq_some .minus h
          · exact number?_eq_some .none h

/-- Digits start numbers and nothing else, also behind a minus. -/
theorem lexeme?_of_isDigit {c : Char} (h : isDigit c = true) (rest : List Char) :
    isSpace c = false ∧ lexeme? (c :: rest) = number? [] (c :: rest) ∧
      lexeme? ('-' :: c :: rest) = number? ['-'] (c :: rest) := by
  have hdigit : c ∈ (List.range 10).map fun n => Char.ofNat (0x30 + n) := by
    simp only [isDigit, Bool.and_eq_true, decide_eq_true_eq] at h
    have hlow : 0x30 ≤ c.toNat := h.1
    have hhigh : c.toNat ≤ 0x39 := h.2
    refine List.mem_map.2 ⟨c.toNat - 0x30, List.mem_range.2 (by omega), ?_⟩
    rw [Nat.add_sub_cancel' hlow, Char.ofNat_toNat]
  change c ∈ ['0', '1', '2', '3', '4', '5', '6', '7', '8', '9'] at hdigit
  simp only [List.mem_cons, List.not_mem_nil, or_false] at hdigit
  rcases hdigit with rfl | rfl | rfl | rfl | rfl | rfl | rfl | rfl | rfl | rfl <;> exact ⟨rfl, rfl, rfl⟩

theorem Lexeme.exists_cons {token : Token} {l : List Char} (h : Lexeme token l) :
    ∃ c more, l = c :: more ∧ isSpace c = false := by
  cases h with
  | @number sign digits fraction exponent hsign hdigits =>
    obtain ⟨c, more, rfl, hc⟩ := hdigits.exists_cons
    cases hsign with
    | none => exact ⟨c, _, rfl, (lexeme?_of_isDigit hc []).1⟩
    | minus => exact ⟨'-', _, rfl, rfl⟩
  | _ => exact ⟨_, _, rfl, rfl⟩

/-- What is written in front is scanned first, unless it is an integer that is too long. -/
theorem lexeme?_append {token : Token} {l cs : List Char} (h : Lexeme token l)
    (hcs : ¬ token.IsMark → EndsNumber cs) : lexeme? (l ++ cs) = some (token, cs) ∨
      ∃ count, ¬ token.IsShort ∧ lexeme? (l ++ cs) = some (.fault (.tooManyDigits count), cs) := by
  cases h with
  | text hpieces hchars =>
    left
    rw [List.append_assoc, List.cons_append, List.singleton_append]
    show (readText _).map _ = _
    rw [readText_eq_some_iff.2 ⟨_, _, _, rfl, hpieces, hchars, rfl⟩]
    rfl
  | @number sign digits fraction exponent hsign hdigits hfraction hexponent =>
    have hread := number?_append sign hdigits hfraction hexponent (hcs id)
    obtain ⟨c, more, rfl, hc⟩ := hdigits.exists_cons
    have hlexeme : lexeme? (sign ++ (c :: more) ++ fraction ++ exponent ++ cs) =
        number? sign (c :: more ++ (fraction ++ (exponent ++ cs))) := by
      simp only [List.append_assoc]
      cases hsign with
      | none => exact (lexeme?_of_isDigit hc _).2.1
      | minus => exact (lexeme?_of_isDigit hc _).2.2
    rw [hlexeme]
    refine hread.imp id fun ⟨hnofraction, hnoexponent, hlong, hfault⟩ => ⟨_, fun hshort => ?_, hfault⟩
    rw [hnofraction, hnoexponent, List.append_nil, List.append_nil] at hshort
    exact absurd (hshort sign _ hsign hdigits rfl) (Nat.not_le.2 hlong)
  | _ => exact Or.inl rfl

/-! ### Tokens -/

theorem isSpace_iff {c : Char} : isSpace c = true ↔ c ∈ [' ', '\t', '\n', '\r'] := by
  simp only [isSpace, Bool.or_eq_true, beq_iff_eq, List.mem_cons, List.not_mem_nil, or_false, or_assoc]

theorem tokens_space {c : Char} (h : isSpace c = true) (rest : List Char) :
    tokens (c :: rest) = tokens rest := by
  rw [tokens, if_pos h]

theorem tokens_of_lexeme? {c : Char} {token : Token} {rest rest' : List Char}
    (hspace : isSpace c = false) (hlexeme : lexeme? (c :: rest) = some (token, rest'))
    (hfault : ∀ error, token ≠ .fault error) : tokens (c :: rest) = token :: tokens rest' := by
  rw [tokens, hspace, if_neg Bool.false_ne_true]
  split
  · rename_i hnone
    rw [hlexeme] at hnone
    cases hnone
  · rename_i error _ hfound
    rw [hlexeme] at hfound
    cases hfound
    exact absurd rfl (hfault error)
  · rename_i hfound
    rw [hlexeme] at hfound
    cases hfound
    rfl

theorem tokens_of_fault {c : Char} {error : ReadError} {rest rest' : List Char}
    (hspace : isSpace c = false) (hlexeme : lexeme? (c :: rest) = some (.fault error, rest')) :
    tokens (c :: rest) = [.fault error] := by
  rw [tokens, hspace, if_neg Bool.false_ne_true]
  split
  · rename_i hnone
    rw [hlexeme] at hnone
    cases hnone
  · rename_i hfound
    rw [hlexeme] at hfound
    cases hfound
    rfl
  · rename_i hfault hfound
    rw [hlexeme] at hfound
    cases hfound
    exact absurd rfl (hfault error)

theorem Lexeme.ne_fault {token : Token} {l : List Char} (h : Lexeme token l) (error : ReadError) :
    token ≠ .fault error := by
  cases h <;> nofun

theorem tokens_append {token : Token} {l cs : List Char} (h : Lexeme token l)
    (hcs : ¬ token.IsMark → EndsNumber cs) : tokens (l ++ cs) = token :: tokens cs ∨
      ∃ count, ¬ token.IsShort ∧ tokens (l ++ cs) = [.fault (.tooManyDigits count)] := by
  obtain ⟨c, more, rfl, hspace⟩ := h.exists_cons
  obtain hlexeme | ⟨count, hlong, hfault⟩ := lexeme?_append h hcs
  · exact Or.inl (tokens_of_lexeme? hspace hlexeme h.ne_fault)
  · exact Or.inr ⟨count, hlong, tokens_of_fault hspace hfault⟩

/-- What the tokens of a text end in when they stop in front of a rest of it. -/
inductive Ending : List Char → List Token → Prop
  | done : Ending [] []
  | malformed (rest : List Char) : Ending rest [.fault .malformed]
  | overlong {count : Nat} {rest : List Char} (h : OverlongInteger count rest) :
    Ending rest [.fault (.tooManyDigits count)]

/-- The tokens of a text are written in front. -/
theorem tokens_split (text : List Char) : ∃ front rest written ending, text = front ++ rest ∧
    Lexes written front ∧ Ending rest ending ∧ tokens text = written ++ ending := by
  fun_induction tokens text with
  | case1 => exact ⟨[], [], [], [], rfl, .nil, .done, rfl⟩
  | case2 c rest hspace ih =>
    obtain ⟨front, rest, written, ending, rfl, hfront, hending, htokens⟩ := ih
    exact ⟨c :: front, rest, written, ending, rfl, .blank (isSpace_iff.1 hspace) hfront, hending, htokens⟩
  | case3 c rest hspace hlexeme => exact ⟨[], c :: rest, [], _, rfl, .nil, .malformed _, rfl⟩
  | case4 c rest hspace error rest' hlexeme =>
    obtain ⟨l, _, hl⟩ | ⟨count, hfault, hoverlong⟩ := lexeme?_eq_some hlexeme
    · exact absurd rfl (hl.ne_fault error)
    · cases hfault
      exact ⟨[], c :: rest, [], _, rfl, .nil, .overlong hoverlong, rfl⟩
  | case5 c rest hspace token rest' hfault hlexeme ih =>
    obtain ⟨front, rest', written, ending, rfl, hfront, hending, htokens⟩ := ih
    obtain ⟨l, hsplit, hl⟩ | ⟨count, hfault', _⟩ := lexeme?_eq_some hlexeme
    · refine ⟨l ++ front, rest', token :: written, ending, ?_, .lexeme hl hfront, hending, ?_⟩
      · rw [hsplit, List.append_assoc]
      · rw [htokens, List.cons_append]
    · exact absurd hfault' (hfault _)

theorem Lexes.ne_fault {written : List Token} {cs : List Char} (h : Lexes written cs)
    (error : ReadError) : .fault error ∉ written := by
  induction h with
  | nil => exact List.not_mem_nil
  | blank _ _ ih => exact ih
  | lexeme hl _ ih =>
    rw [List.mem_cons, not_or]
    exact ⟨(hl.ne_fault error).symm, ih⟩

theorem endsNumber_of_lexes {written : List Token} {cs rest : List Char} (h : Lexes written cs)
    (hmark : ∀ token ∈ written.head?, token.IsMark) (hrest : written = [] → EndsNumber rest) :
    EndsNumber (cs ++ rest) := by
  have hhead : ∀ c more, isDigit c = false ∧ c ≠ '.' ∧ c ≠ 'e' ∧ c ≠ 'E' → EndsNumber (c :: more) :=
    fun c more hc d hd => Option.some.inj hd ▸ hc
  cases h with
  | nil => exact hrest rfl
  | blank hc =>
    simp only [List.mem_cons, List.not_mem_nil, or_false] at hc
    rcases hc with rfl | rfl | rfl | rfl <;> exact hhead _ _ (by decide)
  | lexeme hl =>
    have htoken := hmark _ rfl
    cases hl with
    | text | null | trueWord | falseWord | notNumber | infinity | minusInfinity | number =>
      exact htoken.elim
    | _ => exact hhead _ _ (by decide)

/-- No two tokens stand next to each other without one of them being a mark. -/
def Separated (written : List Token) : Prop := written.IsChain fun a b => a.IsMark ∨ b.IsMark

/-- What is written is scanned, up to an integer that is too long. -/
theorem tokens_of_lexes {written : List Token} {text rest : List Char} (h : Lexes written text)
    (hseparated : Separated written) (hrest : ∀ last ∈ written.getLast?, ¬ last.IsMark → EndsNumber rest) :
    tokens (text ++ rest) = written ++ tokens rest ∨
      ∃ front token more count, written = front ++ token :: more ∧ ¬ token.IsShort ∧
        tokens (text ++ rest) = front ++ [.fault (.tooManyDigits count)] := by
  induction h with
  | nil => exact Or.inl rfl
  | blank hc hs ih =>
    rw [List.cons_append, tokens_space (isSpace_iff.2 hc)]
    exact ih hseparated hrest
  | @lexeme token written l cs hl hs ih =>
    obtain ⟨hnext, hmore⟩ := List.isChain_cons.1 hseparated
    have hends : ¬ token.IsMark → EndsNumber (cs ++ rest) := by
      intro hmark
      apply endsNumber_of_lexes hs
      · exact fun next hnext' => (hnext next hnext').resolve_left hmark
      · rintro rfl
        exact hrest token rfl hmark
    rw [List.append_assoc]
    -- Either this lexeme is the integer, or it is scanned and the cases are those of what follows.
    obtain htokens | ⟨count, hlong, hfault⟩ := tokens_append hl hends
    · rw [htokens]
      have hlast : ∀ last ∈ written.getLast?, ¬ last.IsMark → EndsNumber rest := by
        intro last hlast
        apply hrest
        rw [List.getLast?_cons, hlast]
        rfl
      obtain hsame | ⟨front, other, more, count, rfl, hother, hfault⟩ := ih hmore hlast
      · exact Or.inl (by rw [hsame, List.cons_append])
      · exact Or.inr ⟨token :: front, other, more, count, rfl, hother, by rw [hfault]; rfl⟩
    · exact Or.inr ⟨[], token, written, count, rfl, hlong, hfault⟩

/-! ### Stops in the middle -/

theorem isShort_of_lexeme? {cs rest : List Char} {token : Token} (h : lexeme? cs = some (token, rest))
    (hfault : ∀ error, token ≠ .fault error) : token.IsShort := by
  unfold lexeme? at h
  split at h
  · cases h
  · split at h
    · next hmark =>
      cases h
      exact (lexeme_of_mark? hmark).2.isShort
    · split at h
      · obtain ⟨_, _, h⟩ := Option.map_eq_some_iff.1 h
        cases h
        rintro _ _ _ _ ⟨⟩
      · split at h
        · next hword =>
          cases h
          obtain ⟨⟨word, value⟩, hmem, h⟩ := List.exists_of_findSome?_eq_some hword
          dsimp only at h
          split at h
          · cases h
            exact isShort_of_mem_words hmem
          · cases h
        · split at h
          · exact isShort_of_number? .minus h hfault
          · exact isShort_of_number? .none h hfault

/-- No token of a text is an integer that is too long, since such a one is a fault instead. -/
theorem isShort_of_mem_tokens {text : List Char} {token : Token} (h : token ∈ tokens text) :
    token.IsShort := by
  have hfault : ∀ error, (Token.fault error).IsShort := fun error sign digits _ _ htoken => by cases htoken
  fun_induction tokens text with
  | case1 => cases h
  | case2 _ _ _ ih => exact ih h
  | case3 =>
    rw [List.mem_singleton.1 h]
    exact hfault _
  | case4 =>
    rw [List.mem_singleton.1 h]
    exact hfault _
  | case5 _ _ _ first _ hother hlexeme ih =>
    obtain rfl | h := List.mem_cons.1 h
    · exact isShort_of_lexeme? hlexeme fun error hsame => hother error hsame
    · exact ih h

/-- What is written can be cut in front of any of its tokens. -/
theorem Lexes.split {front more : List Token} {token : Token} {text : List Char}
    (h : Lexes (front ++ token :: more) text) :
    ∃ before l after, text = before ++ (l ++ after) ∧ Lexes front before ∧ Lexeme token l := by
  generalize hall : front ++ token :: more = all at h
  induction h generalizing front with
  | nil => simp at hall
  | @blank c _ cs hc _ ih =>
    obtain ⟨before, l, after, rfl, hbefore, hl⟩ := ih hall
    exact ⟨c :: before, l, after, rfl, .blank hc hbefore, hl⟩
  | @lexeme _ _ l cs hl _ ih =>
    cases front with
    | nil =>
      cases hall
      exact ⟨[], l, cs, rfl, .nil, hl⟩
    | cons first front =>
      obtain ⟨rfl, rfl⟩ := List.cons.inj hall
      obtain ⟨before, l', after, rfl, hbefore, hl'⟩ := ih rfl
      exact ⟨l ++ before, l', after, by rw [List.append_assoc], .lexeme hl hbefore, hl'⟩

/-- The tokens of a text can be cut in front of any of them. What comes next there is written, or it is why the tokens end. -/
theorem tokens_cut {text : List Char} {front more : List Token} {token : Token}
    (h : tokens text = front ++ token :: more) : ∃ before rest, text = before ++ rest ∧ Lexes front before ∧
      ((∃ l after, rest = l ++ after ∧ Lexeme token l) ∨ Ending rest (token :: more)) := by
  obtain ⟨before, rest, written, ending, rfl, hbefore, hending, htokens⟩ := tokens_split text
  rw [h] at htokens
  obtain ⟨between, rfl, hmore⟩ | ⟨between, rfl, hmore⟩ := List.append_eq_append_iff.1 htokens
  · cases between with
    | nil =>
      rw [List.nil_append] at hmore
      rw [List.append_nil] at hbefore
      exact ⟨before, rest, rfl, hbefore, Or.inr (hmore ▸ hending)⟩
    | cons next between =>
      cases (List.cons.inj hmore).1
      obtain ⟨before, l, after, rfl, hfront, hl⟩ := hbefore.split
      exact ⟨before, l ++ after ++ rest, by simp only [List.append_assoc], hfront,
        Or.inl ⟨l, after ++ rest, List.append_assoc .., hl⟩⟩
  · obtain rfl : between = [] := by
      cases hending with
      | done => simp at hmore
      | malformed | overlong =>
        cases between with
        | nil => rfl
        | cons next between => simp at hmore
    rw [List.nil_append] at hmore
    rw [List.append_nil]
    exact ⟨before, rest, rfl, hbefore, Or.inr (hmore ▸ hending)⟩

/-- An integer that is too long is a fault where it stands. -/
theorem tokens_of_overlong {count : Nat} {rest : List Char} (h : OverlongInteger count rest) :
    tokens rest = [.fault (.tooManyDigits count)] := by
  obtain ⟨sign, digits, after, rfl, hsign, hdigits, rfl, hlong, hdigit, hfraction, hexponent⟩ := h
  have hnumber : number? sign (digits ++ after) = some (.fault (.tooManyDigits digits.length), after) :=
    number?_of_overlong hdigits hlong hdigit hfraction hexponent
  obtain ⟨c, more, rfl, hc⟩ := hdigits.exists_cons
  rw [List.append_assoc]
  obtain ⟨hspace, hplain, hminus⟩ := lexeme?_of_isDigit hc (more ++ after)
  cases hsign with
  | none => exact tokens_of_fault hspace (hplain.trans hnumber)
  | minus => exact tokens_of_fault rfl (hminus.trans hnumber)

end ColonySearch.Json
