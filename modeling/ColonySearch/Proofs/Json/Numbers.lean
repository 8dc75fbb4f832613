import ColonySearch.Proofs.Json.Grammar
import ColonySearch.Proofs.Text.Spans
import Mathlib.Data.List.TakeWhile

/-!
# Numbers by the grammar

A number is read part by part, each as far as it goes. What is read is written in front, by the grammar of each part; and what is written is read, provided that nothing comes next that the part could go on with. An integer with too many digits is neither read nor refused: it is a fault of its own, and then no digit, no fraction and no exponent follows.
-/

namespace ColonySearch.Json

/-! ### Digits -/

/-- No digit comes next. -/
def NoDigit (cs : List Char) : Prop := ∀ c ∈ cs.head?, isDigit c = false

/-- Nothing that a number could go on with comes next. -/
def EndsNumber (cs : List Char) : Prop :=
  ∀ c ∈ cs.head?, isDigit c = false ∧ c ≠ '.' ∧ c ≠ 'e' ∧ c ≠ 'E'

theorem EndsNumber.noDigit {cs : List Char} (h : EndsNumber cs) : NoDigit cs := fun c hc => (h c hc).1

theorem noDigit_dropWhile (cs : List Char) : NoDigit (cs.dropWhile isDigit) :=
  Text.forall_mem_head?_dropWhile isDigit cs

theorem span_digits {ds rest : List Char} (hds : ∀ d ∈ ds, isDigit d = true) (hrest : NoDigit rest) :
    (ds ++ rest).takeWhile isDigit = ds ∧ (ds ++ rest).dropWhile isDigit = rest :=
  ⟨Text.takeWhile_stretch hds hrest, Text.dropWhile_stretch hds hrest⟩

/-! ### The parts of a number -/

theorem integerPart?_eq_some {cs digits rest : List Char} (h : integerPart? cs = some (digits, rest)) :
    cs = digits ++ rest ∧ IntegerPart digits ∧ (digits ≠ ['0'] → NoDigit rest) := by
  unfold integerPart? at h
  split at h
  · cases h
    exact ⟨rfl, .zero, fun hne => absurd rfl hne⟩
  · rename_i c r hzero
    split at h
    · rename_i hc
      cases h
      refine ⟨?_, .digits hc ?_ ?_, fun _ => noDigit_dropWhile r⟩
      · rw [List.cons_append, List.takeWhile_append_dropWhile]
      · exact hzero
      · intro d hd
        exact List.mem_takeWhile_imp hd
    · cases h
  · cases h

theorem integerPart?_append {digits rest : List Char} (h : IntegerPart digits) (hrest : NoDigit rest) :
    integerPart? (digits ++ rest) = some (digits, rest) := by
  cases h with
  | zero => rfl
  | digits hc hzero hds =>
    obtain ⟨htake, hdrop⟩ := span_digits hds hrest
    rw [List.cons_append, integerPart?, if_pos hc, htake, hdrop]
    exact hzero

theorem fractionPart_split (cs : List Char) :
    FractionPart (fractionPart cs).1 ∧ (fractionPart cs).1 ++ (fractionPart cs).2 = cs := by
  unfold fractionPart
  split
  · rename_i c r
    split
    · rename_i hc
      refine ⟨.digits ⟨List.cons_ne_nil _ _, List.forall_mem_cons.2 ⟨hc, ?_⟩⟩, ?_⟩
      · intro d hd
        exact List.mem_takeWhile_imp hd
      · simp only [List.cons_append, List.takeWhile_append_dropWhile]
    · exact ⟨.none, rfl⟩
  · exact ⟨.none, rfl⟩

theorem fractionPart_append {fraction rest : List Char} (h : FractionPart fraction)
    (hrest : NoDigit rest) (hdot : rest.head? ≠ some '.') :
    fractionPart (fraction ++ rest) = (fraction, rest) := by
  cases h with
  | none =>
    rw [List.nil_append]
    unfold fractionPart
    split
    · exact absurd rfl hdot
    · rfl
  | @digits ds hds =>
    obtain ⟨d, ds, rfl⟩ := List.exists_cons_of_ne_nil hds.1
    obtain ⟨hd, hmore⟩ := List.forall_mem_cons.1 hds.2
    obtain ⟨htake, hdrop⟩ := span_digits hmore hrest
    rw [List.cons_append, List.cons_append, fractionPart, if_pos hd, htake, hdrop]

theorem eq_nil_of_fractionPart {cs fraction : List Char} (hnone : (fractionPart cs).1 = [])
    (h : FractionPart fraction) (hbegin : fraction <+: cs) : fraction = [] := by
  cases h with
  | none => rfl
  | @digits ds hds =>
    obtain ⟨d, ds, rfl⟩ := List.exists_cons_of_ne_nil hds.1
    obtain ⟨rest, rfl⟩ := hbegin
    rw [List.cons_append, List.cons_append, fractionPart,
      if_pos (hds.2 d List.mem_cons_self)] at hnone
    cases hnone

theorem exponentDigits_split (marks whole cs : List Char) (hwhole : marks ++ cs = whole) :
    ((exponentDigits marks whole cs).1 = [] ∨
      ∃ ds, Digits ds ∧ (exponentDigits marks whole cs).1 = marks ++ ds) ∧
    (exponentDigits marks whole cs).1 ++ (exponentDigits marks whole cs).2 = whole := by
  unfold exponentDigits
  split
  · rename_i c r
    split
    · rename_i hc
      refine ⟨Or.inr ⟨_, ⟨List.cons_ne_nil _ _, List.forall_mem_cons.2 ⟨hc, ?_⟩⟩, rfl⟩, ?_⟩
      · intro d hd
        exact List.mem_takeWhile_imp hd
      · simp only [List.append_assoc, List.cons_append, List.takeWhile_append_dropWhile]
        exact hwhole
    · exact ⟨Or.inl rfl, rfl⟩
  · exact ⟨Or.inl rfl, rfl⟩

theorem exponentDigits_append {marks whole ds rest : List Char} (hds : Digits ds)
    (hrest : NoDigit rest) : exponentDigits marks whole (ds ++ rest) = (marks ++ ds, rest) := by
  obtain ⟨d, ds, rfl⟩ := List.exists_cons_of_ne_nil hds.1
  obtain ⟨hd, hmore⟩ := List.forall_mem_cons.1 hds.2
  obtain ⟨htake, hdrop⟩ := span_digits hmore hrest
  rw [List.cons_append, exponentDigits, if_pos hd, htake, hdrop]

theorem exponentDigits_ne_nil {marks whole ds rest : List Char} (hds : Digits ds) :
    (exponentDigits marks whole (ds ++ rest)).1 ≠ [] := by
  obtain ⟨d, ds, rfl⟩ := List.exists_cons_of_ne_nil hds.1
  rw [List.cons_append, exponentDigits, if_pos (hds.2 d List.mem_cons_self)]
  exact List.append_ne_nil_of_right_ne_nil marks (List.cons_ne_nil d _)

theorem exponentPart_split (cs : List Char) :
    ExponentPart (exponentPart cs).1 ∧ (exponentPart cs).1 ++ (exponentPart cs).2 = cs := by
  unfold exponentPart
  split
  · rename_i e sign r
    split
    · rename_i he
      split
      · rename_i hsign
        obtain ⟨hexponent, hsplit⟩ := exponentDigits_split [e, sign] (e :: sign :: r) r rfl
        refine ⟨?_, hsplit⟩
        obtain hnone | ⟨ds, hds, hsome⟩ := hexponent
        · rw [hnone]
          exact .none
        · rw [hsome]
          exact .signed he hsign hds
      · obtain ⟨hexponent, hsplit⟩ := exponentDigits_split [e] (e :: sign :: r) (sign :: r) rfl
        refine ⟨?_, hsplit⟩
        obtain hnone | ⟨ds, hds, hsome⟩ := hexponent
        · rw [hnone]
          exact .none
        · rw [hsome]
          exact .unsigned he hds
    · exact ⟨.none, rfl⟩
  · exact ⟨.none, rfl⟩

theorem exponentPart_unsigned {e : Char} {ds rest : List Char} (he : e = 'e' ∨ e = 'E')
    (hds : Digits ds) : exponentPart (e :: ds ++ rest) =
      exponentDigits [e] (e :: ds ++ rest) (ds ++ rest) := by
  obtain ⟨d, ds, rfl⟩ := List.exists_cons_of_ne_nil hds.1
  have hd := hds.2 d List.mem_cons_self
  rw [List.cons_append, List.cons_append, exponentPart, if_pos he, if_neg]
  rintro (rfl | rfl) <;> cases hd

theorem exponentPart_append {exponent rest : List Char} (h : ExponentPart exponent)
    (hrest : EndsNumber rest) : exponentPart (exponent ++ rest) = (exponent, rest) := by
  cases h with
  | none =>
    rw [List.nil_append]
    unfold exponentPart
    split
    · rename_i e sign r
      rw [if_neg]
      rintro (rfl | rfl)
      · exact absurd rfl (hrest 'e' rfl).2.2.1
      · exact absurd rfl (hrest 'E' rfl).2.2.2
    · rfl
  | unsigned he hds => rw [exponentPart_unsigned he hds, exponentDigits_append hds hrest.noDigit]; rfl
  | signed he hsign hds =>
    rw [List.cons_append, List.cons_append, exponentPart, if_pos he, if_pos hsign,
      exponentDigits_append hds hrest.noDigit]
    rfl

theorem eq_nil_of_exponentPart {cs exponent : List Char} (hnone : (exponentPart cs).1 = [])
    (h : ExponentPart exponent) (hbegin : exponent <+: cs) : exponent = [] := by
  obtain ⟨rest, rfl⟩ := hbegin
  cases h with
  | none => rfl
  | unsigned he hds =>
    rw [exponentPart_unsigned he hds] at hnone
    exact absurd hnone (exponentDigits_ne_nil hds)
  | signed he hsign hds =>
    rw [List.cons_append, List.cons_append, exponentPart, if_pos he, if_pos hsign] at hnone
    exact absurd hnone (exponentDigits_ne_nil hds)

/-! ### Whole numbers -/

/-- A number that is read is written in front, unless it is an integer that is too long. -/
theorem number?_eq_some {sign cs rest : List Char} {token : Token} (hsign : Sign sign)
    (h : number? sign cs = some (token, rest)) :
    (∃ l, sign ++ cs = l ++ rest ∧ Lexeme token l) ∨
      ∃ count, token = .fault (.tooManyDigits count) ∧ OverlongInteger count (sign ++ cs) := by
  simp only [number?, Option.bind_eq_bind, Option.bind_eq_some_iff] at h
  obtain ⟨⟨digits, r⟩, hinteger, h⟩ := h
  obtain ⟨rfl, hdigits, hend⟩ := integerPart?_eq_some hinteger
  obtain ⟨hfraction, hr⟩ := fractionPart_split r
  obtain ⟨hexponent, hr'⟩ := exponentPart_split (fractionPart r).2
  split at h
  · rename_i hlong
    cases h
    simp only [Bool.and_eq_true, List.isEmpty_iff, decide_eq_true_eq] at hlong
    obtain ⟨⟨hnofraction, hnoexponent⟩, hlong⟩ := hlong
    rw [hnofraction, List.nil_append] at hr
    rw [hr] at hnoexponent
    refine Or.inr ⟨digits.length, rfl, sign, digits, r, (List.append_assoc _ _ _).symm, hsign, hdigits,
      rfl, hlong, hend ?_, fun _ => eq_nil_of_fractionPart hnofraction,
      fun _ => eq_nil_of_exponentPart hnoexponent⟩
    rintro rfl
    exact absurd hlong (by decide)
  · cases h
    refine Or.inl ⟨_, ?_, .number hsign hdigits hfraction hexponent⟩
    rw [List.append_assoc, hr', List.append_assoc, List.append_assoc, hr]

theorem endsFraction_append {exponent rest : List Char} (h : ExponentPart exponent)
    (hrest : EndsNumber rest) : NoDigit (exponent ++ rest) ∧ (exponent ++ rest).head? ≠ some '.' := by
  have hletter : ∀ {e : Char} (more : List Char), e = 'e' ∨ e = 'E' →
      NoDigit (e :: more) ∧ (e :: more).head? ≠ some '.' := by
    rintro _ more (rfl | rfl)
    · exact ⟨fun c hc => Option.some.inj hc ▸ rfl, fun h => absurd (Option.some.inj h) (by decide)⟩
    · exact ⟨fun c hc => Option.some.inj hc ▸ rfl, fun h => absurd (Option.some.inj h) (by decide)⟩
  cases h with
  | none => exact ⟨hrest.noDigit, fun hdot => (hrest '.' hdot).2.1 rfl⟩
  | unsigned he => exact hletter _ he
  | signed he => exact hletter _ he

theorem noDigit_append {fraction rest : List Char} (h : FractionPart fraction) (hrest : NoDigit rest) :
    NoDigit (fraction ++ rest) := by
  cases h with
  | none => exact hrest
  | digits => exact fun c hc => Option.some.inj hc ▸ rfl

/-- A number that is written in front is read, unless it is an integer that is too long. -/
theorem number?_append {digits fraction exponent rest : List Char} (sign : List Char)
    (hdigits : IntegerPart digits) (hfraction : FractionPart fraction)
    (hexponent : ExponentPart exponent) (hrest : EndsNumber rest) :
    number? sign (digits ++ (fraction ++ (exponent ++ rest))) =
        some (.scalar (.number (String.ofList (sign ++ digits ++ fraction ++ exponent))), rest) ∨
      fraction = [] ∧ exponent = [] ∧ maxDigits < digits.length ∧
        number? sign (digits ++ (fraction ++ (exponent ++ rest))) =
          some (.fault (.tooManyDigits digits.length), rest) := by
  obtain ⟨hnodigit, hnodot⟩ := endsFraction_append hexponent hrest
  have hinteger := integerPart?_append hdigits (noDigit_append hfraction hnodigit)
  simp only [number?, hinteger, fractionPart_append hfraction hnodigit hnodot,
    exponentPart_append hexponent hrest, Option.bind_eq_bind, Option.bind_some, Option.pure_def]
  split
  · next hlong =>
    simp only [Bool.and_eq_true, List.isEmpty_iff, decide_eq_true_eq] at hlong
    exact Or.inr ⟨hlong.1.1, hlong.1.2, hlong.2, rfl⟩
  · exact Or.inl rfl

/-- An integer that is too long is read as a fault. -/
theorem number?_of_overlong {sign digits rest : List Char} (hdigits : IntegerPart digits)
    (hlong : maxDigits < digits.length) (hdigit : NoDigit rest)
    (hfraction : ∀ fraction, FractionPart fraction → fraction <+: rest → fraction = [])
    (hexponent : ∀ exponent, ExponentPart exponent → exponent <+: rest → exponent = []) :
    number? sign (digits ++ rest) = some (.fault (.tooManyDigits digits.length), rest) := by
  have hnofraction : fractionPart rest = ([], rest) := by
    obtain ⟨hpart, hsplit⟩ := fractionPart_split rest
    have hnone := hfraction _ hpart ⟨_, hsplit⟩
    rw [hnone, List.nil_append] at hsplit
    exact Prod.ext hnone hsplit
  have hnoexponent : exponentPart rest = ([], rest) := by
    obtain ⟨hpart, hsplit⟩ := exponentPart_split rest
    have hnone := hexponent _ hpart ⟨_, hsplit⟩
    rw [hnone, List.nil_append] at hsplit
    exact Prod.ext hnone hsplit
  simp only [number?, integerPart?_append hdigits hdigit, hnofraction, hnoexponent, Option.bind_eq_bind,
    Option.bind_some, List.isEmpty_nil, Bool.and_self, decide_eq_true hlong, if_true]
  rfl

/-! ### Integers within the limit -/

theorem IntegerPart.isDigit {digits : List Char} (h : IntegerPart digits) :
    ∀ c ∈ digits, isDigit c = true := by
  cases h with
  | zero => exact List.forall_mem_singleton.2 rfl
  | digits hc _ hds => exact List.forall_mem_cons.2 ⟨hc, hds⟩

theorem IntegerPart.exists_cons {digits : List Char} (h : IntegerPart digits) :
    ∃ c more, digits = c :: more ∧ Json.isDigit c = true := by
  cases h with
  | zero => exact ⟨'0', [], rfl, rfl⟩
  | @digits c ds hc => exact ⟨c, ds, rfl, hc⟩

/-- A number that is an integer as well has these digits and nothing behind them. -/
theorem eq_of_integer {sign digits fraction exponent sign' digits' : List Char} (hsign : Sign sign)
    (hdigits : IntegerPart digits) (hfraction : FractionPart fraction) (hexponent : ExponentPart exponent)
    (hsign' : Sign sign') (hdigits' : IntegerPart digits')
    (h : sign ++ digits ++ fraction ++ exponent = sign' ++ digits') :
    digits = digits' ∧ fraction = [] ∧ exponent = [] := by
  have hminus : isDigit '-' = false := rfl
  have htail : digits ++ (fraction ++ exponent) = digits' := by
    obtain ⟨c, more, rfl, hc⟩ := hdigits.exists_cons
    obtain ⟨c', more', rfl, hc'⟩ := hdigits'.exists_cons
    cases hsign with
    | none =>
      cases hsign' with
      | none => simpa using h
      | minus =>
        cases (List.cons.inj h).1
        rw [hminus] at hc
        cases hc
    | minus =>
      cases hsign' with
      | none =>
        cases (List.cons.inj h).1
        rw [hminus] at hc'
        cases hc'
      | minus => simpa using h
  have hall : ∀ c ∈ fraction ++ exponent, isDigit c = true := by
    intro c hc
    exact hdigits'.isDigit c (htail ▸ List.mem_append_right digits hc)
  have hnofraction : fraction = [] := by
    cases hfraction with
    | none => rfl
    | digits => exact absurd (hall '.' (by simp)) (by decide)
  have hnoexponent : exponent = [] := by
    cases hexponent with
    | none => rfl
    | unsigned he | signed he =>
      obtain rfl | rfl := he
      · exact absurd (hall 'e' (by simp)) (by decide)
      · exact absurd (hall 'E' (by simp)) (by decide)
  rw [hnofraction, hnoexponent, List.append_nil, List.append_nil] at htail
  exact ⟨htail, hnofraction, hnoexponent⟩

/-- A number that is read is no integer that is too long. -/
theorem isShort_of_number? {sign cs rest : List Char} {token : Token} (hsign : Sign sign)
    (h : number? sign cs = some (token, rest)) (hfault : ∀ error, token ≠ .fault error) :
    token.IsShort := by
  intro sign' digits' hsign' hdigits' htoken
  simp only [number?, Option.bind_eq_bind, Option.bind_eq_some_iff] at h
  obtain ⟨⟨digits, r⟩, hinteger, h⟩ := h
  obtain ⟨rfl, hdigits, _⟩ := integerPart?_eq_some hinteger
  obtain ⟨hfraction, _⟩ := fractionPart_split r
  obtain ⟨hexponent, _⟩ := exponentPart_split (fractionPart r).2
  split at h
  · cases h
    exact absurd rfl (hfault _)
  · next hshort =>
    cases h
    simp only [Token.scalar.injEq, Value.number.injEq, String.ofList_inj] at htoken
    obtain ⟨rfl, hnofraction, hnoexponent⟩ :=
      eq_of_integer hsign hdigits hfraction hexponent hsign' hdigits' htoken
    simpa [hnofraction, hnoexponent] using hshort

/-- A word is no integer: it does not end in a digit. -/
theorem isShort_of_mem_words {word : List Char} {value : Value} (h : (word, value) ∈ words) :
    (Token.scalar value).IsShort := by
  intro sign digits hsign hdigits htoken
  cases htoken
  have hlast : ∀ c ∈ (sign ++ digits).getLast?, isDigit c = true := by
    intro c hc
    obtain ⟨first, more, rfl, _⟩ := hdigits.exists_cons
    rw [List.getLast?_append, List.getLast?_cons, Option.some_or, ← List.getLast?_cons] at hc
    exact hdigits.isDigit c (List.mem_of_getLast? hc)
  simp only [words, List.mem_cons, Prod.mk.injEq, reduceCtorEq, Value.number.injEq, and_false, false_or,
    List.not_mem_nil, or_false] at h
  rcases h with ⟨_, h⟩ | ⟨_, h⟩ | ⟨_, h⟩ <;>
  · have hliteral := congrArg String.toList h
    rw [String.toList_ofList] at hliteral
    rw [hliteral] at hlast
    exact absurd (hlast _ rfl) (by decide)

theorem Token.IsMark.isShort {token : Token} (h : token.IsMark) : token.IsShort := by
  rintro sign digits hsign hdigits rfl
  exact h.elim

end ColonySearch.Json
