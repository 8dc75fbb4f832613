import ColonySearch.Proofs.Json.Scanning

/-!
# Texts survive JSON

Reading a written text gives the text back, for every text. A character is written as itself, as a letter behind a backslash, or as one or two numeric escapes; by the grammar these are pieces for its sixteen-bit units in each case, and the units of a text make up the text again, because no character is a surrogate and so no pair is ever formed across two characters. All that is written is printable ASCII.
-/

namespace ColonySearch.Json

open ColonySearch.Text

/-- Whether a character is in the printable part of ASCII. -/
def IsPlain (c : Char) : Prop := ' ' ≤ c ∧ c ≤ '~'

instance (c : Char) : Decidable (IsPlain c) := inferInstanceAs (Decidable (_ ∧ _))

/-! ### Hexadecimal digits -/

theorem hexValue?_hexDigit {n : Nat} (h : n < 16) : hexValue? (hexDigit n) = some n := by
  have hall : ∀ n : Fin 16, hexValue? (hexDigit n) = some n.val := by decide
  exact hall ⟨n, h⟩

theorem hexDigits_four (n : Nat) : hexDigits 4 n =
    [hexDigit (n / 4096 % 16), hexDigit (n / 256 % 16), hexDigit (n / 16 % 16), hexDigit (n % 16)] := by
  simp only [hexDigits, Nat.div_div_eq_div_mul, List.nil_append, List.cons_append]

/-! ### Units -/

theorem Pieces.append {codes more : List Nat} {ps qs : List Char} (h : Pieces codes ps)
    (hmore : Pieces more qs) : Pieces (codes ++ more) (ps ++ qs) := by
  induction h with
  | nil => exact hmore
  | cons h hs ih =>
    rw [List.append_assoc]
    exact .cons h ih

theorem pieces_singleton {code : Nat} {p : List Char} (h : Piece code p) : Pieces [code] p :=
  List.append_nil p ▸ .cons h .nil

theorem piece_escapeUnit {unit : Nat} (h : unit < 0x10000) : Piece unit (escapeUnit unit) := by
  have hlt : ∀ k, k % 16 < 16 := fun k => Nat.mod_lt k (by decide)
  have hunit : ((unit / 4096 % 16 * 16 + unit / 256 % 16) * 16 + unit / 16 % 16) * 16 + unit % 16 = unit := by
    omega
  have hpiece := Piece.unit (hexValue?_hexDigit (hlt (unit / 4096))) (hexValue?_hexDigit (hlt (unit / 256)))
    (hexValue?_hexDigit (hlt (unit / 16))) (hexValue?_hexDigit (hlt unit))
  rw [hunit] at hpiece
  rw [escapeUnit, hexDigits_four]
  exact hpiece

theorem pieces_escapeUnits {codes : List Nat} (h : ∀ unit ∈ codes, unit < 0x10000) :
    Pieces codes (codes.flatMap escapeUnit) := by
  induction codes with
  | nil => exact .nil
  | cons unit codes ih =>
    obtain ⟨hunit, hmore⟩ := List.forall_mem_cons.1 h
    exact .cons (piece_escapeUnit hunit) (ih hmore)

theorem units_lt (c : Char) : ∀ unit ∈ units c.toNat, unit < 0x10000 := by
  intro unit hunit
  have hvalid := toNat_cases c
  unfold units at hunit
  split at hunit
  · rw [List.mem_singleton] at hunit
    omega
  · simp only [List.mem_cons, List.not_mem_nil, or_false] at hunit
    omega

/-- The units of a character are read as that character, whatever follows: no character is a surrogate. -/
theorem characters_units (c : Char) {codes : List Nat} {cs : List Char} (hs : Characters codes cs) :
    Characters (units c.toNat ++ codes) (c :: cs) := by
  have hvalid := toNat_cases c
  unfold units
  split
  · exact .char c hs
  · apply Characters.pair
    · rw [isHighSurrogate_iff]
      omega
    · rw [isLowSurrogate_iff]
      omega
    · omega
    · exact hs

theorem characters_flatMap_units (cs : List Char) : Characters (cs.flatMap (units ·.toNat)) cs := by
  induction cs with
  | nil => exact .nil
  | cons c cs ih => exact characters_units c ih

/-! ### Escapes -/

theorem of_shortEscape? {c letter : Char} (h : shortEscape? c = some letter) :
    letter ≠ 'u' ∧ IsPlain letter ∧ unescape? letter = some c ∧ units c.toNat = [c.toNat] := by
  obtain ⟨before, after, hlist, _⟩ := List.lookup_eq_some_iff.1 h
  have hmem : (c, letter) ∈ before ++ (c, letter) :: after :=
    List.mem_append_right before List.mem_cons_self
  have hall : ∀ p ∈ [('"', '"'), ('\\', '\\'), ('\n', 'n'), ('\r', 'r'), ('\t', 't'), ('\x08', 'b'),
      ('\x0c', 'f')], p.2 ≠ 'u' ∧ IsPlain p.2 ∧ unescape? p.2 = some p.1 ∧
        units p.1.toNat = [p.1.toNat] := by
    decide
  exact hall (c, letter) (hlist ▸ hmem)

/-- As itself or escaped, a character is written by its units. -/
theorem pieces_escape (c : Char) : Pieces (units c.toNat) (escape c) := by
  unfold escape
  cases hshort : shortEscape? c with
  | some letter =>
    obtain ⟨_, _, hback, hunits⟩ := of_shortEscape? hshort
    rw [hunits]
    exact pieces_singleton (piece_of_unescape? hback)
  | none =>
    dsimp only
    split
    · rename_i hprintable
      have hunits : units c.toNat = [c.toNat] := by
        have : c.toNat ≤ 0x7E := hprintable.2
        exact if_pos (by omega)
      rw [hunits]
      apply pieces_singleton (.plain _ _ hprintable.1)
      · rintro rfl
        cases hshort
      · rintro rfl
        cases hshort
    · exact pieces_escapeUnits (units_lt c)

theorem pieces_escapes (cs : List Char) : Pieces (cs.flatMap (units ·.toNat)) (cs.flatMap escape) := by
  induction cs with
  | nil => exact .nil
  | cons c cs ih => exact (pieces_escape c).append ih

/-- Reading gives back every text that was written, and what follows it. -/
theorem readText_escapes (text : String) (rest : List Char) :
    readText (text.toList.flatMap escape ++ '"' :: rest) = some (text, rest) :=
  readText_eq_some_iff.2 ⟨_, _, text.toList, rfl, pieces_escapes text.toList,
    characters_flatMap_units text.toList, String.ofList_toList.symm⟩

/-! ### Tokens -/

theorem tokens_mark {c : Char} {token : Token} (hspace : isSpace c = false)
    (hmark : mark? c = some token) (hfault : ∀ error, token ≠ .fault error) (rest : List Char) :
    tokens (c :: rest) = token :: tokens rest := by
  apply tokens_of_lexeme? hspace _ hfault
  rw [lexeme?, hmark]

theorem tokens_writeText (text : String) (rest : List Char) :
    tokens (writeText text ++ rest) = .text text :: tokens rest := by
  rw [writeText, List.cons_append, List.cons_append, List.append_assoc]
  apply tokens_of_lexeme? rfl
  · show (readText (text.toList.flatMap escape ++ '"' :: rest)).map _ = _
    rw [readText_escapes]
    rfl
  · intro error h
    cases h

/-! ### What writing uses -/

theorem isPlain_hexDigit {n : Nat} (h : n < 16) : IsPlain (hexDigit n) := by
  have hall : ∀ n : Fin 16, IsPlain (hexDigit n) := by decide
  exact hall ⟨n, h⟩

theorem isPlain_of_mem_escapeUnit {unit : Nat} {c : Char} (h : c ∈ escapeUnit unit) : IsPlain c := by
  have hlt : ∀ k, k % 16 < 16 := fun k => Nat.mod_lt k (by decide)
  rw [escapeUnit, hexDigits_four] at h
  simp only [List.mem_cons, List.not_mem_nil, or_false] at h
  rcases h with rfl | rfl | rfl | rfl | rfl | rfl
  · decide
  · decide
  all_goals exact isPlain_hexDigit (hlt _)

theorem isPlain_of_mem_escape {c d : Char} (h : d ∈ escape c) : IsPlain d := by
  unfold escape at h
  split at h
  · rename_i hshort
    simp only [List.mem_cons, List.not_mem_nil, or_false] at h
    rcases h with rfl | rfl
    · decide
    · exact (of_shortEscape? hshort).2.1
  · split at h
    · rename_i hplain
      rw [List.mem_singleton] at h
      exact h ▸ hplain
    · rw [List.mem_flatMap] at h
      obtain ⟨unit, _, hunit⟩ := h
      exact isPlain_of_mem_escapeUnit hunit

theorem isPlain_of_mem_writeText {text : String} {c : Char} (h : c ∈ writeText text) : IsPlain c := by
  simp only [writeText, List.mem_append, List.mem_cons, List.mem_flatMap, List.not_mem_nil,
    or_false] at h
  rcases h with (rfl | ⟨d, _, hd⟩) | rfl
  · decide
  · exact isPlain_of_mem_escape hd
  · decide

end ColonySearch.Json
