import ColonySearch.Proofs.Json.Grammar
import ColonySearch.Proofs.Text.Utf8

/-!
# Texts by the grammar

Between quotes a reader takes exactly the pieces of the grammar, up to the first quote that is none, and the characters that it makes of the code points are those of the grammar. Every code point of a piece is a character or a surrogate, and no character is a surrogate, so pairs are only ever formed of numeric escapes.
-/

namespace ColonySearch.Json

open ColonySearch.Text

/-! ### Pieces -/

theorem piece_of_unescape? {letter c : Char} (h : unescape? letter = some c) :
    Piece c.toNat ['\\', letter] := by
  obtain ⟨before, after, hlist, _⟩ := List.lookup_eq_some_iff.1 h
  have hmem : (letter, c) ∈ before ++ (letter, c) :: after :=
    List.mem_append_right before List.mem_cons_self
  rw [← hlist] at hmem
  simp only [List.mem_cons, Prod.mk.injEq, List.not_mem_nil, or_false] at hmem
  rcases hmem with ⟨rfl, rfl⟩ | ⟨rfl, rfl⟩ | ⟨rfl, rfl⟩ | ⟨rfl, rfl⟩ | ⟨rfl, rfl⟩ | ⟨rfl, rfl⟩ |
    ⟨rfl, rfl⟩ | ⟨rfl, rfl⟩
  · exact .quote
  · exact .backslash
  · exact .slash
  · exact .lineFeed
  · exact .carriageReturn
  · exact .tab
  · exact .backspace
  · exact .formFeed

theorem piece_of_hexUnit? {a b c d : Char} {unit : Nat} (h : hexUnit? a b c d = some unit) :
    Piece unit ['\\', 'u', a, b, c, d] := by
  simp only [hexUnit?, Option.bind_eq_bind, Option.bind_eq_some_iff, Option.pure_def,
    Option.some.injEq] at h
  obtain ⟨i, ha, j, hb, k, hc, l, hd, rfl⟩ := h
  exact .unit ha hb hc hd

theorem pieces_of_readCodes {cs rest : List Char} {codes : List Nat}
    (h : readCodes cs = some (codes, rest)) : ∃ ps, cs = ps ++ '"' :: rest ∧ Pieces codes ps := by
  fun_induction readCodes cs generalizing codes rest with
  | case1 => cases h
  | case2 r =>
    cases h
    exact ⟨[], rfl, .nil⟩
  | case3 a b c d r ih =>
    simp only [Option.bind_eq_bind, Option.bind_eq_some_iff] at h
    obtain ⟨unit, hunit, ⟨more, r'⟩, hr, h⟩ := h
    cases h
    obtain ⟨ps, rfl, hps⟩ := ih hr
    exact ⟨_, rfl, .cons (piece_of_hexUnit? hunit) hps⟩
  | case4 letter r _ ih =>
    simp only [Option.bind_eq_bind, Option.bind_eq_some_iff] at h
    obtain ⟨c, hletter, ⟨more, r'⟩, hr, h⟩ := h
    cases h
    obtain ⟨ps, rfl, hps⟩ := ih hr
    exact ⟨_, rfl, .cons (piece_of_unescape? hletter) hps⟩
  | case5 => cases h
  | case6 c r hquote _ _ hplain ih =>
    simp only [Option.bind_eq_bind, Option.bind_eq_some_iff] at h
    obtain ⟨⟨more, r'⟩, hr, h⟩ := h
    cases h
    obtain ⟨ps, rfl, hps⟩ := ih hr
    rw [not_or, Nat.not_lt] at hplain
    exact ⟨_, rfl, .cons (.plain hquote hplain.1 hplain.2) hps⟩

section Codes

variable {more rest : List Char} {codes : List Nat} (hmore : readCodes more = some (codes, rest))

include hmore

theorem readCodes_plain {c : Char} (hquote : c ≠ '"') (hbackslash : c ≠ '\\')
    (hcontrol : 0x20 ≤ c.toNat) : readCodes (c :: more) = some (c.toNat :: codes, rest) := by
  rw [readCodes]
  · simp only [hbackslash, Nat.not_lt.2 hcontrol, or_self, if_false, hmore, Option.bind_eq_bind,
      Option.bind_some, Option.pure_def]
  all_goals intros; contradiction

theorem readCodes_letter (letter c : Char) (h : unescape? letter = some c) :
    readCodes ('\\' :: letter :: more) = some (c.toNat :: codes, rest) := by
  rw [readCodes, h]
  · simp only [hmore, Option.bind_eq_bind, Option.bind_some, Option.pure_def]
  · rintro _ _ _ _ _ rfl
    cases h

theorem readCodes_piece {code : Nat} {p : List Char} (h : Piece code p) :
    readCodes (p ++ more) = some (code :: codes, rest) := by
  cases h with
  | plain hquote hbackslash hcontrol => exact readCodes_plain hmore hquote hbackslash hcontrol
  | quote => exact readCodes_letter hmore '"' '"' rfl
  | backslash => exact readCodes_letter hmore '\\' '\\' rfl
  | slash => exact readCodes_letter hmore '/' '/' rfl
  | backspace => exact readCodes_letter hmore 'b' '\x08' rfl
  | formFeed => exact readCodes_letter hmore 'f' '\x0c' rfl
  | lineFeed => exact readCodes_letter hmore 'n' '\n' rfl
  | carriageReturn => exact readCodes_letter hmore 'r' '\r' rfl
  | tab => exact readCodes_letter hmore 't' '\t' rfl
  | unit ha hb hc hd =>
    simp only [List.cons_append, List.nil_append, readCodes, hexUnit?, ha, hb, hc, hd, hmore,
      Option.bind_eq_bind, Option.bind_some, Option.pure_def]

end Codes

theorem readCodes_pieces {codes : List Nat} {ps : List Char} (h : Pieces codes ps) (rest : List Char) :
    readCodes (ps ++ '"' :: rest) = some (codes, rest) := by
  induction h with
  | nil => rw [List.nil_append, readCodes]
  | cons h hs ih =>
    rw [List.append_assoc]
    exact readCodes_piece ih h

/-! ### Characters of code points -/

theorem lt_of_hexValue? {c : Char} {n : Nat} (h : hexValue? c = some n) : n < 16 := by
  unfold hexValue? at h
  split at h
  · rename_i hc
    have hhigh : c.toNat ≤ 0x39 := hc.2
    cases h
    omega
  · split at h
    · rename_i hc
      have hhigh : c.toNat ≤ 0x66 := hc.2
      cases h
      omega
    · split at h
      · rename_i hc
        have hhigh : c.toNat ≤ 0x46 := hc.2
        cases h
        omega
      · cases h

theorem toNat_cases (c : Char) : c.toNat < 0xD800 ∨ 0xDFFF < c.toNat ∧ c.toNat < 0x110000 := c.valid

theorem lt_of_piece {code : Nat} {p : List Char} (h : Piece code p) : code < 0x110000 := by
  cases h with
  | @plain c =>
    have := toNat_cases c
    omega
  | unit ha hb hc hd =>
    have := lt_of_hexValue? ha
    have := lt_of_hexValue? hb
    have := lt_of_hexValue? hc
    have := lt_of_hexValue? hd
    omega
  | _ => decide

theorem lt_of_pieces {codes : List Nat} {ps : List Char} (h : Pieces codes ps) :
    ∀ code ∈ codes, code < 0x110000 := by
  induction h with
  | nil => nofun
  | cons h hs ih => exact List.forall_mem_cons.2 ⟨lt_of_piece h, ih⟩

theorem isHighSurrogate_iff {code : Nat} :
    isHighSurrogate code = true ↔ 0xD800 ≤ code ∧ code ≤ 0xDBFF := by
  rw [isHighSurrogate, Bool.and_eq_true, decide_eq_true_eq, decide_eq_true_eq]

theorem isLowSurrogate_iff {code : Nat} :
    isLowSurrogate code = true ↔ 0xDC00 ≤ code ∧ code ≤ 0xDFFF := by
  rw [isLowSurrogate, Bool.and_eq_true, decide_eq_true_eq, decide_eq_true_eq]

theorem loneChar_toNat (c : Char) : loneChar c.toNat = c := by
  have hvalid : c.toNat.isValidChar := c.valid
  rw [loneChar, if_pos hvalid, Char.ofNat_toNat]

theorem loneChar_surrogate {code : Nat} (h : isHighSurrogate code ∨ isLowSurrogate code) :
    loneChar code = '\ufffd' := by
  apply if_neg
  rw [isHighSurrogate_iff, isLowSurrogate_iff] at h
  rintro (hlow | hhigh) <;> omega

/-- A code point alone is a character or a surrogate. -/
theorem characters_loneChar {code : Nat} {codes : List Nat} {cs : List Char} (hlt : code < 0x110000)
    (hnext : isHighSurrogate code → ∀ low ∈ codes.head?, ¬ isLowSurrogate low)
    (hs : Characters codes cs) : Characters (code :: codes) (loneChar code :: cs) := by
  by_cases hvalid : code.isValidChar
  · obtain ⟨c, rfl⟩ : ∃ c : Char, c.toNat = code :=
      ⟨Char.ofNat code, Utf8.toNat_ofNat_of_valid hvalid⟩
    rw [loneChar_toNat]
    exact .char c hs
  · have hsurrogate : isHighSurrogate code ∨ isLowSurrogate code := by
      rw [isHighSurrogate_iff, isLowSurrogate_iff]
      simp only [Nat.isValidChar] at hvalid
      omega
    rw [loneChar_surrogate hsurrogate]
    exact .lone hsurrogate hnext hs

theorem characters_joinPairs {codes : List Nat} (h : ∀ code ∈ codes, code < 0x110000) :
    Characters codes (joinPairs codes) := by
  fun_induction joinPairs codes with
  | case1 => exact .nil
  | case2 code => exact characters_loneChar (h code List.mem_cons_self) nofun .nil
  | case3 high low rest hpair ih =>
    simp only [List.forall_mem_cons] at h
    rw [Bool.and_eq_true] at hpair
    refine .pair hpair.1 hpair.2 ?_ (ih h.2.2)
    rw [isHighSurrogate_iff, isLowSurrogate_iff] at hpair
    apply Utf8.toNat_ofNat_of_valid
    right
    unfold pairCode
    omega
  | case4 high low rest hpair ih =>
    rw [List.forall_mem_cons] at h
    rw [Bool.and_eq_true] at hpair
    refine characters_loneChar h.1 ?_ (ih h.2)
    intro hhigh low' hlow' hlow
    cases hlow'
    exact hpair ⟨hhigh, hlow⟩

theorem joinPairs_cons {code : Nat} {codes : List Nat}
    (h : isHighSurrogate code → ∀ low ∈ codes.head?, ¬ isLowSurrogate low) :
    joinPairs (code :: codes) = loneChar code :: joinPairs codes := by
  cases codes with
  | nil => rfl
  | cons low rest =>
    rw [joinPairs, if_neg]
    rw [Bool.and_eq_true]
    exact fun hpair => h hpair.1 low rfl hpair.2

theorem not_isHighSurrogate (c : Char) : ¬ isHighSurrogate c.toNat := by
  have := toNat_cases c
  rw [isHighSurrogate_iff]
  omega

theorem joinPairs_eq {codes : List Nat} {cs : List Char} (h : Characters codes cs) :
    joinPairs codes = cs := by
  induction h with
  | nil => rfl
  | char c hs ih =>
    rw [joinPairs_cons, loneChar_toNat, ih]
    intro hhigh
    exact absurd hhigh (not_isHighSurrogate c)
  | @pair high low c codes cs hhigh hlow hc hs ih =>
    have hcode : pairCode high low = c.toNat := hc.symm
    rw [joinPairs, if_pos (by rw [hhigh, hlow, Bool.and_self]), hcode, Char.ofNat_toNat, ih]
  | lone hcode hnext hs ih => rw [joinPairs_cons hnext, loneChar_surrogate hcode, ih]

theorem readText_eq_some_iff {cs rest : List Char} {text : String} :
    readText cs = some (text, rest) ↔ ∃ codes ps chars, cs = ps ++ '"' :: rest ∧ Pieces codes ps ∧
      Characters codes chars ∧ text = String.ofList chars := by
  rw [readText, Option.map_eq_some_iff]
  constructor
  · rintro ⟨⟨codes, rest'⟩, hcodes, h⟩
    cases h
    obtain ⟨ps, rfl, hps⟩ := pieces_of_readCodes hcodes
    exact ⟨codes, ps, joinPairs codes, rfl, hps, characters_joinPairs (lt_of_pieces hps), rfl⟩
  · rintro ⟨codes, ps, chars, rfl, hps, hchars, rfl⟩
    refine ⟨(codes, rest), readCodes_pieces hps rest, ?_⟩
    dsimp only
    rw [joinPairs_eq hchars]

end ColonySearch.Json
