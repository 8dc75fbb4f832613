import ColonySearch.Proofs.Json.Texts
import ColonySearch.Text.LineEnd

/-!
# Line ends in documents

Whether a text is a document does not depend on how its lines end. Between lexemes every line end is a blank, and inside a lexeme there is none, because no control character is written there as itself. So a text is cut in the same places before and after its line ends are read alike, and an integer that is too long stands in both.
-/

namespace ColonySearch.Json

open ColonySearch.Text

/-! ### Control characters -/

/-- No control character in the text. -/
def NoControl (cs : List Char) : Prop := ∀ c ∈ cs, 0x20 ≤ c.toNat

theorem NoControl.append {cs ds : List Char} (h : NoControl cs) (h' : NoControl ds) :
    NoControl (cs ++ ds) :=
  List.forall_mem_append.2 ⟨h, h'⟩

theorem noControl_of_all {cs : List Char} (h : (cs.all fun c => 0x20 ≤ c.toNat) = true) : NoControl cs := by
  intro c hc
  exact of_decide_eq_true (List.all_eq_true.1 h c hc)

theorem le_of_isDigit {c : Char} (h : isDigit c = true) : 0x20 ≤ c.toNat := by
  rw [isDigit, Bool.and_eq_true, decide_eq_true_eq] at h
  have hlow : 0x30 ≤ c.toNat := h.1
  omega

theorem le_of_hexValue? {c : Char} {n : Nat} (h : hexValue? c = some n) : 0x20 ≤ c.toNat := by
  unfold hexValue? at h
  split at h
  · rename_i hc
    have hlow : 0x30 ≤ c.toNat := hc.1
    omega
  · split at h
    · rename_i hc
      have hlow : 0x61 ≤ c.toNat := hc.1
      omega
    · split at h
      · rename_i hc
        have hlow : 0x41 ≤ c.toNat := hc.1
        omega
      · cases h

theorem Piece.noControl {code : Nat} {p : List Char} (h : Piece code p) : NoControl p := by
  cases h with
  | plain _ _ hcontrol => exact List.forall_mem_singleton.2 hcontrol
  | unit ha hb hc hd =>
    simp only [NoControl, List.forall_mem_cons]
    exact ⟨by decide, by decide, le_of_hexValue? ha, le_of_hexValue? hb, le_of_hexValue? hc,
      le_of_hexValue? hd, nofun⟩
  | _ => exact noControl_of_all rfl

theorem Pieces.noControl {codes : List Nat} {ps : List Char} (h : Pieces codes ps) : NoControl ps := by
  induction h with
  | nil => nofun
  | cons h _ ih => exact h.noControl.append ih

theorem Digits.noControl {ds : List Char} (h : Digits ds) : NoControl ds :=
  fun d hd => le_of_isDigit (h.2 d hd)

theorem Sign.noControl {sign : List Char} (h : Sign sign) : NoControl sign := by
  cases h <;> exact noControl_of_all rfl

theorem IntegerPart.noControl {digits : List Char} (h : IntegerPart digits) : NoControl digits := by
  cases h with
  | zero => exact noControl_of_all rfl
  | digits hc _ hds =>
    exact List.forall_mem_cons.2 ⟨le_of_isDigit hc, fun d hd => le_of_isDigit (hds d hd)⟩

theorem FractionPart.noControl {fraction : List Char} (h : FractionPart fraction) :
    NoControl fraction := by
  cases h with
  | none => nofun
  | digits hds => exact List.forall_mem_cons.2 ⟨by decide, hds.noControl⟩

theorem ExponentPart.noControl {exponent : List Char} (h : ExponentPart exponent) :
    NoControl exponent := by
  have hletter : ∀ {e : Char}, e = 'e' ∨ e = 'E' → 0x20 ≤ e.toNat := by
    rintro _ (rfl | rfl) <;> decide
  have hmark : ∀ {sign : Char}, sign = '+' ∨ sign = '-' → 0x20 ≤ sign.toNat := by
    rintro _ (rfl | rfl) <;> decide
  cases h with
  | none => nofun
  | unsigned he hds => exact List.forall_mem_cons.2 ⟨hletter he, hds.noControl⟩
  | signed he hsign hds =>
    exact List.forall_mem_cons.2 ⟨hletter he, List.forall_mem_cons.2 ⟨hmark hsign, hds.noControl⟩⟩

theorem Lexeme.noControl {token : Token} {l : List Char} (h : Lexeme token l) : NoControl l := by
  have hquote : NoControl ['"'] := noControl_of_all rfl
  cases h with
  | text hpieces => exact (hquote.append hpieces.noControl).append hquote
  | number hsign hdigits hfraction hexponent =>
    exact ((hsign.noControl.append hdigits.noControl).append hfraction.noControl).append
      hexponent.noControl
  | _ => exact noControl_of_all rfl

/-! ### Line ends read alike -/

theorem unifyLineEnds_cons {c : Char} (hc : c ≠ '\r') (rest : List Char) :
    unifyLineEnds (c :: rest) = c :: unifyLineEnds rest := by
  rw [unifyLineEnds, if_neg hc]
  rintro rest' rfl
  exact absurd rfl hc

theorem unifyLineEnds_append {cs : List Char} (h : NoControl cs) (rest : List Char) :
    unifyLineEnds (cs ++ rest) = cs ++ unifyLineEnds rest := by
  induction cs with
  | nil => rfl
  | cons c cs ih =>
    obtain ⟨hc, hcs⟩ := List.forall_mem_cons.1 h
    rw [List.cons_append, unifyLineEnds_cons _ (cs ++ rest), ih hcs, List.cons_append]
    rintro rfl
    exact absurd hc (by decide)

theorem mem_unifyLineEnds {text : List Char} (h : '\r' ∈ text) : '\n' ∈ unifyLineEnds text := by
  fun_induction unifyLineEnds text with
  | case1 => cases h
  | case2 rest ih => exact List.mem_cons_self
  | case3 c rest _ ih =>
    obtain rfl | h := List.mem_cons.1 h
    · rw [if_pos rfl]
      exact List.mem_cons_self
    · exact List.mem_cons_of_mem _ (ih h)

theorem unifyLineEnds_of_noControl {text : List Char} (h : NoControl (unifyLineEnds text)) :
    unifyLineEnds text = text := by
  apply unifyLineEnds_of_not_mem
  intro hreturn
  exact absurd (h '\n' (mem_unifyLineEnds hreturn)) (by decide)

/-- Where the text with its line ends read alike is cut, the text itself can be cut. -/
theorem exists_append_of_unifyLineEnds {text front rest : List Char}
    (h : unifyLineEnds text = front ++ rest) : ∃ front' rest', text = front' ++ rest' ∧
      unifyLineEnds front' = front ∧ unifyLineEnds rest' = rest := by
  fun_induction unifyLineEnds text generalizing front with
  | case1 =>
    obtain ⟨rfl, rfl⟩ := List.append_eq_nil_iff.1 h.symm
    exact ⟨[], [], rfl, rfl, rfl⟩
  | case2 text ih =>
    cases front with
    | nil =>
      refine ⟨[], _, rfl, rfl, ?_⟩
      rw [unifyLineEnds]
      exact h
    | cons c front =>
      obtain ⟨rfl, htext⟩ := List.cons.inj h
      obtain ⟨front', rest', rfl, rfl, rfl⟩ := ih htext
      exact ⟨'\r' :: '\n' :: front', rest', rfl, by rw [unifyLineEnds], rfl⟩
  | case3 c text hpair ih =>
    cases front with
    | nil =>
      refine ⟨[], _, rfl, rfl, ?_⟩
      rw [unifyLineEnds]
      · exact h
      · exact hpair
    | cons d front =>
      obtain ⟨rfl, htext⟩ := List.cons.inj h
      obtain ⟨front', rest', rfl, rfl, rfl⟩ := ih htext
      refine ⟨c :: front', rest', rfl, ?_, rfl⟩
      rw [unifyLineEnds]
      rintro more rfl rfl
      exact hpair (more ++ rest') rfl rfl

/-- What has no control character stands in the text as it stands there with the line ends read alike. -/
theorem exists_rest_of_unifyLineEnds {text front rest : List Char} (hfront : NoControl front)
    (h : unifyLineEnds text = front ++ rest) :
    ∃ rest', text = front ++ rest' ∧ unifyLineEnds rest' = rest := by
  obtain ⟨front', rest', rfl, rfl, rfl⟩ := exists_append_of_unifyLineEnds h
  exact ⟨rest', by rw [unifyLineEnds_of_noControl hfront], rfl⟩

/-! ### Documents -/

theorem Lexes.unify {written : List Token} {text : List Char} (h : Lexes written text) :
    Lexes written (unifyLineEnds text) := by
  induction h with
  | nil => exact .nil
  | @blank c written cs hc hs ih =>
    rw [unifyLineEnds.eq_def]
    split
    · rename_i hnil
      cases hnil
    · rename_i rest hpair
      cases hpair
      rwa [unifyLineEnds_cons (by decide)] at ih
    · rename_i hpair
      cases hpair
      refine .blank ?_ ih
      split
      · decide
      · exact hc
  | lexeme hl hs ih =>
    rw [unifyLineEnds_append hl.noControl]
    exact .lexeme hl ih

def Blanks (cs : List Char) : Prop := ∀ c ∈ cs, c ∈ [' ', '\t', '\n', '\r']

theorem Lexes.behind_blanks {blanks cs : List Char} {written : List Token} (hblanks : Blanks blanks)
    (hs : Lexes written cs) : Lexes written (blanks ++ cs) := by
  induction blanks with
  | nil => exact hs
  | cons c blanks ih =>
    obtain ⟨hc, hmore⟩ := List.forall_mem_cons.1 hblanks
    exact .blank hc (ih hmore)

theorem blanks_of_unify {text : List Char} (h : Blanks (unifyLineEnds text)) : Blanks text := by
  fun_induction unifyLineEnds text with
  | case1 => exact h
  | case2 rest ih =>
    obtain ⟨_, hrest⟩ := List.forall_mem_cons.1 h
    exact List.forall_mem_cons.2 ⟨by decide, List.forall_mem_cons.2 ⟨by decide, ih hrest⟩⟩
  | case3 c rest _ ih =>
    obtain ⟨hc, hrest⟩ := List.forall_mem_cons.1 h
    refine List.forall_mem_cons.2 ⟨?_, ih hrest⟩
    split at hc
    · rename_i hreturn
      rw [hreturn]
      decide
    · exact hc

theorem lexes_of_unify {written : List Token} {text : List Char}
    (h : Lexes written (unifyLineEnds text)) : Lexes written text := by
  generalize hunified : unifyLineEnds text = unified at h
  induction h generalizing text with
  | nil =>
    have hblanks : Blanks text := blanks_of_unify (by rw [hunified]; nofun)
    exact List.append_nil text ▸ Lexes.behind_blanks hblanks .nil
  | @blank c written cs hc hs ih =>
    have hcut : unifyLineEnds text = [c] ++ cs := hunified
    obtain ⟨front, rest, rfl, hfront, hrest⟩ := exists_append_of_unifyLineEnds hcut
    have hblanks : Blanks front := blanks_of_unify (by rw [hfront]; exact List.forall_mem_singleton.2 hc)
    exact Lexes.behind_blanks hblanks (ih hrest)
  | lexeme hl hs ih =>
    obtain ⟨rest, rfl, hrest⟩ := exists_rest_of_unifyLineEnds hl.noControl hunified
    exact .lexeme hl (ih hrest)

theorem document_unify_iff {text : List Char} {v : Value} :
    Document (unifyLineEnds text) v ↔ Document text v := by
  constructor
  · rintro ⟨written, hlexes, hwritten⟩
    exact ⟨written, lexes_of_unify hlexes, hwritten⟩
  · rintro ⟨written, hlexes, hwritten⟩
    exact ⟨written, hlexes.unify, hwritten⟩

/-- What comes behind the digits is the same up to line ends, so the integer ends where it ended. -/
theorem overlongInteger_of_unify {count : Nat} {text : List Char}
    (h : OverlongInteger count (unifyLineEnds text)) : OverlongInteger count text := by
  obtain ⟨sign, digits, rest, htext, hsign, hdigits, hcount, hlong, hdigit, hfraction, hexponent⟩ := h
  obtain ⟨rest, rfl, rfl⟩ :=
    exists_rest_of_unifyLineEnds (hsign.noControl.append hdigits.noControl) htext
  refine ⟨sign, digits, rest, rfl, hsign, hdigits, hcount, hlong, ?_, ?_, ?_⟩
  · intro c hc
    obtain ⟨rest, rfl⟩ := List.head?_eq_some_iff.1 hc
    by_cases hreturn : c = '\r'
    · rw [hreturn]
      rfl
    · rw [unifyLineEnds_cons hreturn] at hdigit
      exact hdigit c rfl
  · rintro fraction hf ⟨more, rfl⟩
    rw [unifyLineEnds_append hf.noControl] at hfraction
    exact hfraction fraction hf (List.prefix_append fraction _)
  · rintro exponent he ⟨more, rfl⟩
    rw [unifyLineEnds_append he.noControl] at hexponent
    exact hexponent exponent he (List.prefix_append exponent _)

theorem hasOverlongInteger_of_unify {count : Nat} {text : List Char}
    (h : HasOverlongInteger count (unifyLineEnds text)) : HasOverlongInteger count text := by
  obtain ⟨front, written, rest, htext, hfront, hmark, hoverlong⟩ := h
  obtain ⟨front, rest, rfl, rfl, rfl⟩ := exists_append_of_unifyLineEnds htext
  exact ⟨front, written, rest, rfl, lexes_of_unify hfront, hmark, overlongInteger_of_unify hoverlong⟩

end ColonySearch.Json
