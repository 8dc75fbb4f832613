import ColonySearch.Proofs.Text.Spans
import ColonySearch.Settings.Reading
import ColonySearch.Text.Decimal

/-!
# What setting values are read as

A number that is written in decimal is read back, with blanks around it or not, as long as it has no more digits than are read. What can be read as a truth value is said by `Says`, with no reader in it.
-/

namespace ColonySearch.Settings

/-! ### Numbers in decimal -/

/-- Digits of which the first is no zero, unless it stands alone. -/
inductive Plain : List Char → Prop
  | zero : Plain ['0']
  | digits {c : Char} {rest : List Char} (hc : isDigit c = true) (hzero : c ≠ '0')
    (hrest : ∀ d ∈ rest, isDigit d = true) : Plain (c :: rest)

section Plain

variable {digits cs : List Char} {n : Nat}

theorem Plain.append_digit {d : Char} (h : Plain digits) (hne : digits ≠ ['0']) (hd : isDigit d = true) :
    Plain (digits ++ [d]) := by
  cases h with
  | zero => exact absurd rfl hne
  | digits hc hzero hrest =>
    refine .digits hc hzero fun e he => ?_
    rcases List.mem_append.1 he with he | he
    · exact hrest e he
    · rw [List.mem_singleton.1 he]
      exact hd

theorem isDigit_digitChar {d : Nat} (h : d < 10) : isDigit d.digitChar = true := by
  revert d
  decide

theorem plain_digitChar {d : Nat} (h : d < 10) : Plain [d.digitChar] := by
  by_cases hd : d = 0
  · rw [hd]
    exact .zero
  · have hzero : ∀ d < 10, d ≠ 0 → d.digitChar ≠ '0' := by decide
    exact .digits (isDigit_digitChar h) (hzero d h hd) nofun

theorem toDigits_ne_zero (h : 0 < n) : Nat.toDigits 10 n ≠ ['0'] := by
  intro heq
  have hvalue := Nat.ofDigitChars_ten_toDigits (n := n)
  rw [heq] at hvalue
  exact Nat.ne_of_lt h hvalue

/-- The digits of a number come from those of its tenth. -/
theorem plain_toDigits (n : Nat) : Plain (Nat.toDigits 10 n) := by
  induction n using Nat.strongRecOn with
  | ind n ih =>
    rw [Nat.toDigits_eq_if (by decide)]
    split
    · next hsmall => exact plain_digitChar hsmall
    · next hlarge =>
      have htenth : 0 < n / 10 := Nat.div_pos (Nat.le_of_not_lt hlarge) (by decide)
      have hless : n / 10 < n := Nat.div_lt_self (by omega) (by decide)
      exact (ih _ hless).append_digit (toDigits_ne_zero htenth) (isDigit_digitChar (Nat.mod_lt n (by decide)))

theorem Plain.isDigit (h : Plain digits) : ∀ c ∈ digits, isDigit c = true := by
  cases h with
  | zero =>
    intro c hc
    rw [List.mem_singleton.1 hc]
    rfl
  | digits hc _ hrest =>
    intro d hd
    rcases List.mem_cons.1 hd with rfl | hd
    · exact hc
    · exact hrest d hd

theorem Plain.not_mem {c : Char} (h : Plain digits) (hc : Settings.isDigit c = false) : c ∉ digits := by
  intro hmem
  rw [h.isDigit c hmem] at hc
  cases hc

theorem dropFraction_of_not_mem (h : '.' ∉ cs) : dropFraction cs = cs := by
  have hall : ∀ c ∈ cs, (c != '.') = true := fun c hc => bne_iff_ne.2 (ne_of_mem_of_not_mem hc h)
  have hdrop : (cs ++ []).dropWhile (· != '.') = [] := Text.dropWhile_stretch hall nofun
  rw [List.append_nil] at hdrop
  rw [dropFraction, hdrop]

theorem dropUnderscores_of_not_mem (h : '_' ∉ cs) : dropUnderscores cs = cs := by
  unfold dropUnderscores
  split
  · rfl
  · rw [List.filter_eq_self]
    intro c hc
    exact bne_iff_ne.2 (ne_of_mem_of_not_mem hc h)

/-- Nothing of a plain number is dropped. -/
theorem Plain.cleaned?_eq (h : Plain digits) : cleaned? digits = some digits := by
  have hzeros : dropZeros? digits = some digits := by
    cases h with
    | zero => rfl
    | digits hc hzero => rw [dropZeros?, if_neg hzero, if_pos hc]
  rw [cleaned?, hzeros, Option.map_some, dropFraction_of_not_mem (h.not_mem (by decide)),
    dropUnderscores_of_not_mem (h.not_mem (by decide))]

theorem Plain.plainNat?_eq (h : Plain digits) (hfew : digits.length ≤ maxDigits) :
    plainNat? digits = some (digitsValue digits) := by
  have hall : digits.all Settings.isDigit = true := List.all_eq_true.2 h.isDigit
  cases h with
  | zero => rfl
  | @digits c rest _ hzero =>
    unfold plainNat?
    split
    · next heq => cases heq
    · next heq => exact absurd (List.cons.inj heq).1 hzero
    · next heq => exact absurd (List.cons.inj heq).1 hzero
    · rw [hall, decide_eq_true hfew]
      rfl

theorem digitsValue_toDigits (n : Nat) : digitsValue (Nat.toDigits 10 n) = n := by
  have hvalue := Nat.ofDigitChars_ten_toDigits (n := n)
  rw [Nat.ofDigitChars_eq_foldl] at hvalue
  simp only [Nat.mul_comm 10] at hvalue
  exact hvalue

end Plain

/-- How an integer is written: its digits, behind a minus sign if it is negative. -/
theorem toList_toString (n : Int) :
    (toString n).toList = (if n < 0 then ['-'] else []) ++ Nat.toDigits 10 n.natAbs := by
  cases n with
  | ofNat m => exact Nat.toList_repr
  | negSucc m =>
    have hneg : Int.negSucc m < 0 := Int.negSucc_lt_zero m
    have hwritten : toString (Int.negSucc m) = "-" ++ (m + 1).repr := rfl
    rw [if_pos hneg, hwritten, String.toList_append, Nat.toList_repr]
    rfl

theorem Plain.cleanedSigned?_eq {digits : List Char} (h : Plain digits) : cleanedSigned? digits = some digits := by
  unfold cleanedSigned?
  split
  · exact absurd List.mem_cons_self (h.not_mem (by decide))
  · exact absurd List.mem_cons_self (h.not_mem (by decide))
  · exact h.cleaned?_eq

theorem Plain.plainInt?_eq {digits : List Char} (h : Plain digits) (hfew : digits.length ≤ maxDigits) :
    plainInt? digits = some (digitsValue digits : Int) := by
  unfold plainInt?
  split
  · exact absurd List.mem_cons_self (h.not_mem (by decide))
  · rw [h.plainNat?_eq hfew]
    rfl

/-- What is left of an integer is the integer as it was written. -/
theorem cleaned_toString {n : Int} (h : Text.digitCount n ≤ maxDigits) :
    (cleanedSigned? (toString n).toList).bind plainInt? = some n := by
  have hplain := plain_toDigits n.natAbs
  rw [toList_toString]
  split
  · next hneg =>
    show ((cleaned? (Nat.toDigits 10 n.natAbs)).map ('-' :: ·)).bind plainInt? = some n
    rw [hplain.cleaned?_eq, Option.map_some, Option.bind_some, plainInt?, hplain.plainNat?_eq h,
      digitsValue_toDigits]
    show some (-(n.natAbs : Int)) = some n
    congr 1
    omega
  · next hneg =>
    rw [List.nil_append, hplain.cleanedSigned?_eq, Option.bind_some, hplain.plainInt?_eq h,
      digitsValue_toDigits]
    congr 1
    omega

/-! ### Blanks around a number -/

def Blanks (cs : List Char) : Prop := ∀ c ∈ cs, Text.isBlank c = true

theorem trimBlanks_around {lead body trail : List Char} (hlead : Blanks lead) (htrail : Blanks trail)
    (hbody : ∀ c ∈ body, Text.isBlank c = false) (hne : body ≠ []) :
    Text.trimBlanks (lead ++ (body ++ trail)) = body := by
  have hopens : ∀ c ∈ (body ++ trail).head?, Text.isBlank c = false := by
    intro c hc
    cases body with
    | nil => exact absurd rfl hne
    | cons b body => exact hbody c (List.mem_of_mem_head? hc)
  have hcloses : ∀ c ∈ body.reverse.head?, Text.isBlank c = false := by
    intro c hc
    exact hbody c (List.mem_reverse.1 (List.mem_of_mem_head? hc))
  have htrail' : ∀ c ∈ trail.reverse, Text.isBlank c = true := by
    intro c hc
    exact htrail c (List.mem_reverse.1 hc)
  rw [Text.trimBlanks, Text.dropWhile_stretch hlead hopens, List.reverse_append,
    Text.dropWhile_stretch htrail' hcloses, List.reverse_reverse]

theorem not_isBlank_of_isDigit {c : Char} (h : isDigit c = true) : Text.isBlank c = false := by
  have hcodes : ∀ n < 0x3A, 0x30 ≤ n →
      (Text.blankRanges.any fun r => r.first ≤ n && n ≤ r.last) = false := by decide
  rw [isDigit, Bool.and_eq_true, decide_eq_true_eq, decide_eq_true_eq] at h
  exact hcodes c.toNat (Nat.lt_succ_of_le h.2) h.1

theorem not_isDigit_of_isBlank {c : Char} (h : Text.isBlank c = true) : isDigit c = false := by
  rw [← Bool.not_eq_true]
  intro hdigit
  rw [not_isBlank_of_isDigit hdigit] at h
  cases h

theorem not_isBlank_of_mem_toString {n : Int} : ∀ c ∈ (toString n).toList, Text.isBlank c = false := by
  intro c hc
  rw [toList_toString, List.mem_append] at hc
  rcases hc with hc | hc
  · split at hc
    · rw [List.mem_singleton.1 hc]
      decide
    · cases hc
  · exact not_isBlank_of_isDigit ((plain_toDigits _).isDigit c hc)

theorem toString_ne_nil (n : Int) : (toString n).toList ≠ [] := by
  rw [toList_toString]
  exact List.append_ne_nil_of_right_ne_nil _ Nat.toDigits_ne_nil

theorem plainDigits_le (cs : List Char) : plainDigits cs ≤ (cs.takeWhile isDigit).length := by
  unfold plainDigits
  split
  · exact Nat.zero_le _
  · exact Nat.le_refl _

theorem startsTooLong_eq_false {cs : List Char} (hfew : (cs.takeWhile isDigit).length ≤ maxDigits)
    (hminus : '-' ∉ cs.head?) : startsTooLong cs = false := by
  have hdigits := Nat.le_trans (plainDigits_le cs) hfew
  unfold startsTooLong
  split
  · exact absurd rfl hminus
  · exact decide_eq_false (Nat.not_lt.2 hdigits)

/-- The digits that the text begins with, behind a minus sign or not, are not too many. -/
theorem startsTooLong_toString {n : Int} {lead trail : List Char} (h : Text.digitCount n ≤ maxDigits)
    (hlead : Blanks lead) (htrail : Blanks trail) :
    startsTooLong (lead ++ ((toString n).toList ++ trail)) = false := by
  have hbehind : ∀ c ∈ trail.head?, isDigit c = false :=
    fun c hc => not_isDigit_of_isBlank (htrail c (List.mem_of_mem_head? hc))
  have hfew : ((Nat.toDigits 10 n.natAbs ++ trail).takeWhile isDigit).length ≤ maxDigits := by
    rw [Text.takeWhile_stretch (plain_toDigits _).isDigit hbehind]
    exact h
  cases lead with
  | nil =>
    rw [List.nil_append, toList_toString, List.append_assoc]
    split
    · exact decide_eq_false (Nat.not_lt.2 (Nat.le_trans (plainDigits_le _) hfew))
    · refine startsTooLong_eq_false hfew ?_
      cases hdigits : Nat.toDigits 10 n.natAbs with
      | nil => exact absurd hdigits Nat.toDigits_ne_nil
      | cons d digits =>
        intro hminus
        cases hminus
        exact absurd (hdigits ▸ List.mem_cons_self) ((plain_toDigits n.natAbs).not_mem (by decide))
  | cons b lead =>
    have hb := hlead b List.mem_cons_self
    refine startsTooLong_eq_false ?_ ?_
    · rw [List.cons_append, List.takeWhile_cons_of_neg (Bool.eq_false_iff.1 (not_isDigit_of_isBlank hb))]
      exact Nat.zero_le _
    · intro hminus
      cases hminus
      exact absurd hb (by decide)

/-- An integer in decimal is read back, whatever blanks stand around it, if it has no more digits than are read. -/
theorem readInt_toString {n : Int} {lead trail : List Char} (h : Text.digitCount n ≤ maxDigits)
    (hlead : Blanks lead) (htrail : Blanks trail) :
    readInt (.text (String.ofList (lead ++ ((toString n).toList ++ trail)))) = .ok n := by
  have hnumber : wholeNumber? (lead ++ ((toString n).toList ++ trail)) = some n := by
    rw [wholeNumber?, trimBlanks_around hlead htrail not_isBlank_of_mem_toString (toString_ne_nil n),
      cleaned_toString h]
  rw [readInt, String.toList_ofList, startsTooLong_toString h hlead htrail, hnumber]
  rfl

/-! ### Truth values -/

/-- The value says that something is true, or that it is false. -/
inductive Says : Bool → Raw → Prop
  | bool (b : Bool) : Says b (.bool b)
  | one : Says true (.int 1)
  | zero : Says false (.int 0)
  | yes {text : String} (h : asciiLower text ∈ trueWords) : Says true (.text text)
  | no {text : String} (h : asciiLower text ∈ falseWords) : Says false (.text text)

/-- No word says both. -/
theorem not_mem_falseWords {word : String} (h : word ∈ trueWords) : word ∉ falseWords := by
  revert word
  decide

theorem Says.readBool_eq {raw : Raw} {b : Bool} (h : Says b raw) : readBool raw = .ok b := by
  cases h with
  | bool => rfl
  | one => rfl
  | zero => rfl
  | yes h => exact if_pos (List.contains_iff_mem.2 h)
  | no h =>
    have hnot : trueWords.contains (asciiLower _) ≠ true :=
      fun hyes => not_mem_falseWords (List.contains_iff_mem.1 hyes) h
    exact (if_neg hnot).trans (if_pos (List.contains_iff_mem.2 h))

theorem says_of_readBool {raw : Raw} {b : Bool} (h : readBool raw = .ok b) : Says b raw := by
  cases raw with
  | null => cases h
  | bool value =>
    cases h
    exact .bool b
  | int n =>
    by_cases hone : n = 1
    · rw [hone] at h ⊢
      cases h
      exact .one
    · by_cases hzero : n = 0
      · rw [hzero] at h ⊢
        cases h
        exact .zero
      · rw [readBool, if_neg hone, if_neg hzero] at h
        split at h <;> cases h
  | text word =>
    dsimp only [readBool] at h
    split at h
    · next hyes =>
      cases h
      exact .yes (List.contains_iff_mem.1 hyes)
    · split at h
      · next hno =>
        cases h
        exact .no (List.contains_iff_mem.1 hno)
      · cases h
  | path => cases h
  | compound => cases h

/-- What says a truth value is read as it, and nothing else is read. -/
theorem readBool_eq_ok_iff {raw : Raw} {b : Bool} : readBool raw = .ok b ↔ Says b raw :=
  ⟨says_of_readBool, Says.readBool_eq⟩

end ColonySearch.Settings
