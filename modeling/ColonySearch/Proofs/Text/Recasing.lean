import ColonySearch.Proofs.Text.Utf8
import ColonySearch.Text.Case
import Mathlib.Data.List.Forall2

/-!
# Texts that agree in lower case

A text keeps its lower-case form when it is lower-cased beforehand and when any of its ASCII letters are put in the other case. The first holds because lower-casing ends at characters that it leaves alone: no range of the case table meets the images of another, and no capital sigma is ever written. The second holds because the two cases of an ASCII letter have the same lower-case form and count alike beside a sigma, however far away the sigma is.
-/

namespace ColonySearch.Text

/-! ### The images of the case table -/

namespace CaseRange

variable {r r' : CaseRange} {n : Nat}

/-- The range of the images. -/
def images (r : CaseRange) : CaseRange :=
  ⟨(r.first + r.shift).toNat, (r.last + r.shift).toNat, r.step, 0⟩

/-- The ranges share no code point: one ends before the other starts, or they take turns. -/
def apart (r r' : CaseRange) : Bool :=
  r.last.blt r'.first || r'.last.blt r.first ||
    (r'.step == 2 && (r.step == 2 || r.first == r.last) && (r.first + r'.first) % 2 == 1)

theorem covers_eq_true_iff :
    r.covers n = true ↔ r.first ≤ n ∧ n ≤ r.last ∧ (n - r.first) % r.step = 0 := by
  simp only [covers, Bool.and_eq_true, decide_eq_true_eq, beq_iff_eq, and_assoc]

theorem covers_images (hsign : 0 ≤ r.first + r.shift) (h : r.covers n = true) :
    r.images.covers (n + r.shift).toNat = true := by
  rw [covers_eq_true_iff] at h ⊢
  obtain ⟨hfirst, hlast, hstep⟩ := h
  have hdistance : (n + r.shift).toNat - (r.first + r.shift).toNat = n - r.first := by omega
  refine ⟨?_, ?_, ?_⟩
  · show (r.first + r.shift).toNat ≤ _
    omega
  · show _ ≤ (r.last + r.shift).toNat
    omega
  · show (_ - (r.first + r.shift).toNat) % r.step = 0
    rw [hdistance, hstep]

theorem not_covers_of_apart (hapart : r.apart r' = true) (h : r.covers n = true) :
    ¬ r'.covers n = true := by
  rw [covers_eq_true_iff] at h ⊢
  obtain ⟨hfirst, hlast, hstep⟩ := h
  simp only [apart, Bool.or_eq_true, Bool.and_eq_true, beq_iff_eq, Nat.blt_eq] at hapart
  intro h'
  obtain ⟨hfirst', hlast', hstep'⟩ := h'
  obtain (hbefore | hbehind) | ⟨⟨hsecond, hwidth⟩, hodd⟩ := hapart
  · omega
  · omega
  · rw [hsecond] at hstep'
    obtain hwidth | hwidth := hwidth
    · rw [hwidth] at hstep
      omega
    · omega

/-- Where no image of lower-casing falls: on the dotted capital I, on a surrogate, or on a character that is lower-cased in turn. -/
def unsettled : List CaseRange := ⟨0x130, 0x130, 1, 0⟩ :: ⟨0xD800, 0xDFFF, 1, 0⟩ :: lowerRanges

theorem lowerRanges_apart : ((lowerRanges.map images).all fun r => unsettled.all r.apart) = true := by
  decide +kernel

theorem lowerRanges_within : (lowerRanges.all fun r =>
    decide (0 ≤ r.first + r.shift) && r.images.last.blt 0x110000) = true := by
  decide +kernel

end CaseRange

/-! ### Characters that lower-casing leaves alone -/

/-- Lower-casing leaves the character as it is, wherever it stands. -/
structure IsSettled (c : Char) : Prop where
  ne_sigma : c ≠ capitalSigma
  lowerChar_eq : lowerChar c = [c]

theorem image_eq_self {c : Char} (h : ∀ r ∈ lowerRanges, ¬ r.covers c.toNat = true) :
    CaseRange.image lowerRanges c = c := by
  rw [CaseRange.image, List.find?_eq_none.2 h]

theorem isSettled_of_not_covers {c : Char}
    (h : ∀ r ∈ CaseRange.unsettled, ¬ r.covers c.toNat = true) : IsSettled c := by
  have hlower : ∀ r ∈ lowerRanges, ¬ r.covers c.toNat = true := by
    intro r hr
    exact h r (List.mem_cons_of_mem _ (List.mem_cons_of_mem _ hr))
  constructor
  · rintro rfl
    exact hlower ⟨0x3A3, 0x3AB, 1, 32⟩ (by decide +kernel) (by decide)
  · rw [lowerChar, if_neg, image_eq_self hlower]
    rintro rfl
    exact h ⟨0x130, 0x130, 1, 0⟩ List.mem_cons_self (by decide)

/-- The image of a covered character is settled, since the table keeps its images apart from itself. -/
theorem isSettled_of_covers {c : Char} {r : CaseRange} (hr : r ∈ lowerRanges)
    (h : r.covers c.toNat = true) : IsSettled (Char.ofNat (c.toNat + r.shift).toNat) := by
  have hwithin := List.all_eq_true.1 CaseRange.lowerRanges_within r hr
  rw [Bool.and_eq_true, decide_eq_true_eq, Nat.blt_eq] at hwithin
  have himage := CaseRange.covers_images hwithin.1 h
  have hfree : ∀ r' ∈ CaseRange.unsettled, ¬ r'.covers (c.toNat + r.shift).toNat = true := by
    intro r' hr'
    have hapart := List.all_eq_true.1 CaseRange.lowerRanges_apart r.images (List.mem_map_of_mem hr)
    exact CaseRange.not_covers_of_apart (List.all_eq_true.1 hapart r' hr') himage
  have hvalid : (c.toNat + r.shift).toNat.isValidChar := by
    have hsurrogate := hfree ⟨0xD800, 0xDFFF, 1, 0⟩ (List.mem_cons_of_mem _ List.mem_cons_self)
    have hlast := (CaseRange.covers_eq_true_iff.1 himage).2.1
    rw [CaseRange.covers_eq_true_iff] at hsurrogate
    unfold Nat.isValidChar
    dsimp only at hsurrogate
    omega
  apply isSettled_of_not_covers
  rw [Utf8.toNat_ofNat_of_valid hvalid]
  exact hfree

theorem isSettled_image {c : Char} (hsigma : c ≠ capitalSigma) (hdot : c ≠ '\u0130') :
    IsSettled (CaseRange.image lowerRanges c) := by
  unfold CaseRange.image
  split
  · rename_i r hfound
    exact isSettled_of_covers (List.mem_of_find?_eq_some hfound)
      (List.find?_eq_some_iff_append.1 hfound).1
  · rename_i hnone
    refine ⟨hsigma, ?_⟩
    rw [lowerChar, if_neg hdot, image_eq_self (List.find?_eq_none.1 hnone)]

theorem isSettled_of_mem_lowerChar {c d : Char} (hsigma : c ≠ capitalSigma) (h : d ∈ lowerChar c) :
    IsSettled d := by
  unfold lowerChar at h
  split at h
  · simp only [List.mem_cons, List.not_mem_nil, or_false] at h
    rcases h with rfl | rfl
    · exact ⟨by decide, by decide +kernel⟩
    · exact ⟨by decide, by decide +kernel⟩
  · rename_i hdot
    rw [List.mem_singleton.1 h]
    exact isSettled_image hsigma hdot

theorem isSettled_lowerSigma (before after : List Char) : IsSettled (lowerSigma before after) := by
  unfold lowerSigma
  split
  · exact ⟨by decide, by decide +kernel⟩
  · exact ⟨by decide, by decide +kernel⟩

/-! ### Lower-casing twice -/

theorem isSettled_of_mem_lowerAfter {before text : List Char} {d : Char}
    (h : d ∈ lowerAfter before text) : IsSettled d := by
  induction text generalizing before with
  | nil => cases h
  | cons c after ih =>
    rw [lowerAfter, List.mem_append] at h
    obtain h | h := h
    · split at h
      · rw [List.mem_singleton.1 h]
        exact isSettled_lowerSigma before after
      · rename_i hsigma
        exact isSettled_of_mem_lowerChar hsigma h
    · exact ih h

theorem lowerAfter_eq_self {before text : List Char} (h : ∀ c ∈ text, IsSettled c) :
    lowerAfter before text = text := by
  induction text generalizing before with
  | nil => rfl
  | cons c after ih =>
    obtain ⟨hsigma, hlower⟩ := h c List.mem_cons_self
    rw [lowerAfter, if_neg hsigma, hlower, ih fun d hd => h d (List.mem_cons_of_mem c hd),
      List.singleton_append]

theorem lower_lower (text : String) : lower (lower text) = lower text := by
  have hsettled : ∀ c ∈ (lower text).toList, IsSettled c := by
    intro c hc
    rw [lower, String.toList_ofList] at hc
    exact isSettled_of_mem_lowerAfter hc
  rw [lower, lowerChars, lowerAfter_eq_self hsettled, String.ofList_toList]

/-! ### The other case of ASCII letters -/

/-- An ASCII letter in the other case; any other character as it is. -/
def otherCase (c : Char) : Char := if c.isUpper then c.toLower else c.toUpper

/-- Lower-casing takes the two for the same, both where they stand and beside a sigma. -/
structure SameLetter (c d : Char) : Prop where
  sigma : c = capitalSigma ↔ d = capitalSigma
  lowerChar_eq : lowerChar c = lowerChar d
  isCased_eq : isCased c = isCased d
  isCaseIgnorable_eq : isCaseIgnorable c = isCaseIgnorable d

theorem SameLetter.refl (c : Char) : SameLetter c c := ⟨Iff.rfl, rfl, rfl, rfl⟩

theorem SameLetter.symm {c d : Char} (h : SameLetter c d) : SameLetter d c :=
  ⟨h.sigma.symm, h.lowerChar_eq.symm, h.isCased_eq.symm, h.isCaseIgnorable_eq.symm⟩

def asciiCapitals : List Char := (List.range 26).map fun n => Char.ofNat (0x41 + n)

theorem of_mem_asciiCapitals : ∀ c ∈ asciiCapitals, 0x41 ≤ c.toNat ∧ c.toNat ≤ 0x5A ∧
    c.toLower = Char.ofNat (c.toNat + 32) ∧ c.toLower.toNat = c.toNat + 32 := by
  rw [asciiCapitals, List.forall_mem_map]
  decide +kernel

theorem isCased_of_letter {c : Char}
    (h : 0x41 ≤ c.toNat ∧ c.toNat ≤ 0x5A ∨ 0x61 ≤ c.toNat ∧ c.toNat ≤ 0x7A) : isCased c = true := by
  apply List.any_eq_true.2
  obtain ⟨hfirst, hlast⟩ | ⟨hfirst, hlast⟩ := h
  · exact ⟨⟨0x41, 0x5A⟩, List.mem_cons_self, by simp [hfirst, hlast]⟩
  · exact ⟨⟨0x61, 0x7A⟩, List.mem_cons_of_mem _ List.mem_cons_self, by simp [hfirst, hlast]⟩

theorem caseIgnorableRanges_apart : (caseIgnorableRanges.all fun r =>
    (r.last.blt 0x41 || Nat.blt 0x5A r.first) && (r.last.blt 0x61 || Nat.blt 0x7A r.first)) = true := by
  decide +kernel

theorem isCaseIgnorable_of_letter {c : Char}
    (h : 0x41 ≤ c.toNat ∧ c.toNat ≤ 0x5A ∨ 0x61 ≤ c.toNat ∧ c.toNat ≤ 0x7A) :
    isCaseIgnorable c = false := by
  apply List.any_eq_false.2
  intro r hr
  have hapart := List.all_eq_true.1 caseIgnorableRanges_apart r hr
  simp only [Bool.and_eq_true, Bool.or_eq_true, Nat.blt_eq] at hapart
  simp only [Bool.and_eq_true, decide_eq_true_eq]
  omega

/-- The capital is the first entry of the case table, and its image is settled as all images are. -/
theorem sameLetter_toLower {c : Char} (h : c ∈ asciiCapitals) : SameLetter c.toLower c := by
  obtain ⟨hfirst, hlast, hlower, hcode⟩ := of_mem_asciiCapitals c h
  have hcovers : CaseRange.covers ⟨0x41, 0x5A, 1, 32⟩ c.toNat = true :=
    CaseRange.covers_eq_true_iff.2 ⟨hfirst, hlast, Nat.mod_one _⟩
  have hsettled : IsSettled c.toLower := by
    rw [hlower]
    exact isSettled_of_covers List.mem_cons_self hcovers
  have hsigma : c ≠ capitalSigma := by
    rintro rfl
    exact absurd hlast (by decide)
  have himage : lowerChar c = [c.toLower] := by
    have hdot : c ≠ '\u0130' := by
      rintro rfl
      exact absurd hlast (by decide)
    obtain ⟨others, htable⟩ : ∃ others, lowerRanges = ⟨0x41, 0x5A, 1, 32⟩ :: others := ⟨_, rfl⟩
    rw [lowerChar, if_neg hdot, CaseRange.image, htable, List.find?_cons_of_pos, hlower]
    · rfl
    · exact hcovers
  refine ⟨iff_of_false hsettled.ne_sigma hsigma, ?_, ?_, ?_⟩
  · rw [hsettled.lowerChar_eq, himage]
  · rw [isCased_of_letter (by omega), isCased_of_letter (by omega)]
  · rw [isCaseIgnorable_of_letter (by omega), isCaseIgnorable_of_letter (by omega)]

theorem otherCase_cases (c : Char) : otherCase c = c ∨
    c ∈ asciiCapitals ∧ otherCase c = c.toLower ∨
    otherCase c ∈ asciiCapitals ∧ c = (otherCase c).toLower := by
  by_cases hascii : c.toNat < 128
  · have hall : ∀ n : Fin 128, otherCase (Char.ofNat n) = Char.ofNat n ∨
        Char.ofNat n ∈ asciiCapitals ∧ otherCase (Char.ofNat n) = (Char.ofNat n).toLower ∨
        otherCase (Char.ofNat n) ∈ asciiCapitals ∧
          Char.ofNat n = (otherCase (Char.ofNat n)).toLower := by
      decide +kernel
    have h := hall ⟨c.toNat, hascii⟩
    rw [Char.ofNat_toNat] at h
    exact h
  · left
    have hupper : ¬ c.isUpper = true := by
      intro h
      have hlast : c.toNat ≤ 0x5A := (of_decide_eq_true h).2
      omega
    rw [otherCase, if_neg hupper]
    apply dif_neg
    intro h
    have hlast : c.toNat ≤ 0x7A := h.2
    omega

theorem sameLetter_otherCase (c : Char) : SameLetter (otherCase c) c := by
  obtain h | ⟨hcapital, h⟩ | ⟨hcapital, h⟩ := otherCase_cases c
  · rw [h]
    exact .refl c
  · rw [h]
    exact sameLetter_toLower hcapital
  · have hback := (sameLetter_toLower hcapital).symm
    rwa [← h] at hback

/-! ### Texts of the same letters -/

theorem reachesCased_congr {text text' : List Char} (h : List.Forall₂ SameLetter text text') :
    reachesCased text = reachesCased text' := by
  unfold reachesCased
  induction h with
  | nil => rfl
  | @cons c d _ _ hletter _ ih =>
    rw [List.find?_cons, List.find?_cons, hletter.isCaseIgnorable_eq]
    cases isCaseIgnorable d with
    | true => exact ih
    | false => exact hletter.isCased_eq

theorem lowerAfter_congr {before before' text text' : List Char}
    (hbefore : List.Forall₂ SameLetter before before') (h : List.Forall₂ SameLetter text text') :
    lowerAfter before text = lowerAfter before' text' := by
  induction h generalizing before before' with
  | nil => rfl
  | @cons c d after after' hletter hafter ih =>
    rw [lowerAfter, lowerAfter, ih (hbefore.cons hletter)]
    by_cases hsigma : d = capitalSigma
    · rw [if_pos hsigma, if_pos (hletter.sigma.2 hsigma), lowerSigma, lowerSigma,
        reachesCased_congr hbefore, reachesCased_congr hafter]
    · rw [if_neg hsigma, if_neg fun hc => hsigma (hletter.sigma.1 hc), hletter.lowerChar_eq]

/-- The characters with those at the chosen places in the other case. -/
def flipped (which : Nat → Bool) (text : List Char) : List Char :=
  text.mapIdx fun i c => if which i then otherCase c else c

theorem forall₂_flipped (which : Nat → Bool) (text : List Char) :
    List.Forall₂ SameLetter (flipped which text) text := by
  unfold flipped
  induction text generalizing which with
  | nil => exact .nil
  | cons c text ih =>
    rw [List.mapIdx_cons]
    refine .cons ?_ (ih fun i => which (i + 1))
    split
    · exact sameLetter_otherCase c
    · exact .refl c

/-! ### Changes of case -/

/-- Ways to write a text in another case. -/
inductive Recasing where
  | kept
  | lowered
  /-- The ASCII letters at the chosen places are put in the other case. -/
  | flipped (which : Nat → Bool)

def Recasing.apply : Recasing → String → String
  | .kept, text => text
  | .lowered, text => lower text
  | .flipped which, text => String.ofList (Text.flipped which text.toList)

/-- No change of case shows in lower case. -/
theorem lower_recased (r : Recasing) (text : String) : lower (r.apply text) = lower text := by
  cases r with
  | kept => rfl
  | lowered => exact lower_lower text
  | flipped which =>
    rw [Recasing.apply, lower, lower, lowerChars, lowerChars, String.toList_ofList,
      lowerAfter_congr .nil (forall₂_flipped which text.toList)]

end ColonySearch.Text
