import ColonySearch.Proofs.Outcome
import ColonySearch.Text.Utf8

/-!
# Texts survive UTF-8

Decoding the bytes of a text gives the text back, and no other bytes decode at all. A character of several bytes is followed through the decoder with one invariant: the bits read so far are the number without the six-bit groups that are still owed, and the next byte is within the bounds. The bytes of a text in ASCII are its characters.
-/

namespace ColonySearch.Text.Utf8

/-- A number without its last `count` groups of six bits. -/
def dropGroups : (count : Nat) → Nat → Nat
  | 0, n => n
  | count + 1, n => dropGroups count n / 64

/-- The last `count` bytes of a character of several bytes, one for each group. -/
def tailBytes : (count : Nat) → Nat → List UInt8
  | 0, _ => []
  | count + 1, n => UInt8.ofNat (dropGroups count n % 64 + 0x80) :: tailBytes count n

/-- The character `n` has begun with all but `count + 1` of its bytes. -/
structure Pending.Begins (p : Pending) (count n : Nat) : Prop where
  owed : p.owed = count + 1
  bits : p.bits = dropGroups (count + 1) n
  low_le : p.low ≤ dropGroups count n % 64 + 0x80
  le_high : dropGroups count n % 64 + 0x80 ≤ p.high

theorem toNat_byte {n : Nat} (h : n < 0x100) : (UInt8.ofNat n).toNat = n := UInt8.toNat_ofNat_of_lt' h

theorem decodeFrom_begins {p : Pending} {count n : Nat} (h : p.Begins count n) (position : Nat)
    (rest : List UInt8) :
    decodeFrom position (some p) (UInt8.ofNat (dropGroups count n % 64 + 0x80) :: rest) =
      if count = 0 then (decodeFrom (position + 1) none rest).map (Char.ofNat n :: ·)
      else decodeFrom (position + 1) (some ⟨p.lead, p.start, dropGroups count n, count, 0x80, 0xBF⟩) rest := by
  have hbyte : (UInt8.ofNat (dropGroups count n % 64 + 0x80)).toNat = dropGroups count n % 64 + 0x80 := by
    apply toNat_byte
    omega
  have hbits : p.bits * 64 + dropGroups count n % 64 = dropGroups count n := by
    rw [h.bits, dropGroups]
    omega
  rw [decodeFrom, hbyte, if_pos ⟨h.low_le, h.le_high⟩, Nat.add_sub_cancel, hbits, h.owed]
  cases count with
  | zero => rw [if_pos (Nat.le_refl 1), if_pos rfl, dropGroups]
  | succ count =>
    rw [if_neg (by omega), if_neg (Nat.succ_ne_zero count), Nat.add_sub_cancel]

theorem decodeFrom_tailBytes {p : Pending} {count n : Nat} (h : p.Begins count n) (position : Nat)
    (rest : List UInt8) :
    decodeFrom position (some p) (tailBytes (count + 1) n ++ rest) =
      (decodeFrom (position + (count + 1)) none rest).map (Char.ofNat n :: ·) := by
  induction count generalizing p position with
  | zero =>
    rw [tailBytes, List.cons_append, decodeFrom_begins h, if_pos rfl]
    rfl
  | succ count ih =>
    have hnext : Pending.Begins ⟨p.lead, p.start, dropGroups (count + 1) n, count + 1, 0x80, 0xBF⟩ count n :=
      ⟨rfl, rfl, by dsimp only; omega, by dsimp only; omega⟩
    rw [tailBytes, List.cons_append, decodeFrom_begins h, if_neg (Nat.succ_ne_zero count), ih hnext,
      Nat.add_assoc, Nat.add_comm 1]

theorem decodeFrom_lead {position count n : Nat} {lead : Nat} {p : Pending} (hhigh : 0x80 ≤ lead)
    (hlead : lead < 0x100) (hbegin : begin? position (UInt8.ofNat lead) = some p)
    (h : p.Begins count n) (rest : List UInt8) :
    decodeFrom position none (UInt8.ofNat lead :: tailBytes (count + 1) n ++ rest) =
      (decodeFrom (position + (count + 2)) none rest).map (Char.ofNat n :: ·) := by
  rw [List.cons_append, decodeFrom, toNat_byte hlead, if_neg (by omega), hbegin]
  show decodeFrom (position + 1) (some p) _ = _
  rw [decodeFrom_tailBytes h, Nat.add_assoc, Nat.add_comm 1]

theorem begin?_two {n : Nat} (position : Nat) (h : 0x80 ≤ n) (h' : n ≤ 0x7FF) :
    ∃ p, begin? position (UInt8.ofNat (n / 64 % 0x20 + 0xC0)) = some p ∧ p.Begins 0 n := by
  simp only [begin?, toNat_byte (n := n / 64 % 0x20 + 0xC0) (by omega)]
  rw [if_pos (by omega)]
  refine ⟨_, rfl, rfl, ?_, ?_, ?_⟩ <;> simp only [dropGroups] <;> omega

theorem begin?_three {n : Nat} (position : Nat) (h : 0x800 ≤ n) (h' : n ≤ 0xFFFF)
    (hvalid : n < 0xD800 ∨ 0xDFFF < n) :
    ∃ p, begin? position (UInt8.ofNat (n / 4096 % 0x10 + 0xE0)) = some p ∧ p.Begins 1 n := by
  simp only [begin?, toNat_byte (n := n / 4096 % 0x10 + 0xE0) (by omega)]
  rw [if_neg (by omega)]
  -- Two first bytes narrow the second: one against overlong forms, one against surrogates.
  split
  · refine ⟨_, rfl, rfl, ?_, ?_, ?_⟩ <;> simp only [dropGroups] <;> omega
  · split
    · refine ⟨_, rfl, rfl, ?_, ?_, ?_⟩ <;> simp only [dropGroups] <;> omega
    · rw [if_pos (by omega)]
      refine ⟨_, rfl, rfl, ?_, ?_, ?_⟩ <;> simp only [dropGroups] <;> omega

theorem begin?_four {n : Nat} (position : Nat) (h : 0x10000 ≤ n) (h' : n < 0x110000) :
    ∃ p, begin? position (UInt8.ofNat (n / 262144 % 8 + 0xF0)) = some p ∧ p.Begins 2 n := by
  simp only [begin?, toNat_byte (n := n / 262144 % 8 + 0xF0) (by omega)]
  rw [if_neg (by omega), if_neg (by omega), if_neg (by omega), if_neg (by omega)]
  split
  · refine ⟨_, rfl, rfl, ?_, ?_, ?_⟩ <;> simp only [dropGroups] <;> omega
  · split
    · refine ⟨_, rfl, rfl, ?_, ?_, ?_⟩ <;> simp only [dropGroups] <;> omega
    · rw [if_pos (by omega)]
      refine ⟨_, rfl, rfl, ?_, ?_, ?_⟩ <;> simp only [dropGroups] <;> omega

/-! ### The bytes of one character -/

theorem encodeChar_one {c : Char} (h : c.toNat < 0x80) :
    String.utf8EncodeChar c = [UInt8.ofNat c.toNat] := if_pos (Nat.le_of_lt_succ h)

theorem encodeChar_two {c : Char} (h : 0x80 ≤ c.toNat) (h' : c.toNat ≤ 0x7FF) :
    String.utf8EncodeChar c = UInt8.ofNat (c.toNat / 64 % 0x20 + 0xC0) :: tailBytes 1 c.toNat := by
  have hval : c.val.toNat = c.toNat := rfl
  simp only [String.utf8EncodeChar, hval]
  rw [if_neg (by omega), if_pos h']
  rfl

theorem encodeChar_three {c : Char} (h : 0x800 ≤ c.toNat) (h' : c.toNat ≤ 0xFFFF) :
    String.utf8EncodeChar c = UInt8.ofNat (c.toNat / 4096 % 0x10 + 0xE0) :: tailBytes 2 c.toNat := by
  have hval : c.val.toNat = c.toNat := rfl
  simp only [String.utf8EncodeChar, hval]
  rw [if_neg (by omega), if_neg (by omega), if_pos h']
  rfl

theorem encodeChar_four {c : Char} (h : 0x10000 ≤ c.toNat) :
    String.utf8EncodeChar c = UInt8.ofNat (c.toNat / 262144 % 8 + 0xF0) :: tailBytes 3 c.toNat := by
  have hval : c.val.toNat = c.toNat := rfl
  simp only [String.utf8EncodeChar, hval]
  rw [if_neg (by omega), if_neg (by omega), if_neg (by omega)]
  simp only [tailBytes, dropGroups, Nat.div_div_eq_div_mul]

/-- A character is a byte below `0x80`, or a first byte that begins it and its six-bit groups. -/
theorem encodeChar_cases (c : Char) :
    (c.toNat < 0x80 ∧ String.utf8EncodeChar c = [UInt8.ofNat c.toNat]) ∨
    ∃ lead count, 0x80 ≤ lead ∧ lead < 0x100 ∧
      String.utf8EncodeChar c = UInt8.ofNat lead :: tailBytes (count + 1) c.toNat ∧
      ∀ position, ∃ p, begin? position (UInt8.ofNat lead) = some p ∧ p.Begins count c.toNat := by
  have hvalid : c.toNat < 0xD800 ∨ 0xDFFF < c.toNat ∧ c.toNat < 0x110000 := c.valid
  by_cases hone : c.toNat < 0x80
  · exact Or.inl ⟨hone, encodeChar_one hone⟩
  right
  by_cases htwo : c.toNat ≤ 0x7FF
  · exact ⟨c.toNat / 64 % 0x20 + 0xC0, 0, by omega, by omega, encodeChar_two (by omega) htwo,
      fun position => begin?_two position (by omega) htwo⟩
  by_cases hthree : c.toNat ≤ 0xFFFF
  · exact ⟨c.toNat / 4096 % 0x10 + 0xE0, 1, by omega, by omega, encodeChar_three (by omega) hthree,
      fun position => begin?_three position (by omega) hthree (by omega)⟩
  · exact ⟨c.toNat / 262144 % 8 + 0xF0, 2, by omega, by omega, encodeChar_four (by omega),
      fun position => begin?_four position (by omega) (by omega)⟩

theorem decodeFrom_encodeChar (c : Char) (position : Nat) (rest : List UInt8) :
    ∃ next, decodeFrom position none (String.utf8EncodeChar c ++ rest) =
      (decodeFrom next none rest).map (c :: ·) := by
  have hback : Char.ofNat c.toNat = c := c.ofNat_toNat
  obtain ⟨hascii, hbytes⟩ | ⟨lead, count, hhigh, hlead, hbytes, hbegins⟩ := encodeChar_cases c
  · refine ⟨position + 1, ?_⟩
    rw [hbytes, List.singleton_append, decodeFrom, toNat_byte (by omega), if_pos hascii, hback]
  · obtain ⟨p, hbegin, hp⟩ := hbegins position
    refine ⟨position + (count + 2), ?_⟩
    rw [hbytes, decodeFrom_lead hhigh hlead hbegin hp, hback]

/-- Decoding gives back every text that was encoded. -/
theorem decode_encode (text : List Char) : decode (encode text) = .ok text := by
  have hfrom : ∀ position, decodeFrom position none (encode text) = .ok text := by
    induction text with
    | nil => intro position; rfl
    | cons c text ih =>
      intro position
      obtain ⟨next, h⟩ := decodeFrom_encodeChar c position (encode text)
      rw [encode, List.flatMap_cons, ← encode, h, ih]
      rfl
  exact hfrom 0

theorem encode_injective {text other : List Char} (h : encode text = encode other) : text = other := by
  have hdecode := decode_encode text
  rw [h, decode_encode] at hdecode
  exact (Except.ok.inj hdecode).symm

/-! ### Only encodings are decoded -/

theorem toNat_ofNat_of_valid {n : Nat} (h : n.isValidChar) : (Char.ofNat n).toNat = n := by
  rw [Char.ofNat, dif_pos h]
  rfl

/-- Every number that the bytes read so far can still become is that of the character which they begin. -/
structure Pending.Continues (p : Pending) (read : List UInt8) (count : Nat) : Prop where
  owed : p.owed = count + 1
  low : 0x80 ≤ p.low
  high : p.high ≤ 0xBF
  encodes : ∀ n, p.bits = dropGroups (count + 1) n → p.low ≤ dropGroups count n % 64 + 0x80 →
    dropGroups count n % 64 + 0x80 ≤ p.high →
    String.utf8EncodeChar (Char.ofNat n) = read ++ tailBytes (count + 1) n

section Lead

variable {p : Pending} {byte : UInt8} (hlow : 0x80 ≤ p.low) (hhigh : p.high ≤ 0xBF)

include hlow hhigh

theorem continues_two (howed : p.owed = 1) (hlead : byte.toNat = p.bits + 0xC0) (hbits : 2 ≤ p.bits)
    (hbits' : p.bits ≤ 0x1F) : p.Continues [byte] 0 := by
  refine ⟨howed, hlow, hhigh, ?_⟩
  intro n hn _ _
  simp only [dropGroups] at hn
  have hchar := toNat_ofNat_of_valid (n := n) (Or.inl (by omega))
  have hfirst : n / 64 % 0x20 + 0xC0 = byte.toNat := by omega
  rw [encodeChar_two (by omega) (by omega), hchar, hfirst, UInt8.ofNat_toNat]
  rfl

/-- The bounds of the second byte keep out overlong forms and surrogates. -/
theorem continues_three (howed : p.owed = 2) (hlead : byte.toNat = p.bits + 0xE0)
    (hbits : p.bits ≤ 0xF) (hlong : p.bits = 0 → 0xA0 ≤ p.low)
    (hsurrogate : p.bits = 0xD → p.high ≤ 0x9F) : p.Continues [byte] 1 := by
  refine ⟨howed, hlow, hhigh, ?_⟩
  intro n hn hnext hnext'
  simp only [dropGroups] at hn hnext hnext'
  have hvalid : n.isValidChar := by
    unfold Nat.isValidChar
    omega
  have hchar := toNat_ofNat_of_valid hvalid
  have hfirst : n / 4096 % 0x10 + 0xE0 = byte.toNat := by omega
  rw [encodeChar_three (by omega) (by omega), hchar, hfirst, UInt8.ofNat_toNat]
  rfl

/-- The bounds of the second byte keep out overlong forms and what lies beyond the last code point. -/
theorem continues_four (howed : p.owed = 3) (hlead : byte.toNat = p.bits + 0xF0)
    (hbits : p.bits ≤ 4) (hlong : p.bits = 0 → 0x90 ≤ p.low) (hlast : p.bits = 4 → p.high ≤ 0x8F) :
    p.Continues [byte] 2 := by
  refine ⟨howed, hlow, hhigh, ?_⟩
  intro n hn hnext hnext'
  simp only [dropGroups] at hn hnext hnext'
  have hvalid : n.isValidChar := by
    unfold Nat.isValidChar
    omega
  have hchar := toNat_ofNat_of_valid hvalid
  have hfirst : n / 262144 % 8 + 0xF0 = byte.toNat := by omega
  rw [encodeChar_four (by omega), hchar, hfirst, UInt8.ofNat_toNat]
  rfl

end Lead

theorem continues_of_begin? {position : Nat} {byte : UInt8} {p : Pending}
    (h : begin? position byte = some p) : ∃ count, p.Continues [byte] count := by
  unfold begin? at h
  dsimp only at h
  split at h
  · cases h
    refine ⟨0, continues_two ?_ ?_ rfl ?_ ?_ ?_⟩ <;> dsimp only <;> omega
  -- Three bytes: after `0xE0`, after `0xED`, and after any other first byte.
  split at h
  · cases h
    refine ⟨1, continues_three ?_ ?_ rfl ?_ ?_ ?_ ?_⟩ <;> dsimp only <;> omega
  split at h
  · cases h
    refine ⟨1, continues_three ?_ ?_ rfl ?_ ?_ ?_ ?_⟩ <;> dsimp only <;> omega
  split at h
  · cases h
    refine ⟨1, continues_three ?_ ?_ rfl ?_ ?_ ?_ ?_⟩ <;> dsimp only <;> omega
  -- Four bytes: after `0xF0`, after `0xF4`, and between them.
  split at h
  · cases h
    refine ⟨2, continues_four ?_ ?_ rfl ?_ ?_ ?_ ?_⟩ <;> dsimp only <;> omega
  split at h
  · cases h
    refine ⟨2, continues_four ?_ ?_ rfl ?_ ?_ ?_ ?_⟩ <;> dsimp only <;> omega
  split at h
  · cases h
    refine ⟨2, continues_four ?_ ?_ rfl ?_ ?_ ?_ ?_⟩ <;> dsimp only <;> omega
  · cases h

section Step

variable {p : Pending} {read : List UInt8} {count : Nat} {byte : UInt8}

theorem Pending.Continues.last (h : p.Continues read 0) (hlow : p.low ≤ byte.toNat)
    (hhigh : byte.toNat ≤ p.high) :
    String.utf8EncodeChar (Char.ofNat (p.bits * 64 + (byte.toNat - 0x80))) = read ++ [byte] := by
  have hlow' := h.low
  have hhigh' := h.high
  have hgroup : (p.bits * 64 + (byte.toNat - 0x80)) % 64 + 0x80 = byte.toNat := by omega
  rw [h.encodes]
  · rw [tailBytes, dropGroups, hgroup, UInt8.ofNat_toNat]
    rfl
  · simp only [dropGroups]
    omega
  · rwa [dropGroups, hgroup]
  · rwa [dropGroups, hgroup]

theorem Pending.Continues.next (h : p.Continues read (count + 1)) (hlow : p.low ≤ byte.toNat)
    (hhigh : byte.toNat ≤ p.high) :
    Pending.Continues ⟨p.lead, p.start, p.bits * 64 + (byte.toNat - 0x80), p.owed - 1, 0x80, 0xBF⟩
      (read ++ [byte]) count := by
  have hlow' := h.low
  have hhigh' := h.high
  refine ⟨?_, Nat.le_refl _, Nat.le_refl _, ?_⟩
  · rw [h.owed, Nat.add_sub_cancel]
  · intro n hn _ _
    dsimp only at hn
    have hgroup : dropGroups (count + 1) n % 64 + 0x80 = byte.toNat := by omega
    have hbits : p.bits = dropGroups (count + 2) n := by
      rw [dropGroups]
      omega
    rw [h.encodes n hbits (by rwa [hgroup]) (by rwa [hgroup]), tailBytes, hgroup, UInt8.ofNat_toNat,
      List.append_assoc]
    rfl

end Step

/-- The bytes read of a character that has begun; none are between two characters. -/
def HasRead (read : List UInt8) : Option Pending → Prop
  | none => read = []
  | some p => ∃ count, p.Continues read count

theorem encode_of_decodeFrom {position : Nat} {pending : Option Pending} {bytes read : List UInt8}
    {text : List Char} (h : decodeFrom position pending bytes = .ok text) (hread : HasRead read pending) :
    encode text = read ++ bytes := by
  fun_induction decodeFrom position pending bytes generalizing text read with
  | case1 position =>
    cases h
    cases hread
    rfl
  | case2 position p => cases h
  | case3 position byte rest hascii ih =>
    obtain ⟨text, htext, rfl⟩ := Outcome.map_eq_ok_iff.1 h
    have hchar := toNat_ofNat_of_valid (n := byte.toNat) (Or.inl (by omega))
    rw [encode, List.flatMap_cons, ← encode, ih htext rfl, encodeChar_one (by omega), hchar,
      UInt8.ofNat_toNat, show read = [] from hread]
    rfl
  | case4 position byte rest hascii p hbegin ih =>
    rw [ih h (continues_of_begin? hbegin), show read = [] from hread]
    rfl
  | case5 position byte rest hascii hbegin => cases h
  | case6 position p byte rest hbounds bits howed =>
    rename_i ih
    obtain ⟨count, hcontinues⟩ := hread
    obtain ⟨text, htext, rfl⟩ := Outcome.map_eq_ok_iff.1 h
    have hlast : count = 0 := by
      have := hcontinues.owed
      omega
    subst hlast
    rw [encode, List.flatMap_cons, ← encode, ih htext rfl, hcontinues.last hbounds.1 hbounds.2,
      List.append_assoc]
    rfl
  | case7 position p byte rest hbounds bits howed =>
    rename_i ih
    obtain ⟨count, hcontinues⟩ := hread
    obtain ⟨count, rfl⟩ : ∃ n, count = n + 1 := by
      have := hcontinues.owed
      exact ⟨count - 1, by omega⟩
    rw [ih h ⟨count, hcontinues.next hbounds.1 hbounds.2⟩, List.append_assoc]
    rfl
  | case8 position p byte rest hbounds => cases h

/-- What decodes is the encoding of the text that comes out, and of no other. -/
theorem decode_eq_ok_iff {bytes : List UInt8} {text : List Char} :
    decode bytes = .ok text ↔ bytes = encode text := by
  constructor
  · intro h
    exact (encode_of_decodeFrom h rfl).symm
  · intro h
    rw [h, decode_encode]

theorem encode_of_ascii {text : List Char} (h : ∀ c ∈ text, c.toNat < 0x80) :
    encode text = text.map fun c => UInt8.ofNat c.toNat := by
  induction text with
  | nil => rfl
  | cons c text ih =>
    have hc : c.val.toNat ≤ 0x7F := Nat.le_of_lt_succ (h c List.mem_cons_self)
    have hbytes : String.utf8EncodeChar c = [UInt8.ofNat c.toNat] := if_pos hc
    rw [encode, List.flatMap_cons, ← encode, ih fun d hd => h d (List.mem_cons_of_mem c hd), hbytes,
      List.map_cons, List.singleton_append]

end ColonySearch.Text.Utf8
