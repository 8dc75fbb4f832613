import ColonySearch.Text.Hex

/-!
# Texts in JSON

How a text is written between quotes and read back. Writing uses printable ASCII alone: other characters become escapes of four hexadecimal digits, two of them, a surrogate pair, for a character beyond the sixteen-bit range. Reading takes any escape and any character that is not a control character; a surrogate that is not part of a pair is read as the replacement character.
-/

namespace ColonySearch.Json

open ColonySearch.Text

/-! ### Writing -/

/-- The letter that stands for a character behind a backslash, for the characters that have one and are always escaped. -/
def shortEscape? (c : Char) : Option Char :=
  [('"', '"'), ('\\', '\\'), ('\n', 'n'), ('\r', 'r'), ('\t', 't'), ('\x08', 'b'), ('\x0c', 'f')].lookup c

/-- The sixteen-bit units of a code point: itself, or a surrogate pair. -/
def units (code : Nat) : List Nat :=
  if code < 0x10000 then [code]
  else [0xD800 + (code - 0x10000) / 0x400, 0xDC00 + (code - 0x10000) % 0x400]

def escapeUnit (unit : Nat) : List Char := '\\' :: 'u' :: hexDigits 4 unit

/-- A character as it is written. -/
def escape (c : Char) : List Char :=
  match shortEscape? c with
  | some letter => ['\\', letter]
  | none => if ' ' ≤ c ∧ c ≤ '~' then [c] else (units c.toNat).flatMap escapeUnit

def writeText (text : String) : List Char := '"' :: text.toList.flatMap escape ++ ['"']

/-! ### Reading -/

/-- The character that a letter behind a backslash stands for. -/
def unescape? (letter : Char) : Option Char :=
  [('"', '"'), ('\\', '\\'), ('/', '/'), ('n', '\n'), ('r', '\r'), ('t', '\t'), ('b', '\x08'),
   ('f', '\x0c')].lookup letter

def hexUnit? (a b c d : Char) : Option Nat := do
  let a ← hexValue? a
  let b ← hexValue? b
  let c ← hexValue? c
  let d ← hexValue? d
  return ((a * 16 + b) * 16 + c) * 16 + d

/-- Reads behind an opening quote up to the closing one: the code points, surrogates among them as they were written, and what follows the text. -/
def readCodes : List Char → Option (List Nat × List Char)
  | [] => none
  | '"' :: rest => some ([], rest)
  | '\\' :: 'u' :: a :: b :: c :: d :: rest => do
    let unit ← hexUnit? a b c d
    let (codes, rest) ← readCodes rest
    return (unit :: codes, rest)
  | '\\' :: letter :: rest => do
    let c ← unescape? letter
    let (codes, rest) ← readCodes rest
    return (c.toNat :: codes, rest)
  | c :: rest =>
    if c = '\\' ∨ c.toNat < 0x20 then none
    else do
      let (codes, rest) ← readCodes rest
      return (c.toNat :: codes, rest)

def isHighSurrogate (code : Nat) : Bool := 0xD800 ≤ code && code ≤ 0xDBFF

def isLowSurrogate (code : Nat) : Bool := 0xDC00 ≤ code && code ≤ 0xDFFF

def pairCode (high low : Nat) : Nat := 0x10000 + (high - 0xD800) * 0x400 + (low - 0xDC00)

/-- The character of a code point that stands alone. -/
def loneChar (code : Nat) : Char := if code.isValidChar then Char.ofNat code else '\ufffd'

/-- The characters of a list of code points in which adjacent surrogates form pairs. -/
def joinPairs : List Nat → List Char
  | [] => []
  | [code] => [loneChar code]
  | high :: low :: rest =>
    if isHighSurrogate high && isLowSurrogate low then Char.ofNat (pairCode high low) :: joinPairs rest
    else loneChar high :: joinPairs (low :: rest)

/-- Reads a text behind its opening quote; the second part follows the closing one. -/
def readText (cs : List Char) : Option (String × List Char) :=
  (readCodes cs).map fun (codes, rest) => (String.ofList (joinPairs codes), rest)

/-- The rest behind a text is shorter than what was read. -/
theorem length_lt_of_readCodes {cs rest : List Char} {codes : List Nat}
    (h : readCodes cs = some (codes, rest)) : rest.length < cs.length := by
  fun_induction readCodes cs generalizing codes rest with
  | case1 => simp at h
  | case2 r => simp only [Option.some.injEq, Prod.mk.injEq] at h; simp [← h.2]
  | case3 a b c d r ih =>
    simp only [Option.bind_eq_bind, Option.bind_eq_some_iff, Option.pure_def, Option.some.injEq,
      Prod.mk.injEq] at h
    obtain ⟨_, _, ⟨_, r'⟩, hr, _, rfl⟩ := h
    have := ih hr
    simp only [List.length_cons]
    omega
  | case4 letter r _ ih =>
    simp only [Option.bind_eq_bind, Option.bind_eq_some_iff, Option.pure_def, Option.some.injEq,
      Prod.mk.injEq] at h
    obtain ⟨_, _, ⟨_, r'⟩, hr, _, rfl⟩ := h
    have := ih hr
    simp only [List.length_cons]
    omega
  | case5 => simp at h
  | case6 c r _ _ _ _ ih =>
    simp only [Option.bind_eq_bind, Option.bind_eq_some_iff, Option.pure_def, Option.some.injEq,
      Prod.mk.injEq] at h
    obtain ⟨⟨_, r'⟩, hr, _, rfl⟩ := h
    have := ih hr
    simp only [List.length_cons]
    omega

theorem length_lt_of_readText {cs rest : List Char} {text : String}
    (h : readText cs = some (text, rest)) : rest.length < cs.length := by
  simp only [readText, Option.map_eq_some_iff, Prod.mk.injEq] at h
  obtain ⟨⟨_, _⟩, hr, _, rfl⟩ := h
  exact length_lt_of_readCodes hr

end ColonySearch.Json
