import ColonySearch.Json.Escape
import ColonySearch.Json.Value
import ColonySearch.Text.Decimal

/-!
# Tokens of JSON

A document as a list of tokens. Where the text stops being tokens the list ends with a fault, so that a reader that works from left to right meets the fault only if it gets that far. Beyond the standard, the numbers `NaN`, `Infinity` and `-Infinity` are read; an integer with too many digits is a fault of its own, and so is a bracket that opens more containers within each other than a reader can keep open.
-/

namespace ColonySearch.Json

/-- A value that others stand in. -/
inductive Container where
  | array
  | object
deriving DecidableEq, Repr

def Container.name : Container → String
  | .array => "array"
  | .object => "object"

/-- Why a text is not read. -/
inductive ReadError where
  /-- It is no document. -/
  | malformed
  /-- It writes an integer of that many digits, more than are converted. -/
  | tooManyDigits (count : Nat)
  /-- It opens a container inside as many others as can be open at a time. -/
  | tooDeep (container : Container)
deriving DecidableEq, Repr

inductive Token where
  | openArray
  | closeArray
  | openObject
  | closeObject
  | colon
  | comma
  | text (value : String)
  | scalar (value : Value)
  | fault (error : ReadError)
deriving Repr

def Token.opens? : Token → Option Container
  | .openArray => some .array
  | .openObject => some .object
  | _ => none

def Token.closes : Token → Bool
  | .closeArray | .closeObject => true
  | _ => false

def isSpace (c : Char) : Bool := c == ' ' || c == '\t' || c == '\n' || c == '\r'

def mark? (c : Char) : Option Token :=
  [('[', Token.openArray), (']', .closeArray), ('\x7b', .openObject), ('\x7d', .closeObject),
   (':', .colon), (',', .comma)].lookup c

def isDigit (c : Char) : Bool := '0' ≤ c && c ≤ '9'

/-! ### Numbers -/

/-- The digits of an integer, without leading zeros, and what follows them. -/
def integerPart? : List Char → Option (List Char × List Char)
  | '0' :: rest => some (['0'], rest)
  | c :: rest =>
    if isDigit c then some (c :: rest.takeWhile isDigit, rest.dropWhile isDigit) else none
  | [] => none

/-- A fraction, empty if there is none, and what follows it. -/
def fractionPart : List Char → List Char × List Char
  | '.' :: c :: rest =>
    if isDigit c then ('.' :: c :: rest.takeWhile isDigit, rest.dropWhile isDigit)
    else ([], '.' :: c :: rest)
  | rest => ([], rest)

/-- The digits of an exponent behind the marks read already; nothing if there are none. -/
def exponentDigits (marks whole : List Char) : List Char → List Char × List Char
  | c :: rest =>
    if isDigit c then (marks ++ c :: rest.takeWhile isDigit, rest.dropWhile isDigit) else ([], whole)
  | [] => ([], whole)

/-- An exponent, empty if there is none, and what follows it. -/
def exponentPart : List Char → List Char × List Char
  | e :: sign :: rest =>
    if e = 'e' ∨ e = 'E' then
      if sign = '+' ∨ sign = '-' then exponentDigits [e, sign] (e :: sign :: rest) rest
      else exponentDigits [e] (e :: sign :: rest) (sign :: rest)
    else ([], e :: sign :: rest)
  | rest => ([], rest)

/-- The token of a number behind its sign, and what follows it. The limit on digits holds for integers: numbers without a fraction and without an exponent. -/
def number? (sign : List Char) (cs : List Char) : Option (Token × List Char) := do
  let (digits, rest) ← integerPart? cs
  let (fraction, rest) := fractionPart rest
  let (exponent, rest) := exponentPart rest
  if fraction.isEmpty && exponent.isEmpty && maxDigits < digits.length then
    return (.fault (.tooManyDigits digits.length), rest)
  else
    return (.scalar (.number (String.ofList (sign ++ digits ++ fraction ++ exponent))), rest)

/-! ### Words -/

def words : List (List Char × Value) :=
  [("null".toList, .null), ("true".toList, .bool true), ("false".toList, .bool false),
   ("NaN".toList, .number "NaN"), ("Infinity".toList, .number "Infinity"),
   ("-Infinity".toList, .number "-Infinity")]

/-- The word that the text starts with, and what follows it. -/
def word? (cs : List Char) : Option (Token × List Char) :=
  words.findSome? fun (word, value) =>
    if word.isPrefixOf cs then some (.scalar value, cs.drop word.length) else none

/-! ### Scanning -/

/-- The first token of a text that starts with no blank, and what follows it. -/
def lexeme? : List Char → Option (Token × List Char)
  | [] => none
  | c :: rest =>
    match mark? c with
    | some token => some (token, rest)
    | none =>
      if c = '"' then (readText rest).map fun (value, rest) => (.text value, rest)
      else
        match word? (c :: rest) with
        | some found => some found
        | none => if c = '-' then number? ['-'] rest else number? [] (c :: rest)

/-! ### Every step shortens the text -/

theorem length_dropWhile_le {α : Type} (p : α → Bool) (l : List α) : (l.dropWhile p).length ≤ l.length :=
  (List.dropWhile_sublist p).length_le

theorem length_lt_of_integerPart? {cs digits rest : List Char}
    (h : integerPart? cs = some (digits, rest)) : rest.length < cs.length := by
  unfold integerPart? at h
  split at h
  · simp only [Option.some.injEq, Prod.mk.injEq] at h
    simp [← h.2]
  · rename_i c r _
    split at h
    · simp only [Option.some.injEq, Prod.mk.injEq] at h
      have := length_dropWhile_le isDigit r
      simp only [← h.2, List.length_cons]
      omega
    · simp at h
  · simp at h

theorem length_fractionPart_le (cs : List Char) : (fractionPart cs).2.length ≤ cs.length := by
  unfold fractionPart
  split
  · rename_i c r
    split
    · have := length_dropWhile_le isDigit r
      simp only [List.length_cons]
      omega
    · simp
  · simp

theorem length_exponentDigits_le {marks whole cs : List Char} (h : cs.length ≤ whole.length) :
    (exponentDigits marks whole cs).2.length ≤ whole.length := by
  unfold exponentDigits
  split
  · rename_i c r
    split
    · have := length_dropWhile_le isDigit r
      simp only [List.length_cons] at h ⊢
      omega
    · simp
  · simp

theorem length_exponentPart_le (cs : List Char) : (exponentPart cs).2.length ≤ cs.length := by
  unfold exponentPart
  split
  · split
    · split
      · exact length_exponentDigits_le (by simp only [List.length_cons]; omega)
      · exact length_exponentDigits_le (by simp only [List.length_cons]; omega)
    · simp
  · simp

theorem length_lt_of_number? {sign cs rest : List Char} {token : Token}
    (h : number? sign cs = some (token, rest)) : rest.length < cs.length := by
  simp only [number?, Option.bind_eq_bind, Option.bind_eq_some_iff] at h
  obtain ⟨⟨digits, r⟩, hr, h⟩ := h
  have h₁ := length_lt_of_integerPart? hr
  have h₂ := length_fractionPart_le r
  have h₃ := length_exponentPart_le (fractionPart r).2
  split at h <;> simp only [Option.pure_def, Option.some.injEq, Prod.mk.injEq] at h <;>
    · rw [← h.2]; omega

theorem length_lt_of_word? {cs rest : List Char} {token : Token}
    (h : word? cs = some (token, rest)) : rest.length < cs.length := by
  simp only [word?, List.findSome?_eq_some_iff] at h
  obtain ⟨_, ⟨word, value⟩, _, hw, h, _⟩ := h
  dsimp only at h
  split at h
  · rename_i hp
    have hlen := (List.isPrefixOf_iff_prefix.1 hp).length_le
    have hpos : 0 < word.length := by
      have : (word, value) ∈ words := hw ▸ by simp
      simp only [words, List.mem_cons, Prod.mk.injEq, List.not_mem_nil, or_false] at this
      rcases this with h | h | h | h | h | h <;> rw [h.1] <;> decide
    simp only [Option.some.injEq, Prod.mk.injEq] at h
    rw [← h.2, List.length_drop]
    omega
  · simp at h

theorem length_lt_of_lexeme? {cs rest : List Char} {token : Token}
    (h : lexeme? cs = some (token, rest)) : rest.length < cs.length := by
  unfold lexeme? at h
  split at h
  · simp at h
  · rename_i c r
    split at h
    · simp only [Option.some.injEq, Prod.mk.injEq] at h
      simp [← h.2]
    · split at h
      · simp only [Option.map_eq_some_iff, Prod.mk.injEq] at h
        obtain ⟨⟨_, _⟩, hr, _, rfl⟩ := h
        have := length_lt_of_readText hr
        simp only [List.length_cons]
        omega
      · split at h
        · rename_i hw
          exact length_lt_of_word? (h ▸ hw)
        · split at h
          · have := length_lt_of_number? h
            simp only [List.length_cons]
            omega
          · exact length_lt_of_number? h

/-- The tokens of a text, up to the first fault. -/
def tokens : List Char → List Token
  | [] => []
  | c :: rest =>
    if isSpace c then tokens rest
    else
      match _h : lexeme? (c :: rest) with
      | none => [.fault .malformed]
      | some (.fault error, _) => [.fault error]
      | some (token, rest') => token :: tokens rest'
termination_by cs => cs.length
decreasing_by
  · simp
  · exact length_lt_of_lexeme? _h

/-! ### Nesting -/

/-- The tokens up to the first bracket for which there is no room: as many containers can be open at a time as there was room in front. -/
def within : (room : Nat) → List Token → List Token
  | _, [] => []
  | room, token :: rest =>
    match token.opens?, room with
    | some container, 0 => [.fault (.tooDeep container)]
    | some _, room + 1 => token :: within room rest
    | none, room => token :: within (if token.closes then room + 1 else room) rest

/-- The tokens that a reader gets to see which can keep so many containers open, or any number. -/
def bounded (limit : Option Nat) (all : List Token) : List Token :=
  match limit with
  | none => all
  | some room => within room all

end ColonySearch.Json
