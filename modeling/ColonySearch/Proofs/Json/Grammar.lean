import ColonySearch.Json.Token

/-!
# What a document is

The grammar of JSON in two steps, with no reader in it. A text is cut into lexemes, each of which writes a token, with blanks wherever they like between them; and a value is written as a list of tokens. Numbers may be of any length here, and containers nested to any depth. What a reader does not convert is an integer with too many digits, standing where a number can begin: in front, or right behind a mark. A reader with limits gets stuck where such an integer, or one container too many, comes next and what stands in front is the beginning of a document within the limits.
-/

namespace ColonySearch.Json

open ColonySearch.Text

/-! ### Texts -/

/-- What is written between quotes for one code point. -/
inductive Piece : Nat → List Char → Prop
  | plain {c : Char} (hquote : c ≠ '"') (hbackslash : c ≠ '\\') (hcontrol : 0x20 ≤ c.toNat) :
    Piece c.toNat [c]
  | quote : Piece 0x22 ['\\', '"']
  | backslash : Piece 0x5C ['\\', '\\']
  | slash : Piece 0x2F ['\\', '/']
  | backspace : Piece 0x08 ['\\', 'b']
  | formFeed : Piece 0x0C ['\\', 'f']
  | lineFeed : Piece 0x0A ['\\', 'n']
  | carriageReturn : Piece 0x0D ['\\', 'r']
  | tab : Piece 0x09 ['\\', 't']
  | unit {a b c d : Char} {i j k l : Nat} (ha : hexValue? a = some i) (hb : hexValue? b = some j)
    (hc : hexValue? c = some k) (hd : hexValue? d = some l) :
    Piece (((i * 16 + j) * 16 + k) * 16 + l) ['\\', 'u', a, b, c, d]

inductive Pieces : List Nat → List Char → Prop
  | nil : Pieces [] []
  | cons {code : Nat} {codes : List Nat} {p ps : List Char} (h : Piece code p) (hs : Pieces codes ps) :
    Pieces (code :: codes) (p ++ ps)

/-- The characters of code points. A high surrogate and a low one behind it are one character; a surrogate alone comes out as the replacement character. -/
inductive Characters : List Nat → List Char → Prop
  | nil : Characters [] []
  | char {codes : List Nat} {cs : List Char} (c : Char) (hs : Characters codes cs) :
    Characters (c.toNat :: codes) (c :: cs)
  | pair {high low : Nat} {c : Char} {codes : List Nat} {cs : List Char} (hhigh : isHighSurrogate high)
    (hlow : isLowSurrogate low) (hc : c.toNat = 0x10000 + (high - 0xD800) * 0x400 + (low - 0xDC00))
    (hs : Characters codes cs) : Characters (high :: low :: codes) (c :: cs)
  | lone {code : Nat} {codes : List Nat} {cs : List Char}
    (hcode : isHighSurrogate code ∨ isLowSurrogate code)
    (hnext : isHighSurrogate code → ∀ low ∈ codes.head?, ¬ isLowSurrogate low)
    (hs : Characters codes cs) : Characters (code :: codes) ('\ufffd' :: cs)

/-- Every surrogate among the code points has its partner. -/
inductive Paired : List Nat → Prop
  | nil : Paired []
  | char {codes : List Nat} (c : Char) (hs : Paired codes) : Paired (c.toNat :: codes)
  | pair {high low : Nat} {codes : List Nat} (hhigh : isHighSurrogate high) (hlow : isLowSurrogate low)
    (hs : Paired codes) : Paired (high :: low :: codes)

/-! ### Numbers -/

def Digits (cs : List Char) : Prop := cs ≠ [] ∧ ∀ c ∈ cs, isDigit c = true

inductive Sign : List Char → Prop
  | none : Sign []
  | minus : Sign ['-']

inductive IntegerPart : List Char → Prop
  | zero : IntegerPart ['0']
  | digits {c : Char} {ds : List Char} (hc : isDigit c = true) (hzero : c ≠ '0')
    (hds : ∀ d ∈ ds, isDigit d = true) : IntegerPart (c :: ds)

inductive FractionPart : List Char → Prop
  | none : FractionPart []
  | digits {ds : List Char} (hds : Digits ds) : FractionPart ('.' :: ds)

inductive ExponentPart : List Char → Prop
  | none : ExponentPart []
  | unsigned {e : Char} {ds : List Char} (he : e = 'e' ∨ e = 'E') (hds : Digits ds) :
    ExponentPart (e :: ds)
  | signed {e sign : Char} {ds : List Char} (he : e = 'e' ∨ e = 'E') (hsign : sign = '+' ∨ sign = '-')
    (hds : Digits ds) : ExponentPart (e :: sign :: ds)

/-! ### Lexemes -/

/-- What is written for one token. The three numbers that are words are beyond the standard. -/
inductive Lexeme : Token → List Char → Prop
  | openArray : Lexeme .openArray ['[']
  | closeArray : Lexeme .closeArray [']']
  | openObject : Lexeme .openObject ['\x7b']
  | closeObject : Lexeme .closeObject ['\x7d']
  | colon : Lexeme .colon [':']
  | comma : Lexeme .comma [',']
  | text {codes : List Nat} {cs ps : List Char} (hpieces : Pieces codes ps) (hcs : Characters codes cs) :
    Lexeme (.text (String.ofList cs)) ('"' :: ps ++ ['"'])
  | null : Lexeme (.scalar .null) ['n', 'u', 'l', 'l']
  | trueWord : Lexeme (.scalar (.bool true)) ['t', 'r', 'u', 'e']
  | falseWord : Lexeme (.scalar (.bool false)) ['f', 'a', 'l', 's', 'e']
  | notNumber : Lexeme (.scalar (.number "NaN")) ['N', 'a', 'N']
  | infinity : Lexeme (.scalar (.number "Infinity")) ['I', 'n', 'f', 'i', 'n', 'i', 't', 'y']
  | minusInfinity :
    Lexeme (.scalar (.number "-Infinity")) ['-', 'I', 'n', 'f', 'i', 'n', 'i', 't', 'y']
  | number {sign digits fraction exponent : List Char} (hsign : Sign sign) (hdigits : IntegerPart digits)
    (hfraction : FractionPart fraction) (hexponent : ExponentPart exponent) :
    Lexeme (.scalar (.number (String.ofList (sign ++ digits ++ fraction ++ exponent))))
      (sign ++ digits ++ fraction ++ exponent)

/-- A text cut into lexemes, blanks left out. -/
inductive Lexes : List Token → List Char → Prop
  | nil : Lexes [] []
  | blank {c : Char} {tokens : List Token} {cs : List Char} (hc : c ∈ [' ', '\t', '\n', '\r'])
    (hs : Lexes tokens cs) : Lexes tokens (c :: cs)
  | lexeme {token : Token} {tokens : List Token} {l cs : List Char} (h : Lexeme token l)
    (hs : Lexes tokens cs) : Lexes (token :: tokens) (l ++ cs)

/-! ### Documents -/

/-- What is written as a list of tokens: a value, or what stands between the brackets of one that is not empty. -/
inductive Part where
  | value (value : Value)
  | items (items : List Value)
  | members (members : List (String × Value))

inductive Writes : Part → List Token → Prop
  | scalar (v : Value) : Writes (.value v) [.scalar v]
  | text (s : String) : Writes (.value (.text s)) [.text s]
  | emptyArray : Writes (.value (.array [])) [.openArray, .closeArray]
  | array {vs : List Value} {inner : List Token} (h : Writes (.items vs) inner) :
    Writes (.value (.array vs)) (.openArray :: inner ++ [.closeArray])
  | emptyObject : Writes (.value (.object [])) [.openObject, .closeObject]
  | object {ms : List (String × Value)} {inner : List Token} (h : Writes (.members ms) inner) :
    Writes (.value (.object ms)) (.openObject :: inner ++ [.closeObject])
  | item {v : Value} {front : List Token} (h : Writes (.value v) front) : Writes (.items [v]) front
  | items {v : Value} {vs : List Value} {front more : List Token} (h : Writes (.value v) front)
    (hs : Writes (.items vs) more) : Writes (.items (v :: vs)) (front ++ .comma :: more)
  | member {key : String} {v : Value} {front : List Token} (h : Writes (.value v) front) :
    Writes (.members [(key, v)]) (.text key :: .colon :: front)
  | members {key : String} {v : Value} {ms : List (String × Value)} {front more : List Token}
    (h : Writes (.value v) front) (hs : Writes (.members ms) more) :
    Writes (.members ((key, v) :: ms)) (.text key :: .colon :: front ++ .comma :: more)

/-- The text is a document, and this is its value. -/
def Document (text : List Char) (v : Value) : Prop :=
  ∃ tokens, Lexes tokens text ∧ Writes (.value v) tokens

/-! ### Integers that are too long -/

def Token.IsMark : Token → Prop
  | .text _ | .scalar _ | .fault _ => False
  | _ => True

/-- In front of the text stands an integer of that many digits, more than are converted. It ends there, without a fraction and without an exponent. -/
def OverlongInteger (count : Nat) (text : List Char) : Prop :=
  ∃ sign digits rest, text = sign ++ digits ++ rest ∧ Sign sign ∧ IntegerPart digits ∧
    digits.length = count ∧ maxDigits < count ∧ (∀ c ∈ rest.head?, isDigit c = false) ∧
    (∀ fraction, FractionPart fraction → fraction <+: rest → fraction = []) ∧
    ∀ exponent, ExponentPart exponent → exponent <+: rest → exponent = []

/-- Somewhere in the text, where a number can begin, stands an integer of that many digits. -/
def HasOverlongInteger (count : Nat) (text : List Char) : Prop :=
  ∃ front tokens rest, text = front ++ rest ∧ Lexes tokens front ∧
    (∀ token ∈ tokens.getLast?, token.IsMark) ∧ OverlongInteger count rest

theorem HasOverlongInteger.lt_length {count : Nat} {text : List Char}
    (h : HasOverlongInteger count text) : maxDigits < text.length := by
  obtain ⟨front, _, _, rfl, _, _, sign, digits, rest, rfl, _, _, rfl, hlong, _⟩ := h
  simp only [List.length_append]
  omega

/-! ### Where a reader gets stuck -/

/-- The parts by kind. -/
inductive Kind where
  | value
  | items
  | members

/-- What a part of that kind begins with when a value comes next in it. -/
inductive Awaits : Kind → List Token → Prop
  | value : Awaits .value []
  | array {front : List Token} (h : Awaits .items front) : Awaits .value (.openArray :: front)
  | object {front : List Token} (h : Awaits .members front) : Awaits .value (.openObject :: front)
  | item {front : List Token} (h : Awaits .value front) : Awaits .items front
  | items {v : Value} {written front : List Token} (hv : Writes (.value v) written)
    (h : Awaits .items front) : Awaits .items (written ++ .comma :: front)
  | member {key : String} {front : List Token} (h : Awaits .value front) :
    Awaits .members (.text key :: .colon :: front)
  | members {key : String} {v : Value} {written front : List Token} (hv : Writes (.value v) written)
    (h : Awaits .members front) : Awaits .members (.text key :: .colon :: written ++ .comma :: front)

/-- The token is no integer with too many digits. -/
def Token.IsShort (token : Token) : Prop :=
  ∀ sign digits, Sign sign → IntegerPart digits →
    token = .scalar (.number (String.ofList (sign ++ digits))) → digits.length ≤ maxDigits

def opened (tokens : List Token) : Nat := tokens.countP (·.opens?.isSome)

def closed (tokens : List Token) : Nat := tokens.countP (·.closes)

/-- Nowhere are more containers open than there is room for. -/
def Fits (room : Nat) (tokens : List Token) : Prop :=
  ∀ front, front <+: tokens → opened front ≤ closed front + room

/-- In front of the rest of the text these tokens are written, the beginning of a document in which a value comes next, with nothing in it that is too long or too deep. -/
structure Reaches (limit : Option Nat) (text : List Char) (written : List Token) (rest : List Char) :
    Prop where
  exists_front : ∃ front, text = front ++ rest ∧ Lexes written front
  awaits : Awaits .value written
  isShort : ∀ token ∈ written, token.IsShort
  fits : ∀ room ∈ limit, Fits room written

def Container.bracket : Container → Char
  | .array => '['
  | .object => '\x7b'

/-- What a reader gets stuck over. -/
inductive Stuck (limit : Option Nat) (text : List Char) : ReadError → Prop
  | tooManyDigits {written : List Token} {rest : List Char} {count : Nat}
    (h : Reaches limit text written rest) (hlong : OverlongInteger count rest) :
    Stuck limit text (.tooManyDigits count)
  | tooDeep {written : List Token} {rest : List Char} {room : Nat} {container : Container}
    (h : Reaches limit text written (container.bracket :: rest)) (hlimit : limit = some room)
    (hfull : opened written = closed written + room) : Stuck limit text (.tooDeep container)

/-! ### Surrogates -/

/-- Somewhere in the text stands a text between quotes with a surrogate that has no partner. -/
def HasUnpaired (text : List Char) : Prop :=
  ∃ front tokens codes ps rest, text = front ++ '"' :: ps ++ '"' :: rest ∧ Lexes tokens front ∧
    Pieces codes ps ∧ ¬ Paired codes

theorem Pieces.paired {codes : List Nat} {ps : List Char} (h : Pieces codes ps) (hplain : '\\' ∉ ps) :
    Paired codes := by
  induction h with
  | nil => exact .nil
  | cons hp hs ih =>
    rw [List.mem_append, not_or] at hplain
    cases hp with
    | plain => exact .char _ (ih hplain.2)
    | _ => exact absurd List.mem_cons_self hplain.1

/-- Without a backslash every surrogate has its partner: there is none. -/
theorem not_hasUnpaired {text : List Char} (h : '\\' ∉ text) : ¬ HasUnpaired text := by
  rintro ⟨front, tokens, codes, ps, rest, rfl, _, hpieces, hcodes⟩
  apply hcodes
  apply hpieces.paired
  intro hmem
  exact h (by simp [hmem])

end ColonySearch.Json
