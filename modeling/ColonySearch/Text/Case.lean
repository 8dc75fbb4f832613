import ColonySearch.Text.CaseData

/-!
# Case of a text

Lower-casing and upper-casing of whole texts, and the capitalised form that entities show. One character may become several, and lower-casing depends on context in one place: a capital sigma becomes the final form `ς` where it ends a word. Everything else is decided character by character, which is why `lower` of a text differs from lower-casing its pieces only at a sigma.
-/

namespace ColonySearch.Text

def isCaseIgnorable (c : Char) : Bool := CodeRange.member caseIgnorableRanges c

/-- Cased and not case-ignorable: the letters that make a sigma beside them stand inside or at the end of a word. -/
def isCased (c : Char) : Bool := CodeRange.member casedRanges c

/-- Whether the first character that is not case-ignorable exists and is cased. -/
def reachesCased (text : List Char) : Bool :=
  (text.find? (!isCaseIgnorable ·)).any isCased

def capitalSigma : Char := '\u03a3'

/-- The lower-case form of a sigma between `before`, read backwards, and `after`: final where a letter precedes and none follows. -/
def lowerSigma (before after : List Char) : Char :=
  if reachesCased before && !reachesCased after then '\u03c2' else '\u03c3'

/-- The lower-case form of a character other than the sigma, which no context changes. -/
def lowerChar (c : Char) : List Char :=
  if c = '\u0130' then ['i', '\u0307'] else [CaseRange.image lowerRanges c]

/-- Lower-cases `text` as it stands behind `before`, which is read backwards. -/
def lowerAfter (before : List Char) : List Char → List Char
  | [] => []
  | c :: after =>
    (if c = capitalSigma then [lowerSigma before after] else lowerChar c) ++
      lowerAfter (c :: before) after

def lowerChars (text : List Char) : List Char := lowerAfter [] text

def lower (text : String) : String := String.ofList (lowerChars text.toList)

/-- The upper-case form of one character, which no context changes. -/
def upperChar (c : Char) : List Char :=
  match upperExpansions.lookup c.toNat with
  | some codes => codes.map Char.ofNat
  | none => [CaseRange.image upperRanges c]

def upper (text : String) : String := String.ofList (text.toList.flatMap upperChar)

/-- The text with its first character in upper case and the rest as it was. -/
def capitalized (text : String) : String :=
  match text.toList with
  | [] => text
  | c :: rest => String.ofList (upperChar c ++ rest)

end ColonySearch.Text
