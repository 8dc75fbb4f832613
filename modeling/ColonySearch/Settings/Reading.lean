import ColonySearch.Path
import ColonySearch.Settings.WholeNumber

/-!
# Reading setting values

Values as sources give them, and the lenient readers that turn them into numbers, truth values, texts and paths. A source of text gives texts alone; arguments can give any value.
-/

namespace ColonySearch.Settings

inductive Raw where
  | null
  | bool (value : Bool)
  | int (value : Int)
  | text (value : String)
  | path (value : Path)
  /-- A list or a record, which no setting is read from. -/
  | compound
deriving DecidableEq, Repr

inductive Fault where
  | intParsing
  | intParsingSize
  | intType
  | greaterThanEqual
  | boolParsing
  | boolType
  | stringType
  | pathType
deriving DecidableEq, Repr

def Fault.name : Fault → String
  | .intParsing => "int_parsing"
  | .intParsingSize => "int_parsing_size"
  | .intType => "int_type"
  | .greaterThanEqual => "greater_than_equal"
  | .boolParsing => "bool_parsing"
  | .boolType => "bool_type"
  | .stringType => "string_type"
  | .pathType => "path_type"

/-! ### Numbers -/

/-- Reads a whole number; truth values are one and zero. A text whose very first character begins a number that is too long is refused for its length. -/
def readInt : Raw → Except Fault Int
  | .int value => .ok value
  | .bool value => .ok (if value then 1 else 0)
  | .text value =>
    if startsTooLong value.toList then .error .intParsingSize
    else
      match wholeNumber? value.toList with
      | some n => .ok n
      | none => .error .intParsing
  | .null | .path _ | .compound => .error .intType

def readPositive (raw : Raw) : Except Fault Int := do
  let n ← readInt raw
  if 1 ≤ n then return n else .error .greaterThanEqual

/-! ### Truth values -/

def trueWords : List String := ["1", "t", "true", "y", "yes", "on"]

def falseWords : List String := ["0", "f", "false", "n", "no", "off"]

/-- The text with the letters of ASCII in lower case. -/
def asciiLower (text : String) : String := String.ofList (text.toList.map Char.toLower)

/-- Whether a number fits a signed word of 64 bits. -/
def fitsWord (n : Int) : Bool := -0x8000000000000000 ≤ n && n < 0x8000000000000000

/-- Reads a truth value; words count in any case, without blanks. A number that fits no word is not taken for one that could be a truth value. -/
def readBool : Raw → Except Fault Bool
  | .bool value => .ok value
  | .int value =>
    if value = 1 then .ok true
    else if value = 0 then .ok false
    else if fitsWord value then .error .boolParsing
    else .error .boolType
  | .text value =>
    let word := asciiLower value
    if trueWords.contains word then .ok true
    else if falseWords.contains word then .ok false
    else .error .boolParsing
  | .null | .path _ | .compound => .error .boolType

/-! ### Texts and paths -/

/-- Reads a text, which nothing but a text is. -/
def readText : Raw → Except Fault String
  | .text value => .ok value
  | _ => .error .stringType

def readPath : Raw → Except Fault Path
  | .text value => .ok (.ofText value)
  | .path value => .ok value
  | _ => .error .pathType

end ColonySearch.Settings
