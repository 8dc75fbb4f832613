import ColonySearch.Text.Blank
import ColonySearch.Text.Substring

/-!
# Texts of whole numbers

Whole numbers as they are leniently written. Around the number blanks do not count. In front of the digits may stand a sign and zeros, among the zeros any number of underscores; between the digits single underscores may stand; behind them a point and zeros. What is left when all this is dropped has to be a plain number: digits without a zero in front, behind a minus sign or not. Because a minus sign may also follow the zeros, `0-5` is read as `-5`.
-/

namespace ColonySearch.Settings

def isDigit (c : Char) : Bool := '0' ≤ c && c ≤ '9'

/-! ### Plain numbers -/

/-- The most digits a plain number may have. -/
def maxDigits : Nat := 4300

def digitsValue (digits : List Char) : Nat :=
  digits.foldl (fun n c => n * 10 + (c.toNat - 0x30)) 0

/-- The number that digits without a needless zero in front write, if they are not too many. -/
def plainNat? : List Char → Option Nat
  | [] => none
  | ['0'] => some 0
  | '0' :: _ => none
  | digits =>
    if digits.all isDigit && digits.length ≤ maxDigits then some (digitsValue digits) else none

/-- A plain number, negative behind a minus sign. -/
def plainInt? : List Char → Option Int
  | '-' :: digits => (plainNat? digits).map fun n => -(n : Int)
  | digits => (plainNat? digits).map fun n => (n : Int)

/-- How many digits of a plain number a text begins with. -/
def plainDigits : List Char → Nat
  | '0' :: _ => 0
  | cs => (cs.takeWhile isDigit).length

/-- Whether a text begins with a plain number of too many digits. -/
def startsTooLong : List Char → Bool
  | '-' :: cs => maxDigits < plainDigits cs
  | cs => maxDigits < plainDigits cs

/-! ### What does not count -/

/-- The text behind zeros and underscores, the last of which is given. The last one stays if a point follows it or nothing does; other than by these the number goes on with a digit or a minus sign. -/
def behindZeros? (last : Char) : List Char → Option (List Char)
  | [] => some [last]
  | c :: rest =>
    if c = '0' ∨ c = '_' then behindZeros? c rest
    else if c = '.' then some (last :: c :: rest)
    else if isDigit c ∨ c = '-' then some (c :: rest)
    else none

/-- The text without leading zeros; it has to begin with a digit. -/
def dropZeros? : List Char → Option (List Char)
  | [] => none
  | c :: rest =>
    if c = '0' then behindZeros? c rest
    else if isDigit c then some (c :: rest)
    else none

/-- The text without a fraction of zeros, of which there is at least one. -/
def dropFraction (cs : List Char) : List Char :=
  match cs.dropWhile (· != '.') with
  | _ :: zeros =>
    if !zeros.isEmpty && zeros.all (· == '0') then cs.takeWhile (· != '.') else cs
  | [] => cs

/-- The text without its underscores, if each of them stands alone between other characters. -/
def dropUnderscores (cs : List Char) : List Char :=
  if cs.head? = some '_' ∨ cs.getLast? = some '_' ∨ Text.occursIn ['_', '_'] cs then cs
  else cs.filter (· != '_')

/-- What is left of a number without its sign. -/
def cleaned? (cs : List Char) : Option (List Char) :=
  (dropZeros? cs).map fun rest => dropUnderscores (dropFraction rest)

/-- What is left of a number; a plus sign does not count. -/
def cleanedSigned? : List Char → Option (List Char)
  | '+' :: cs => cleaned? cs
  | '-' :: cs => (cleaned? cs).map ('-' :: ·)
  | cs => cleaned? cs

/-- Reads a whole number. -/
def wholeNumber? (text : List Char) : Option Int :=
  (cleanedSigned? (Text.trimBlanks text)).bind plainInt?

end ColonySearch.Settings
