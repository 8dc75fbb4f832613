import ColonySearch.Text.CodeRange

/-!
# Blank characters

The characters that Unicode counts as white space, and texts without the blanks around them. Some texts count the four information separators as white space too, which separate texts of mixed direction: those characters are called spacing here.
-/

namespace ColonySearch.Text

def blankRanges : List CodeRange :=
  [⟨0x9, 0xD⟩, ⟨0x20, 0x20⟩, ⟨0x85, 0x85⟩, ⟨0xA0, 0xA0⟩, ⟨0x1680, 0x1680⟩, ⟨0x2000, 0x200A⟩,
   ⟨0x2028, 0x2029⟩, ⟨0x202F, 0x202F⟩, ⟨0x205F, 0x205F⟩, ⟨0x3000, 0x3000⟩]

def isBlank (c : Char) : Bool := CodeRange.member blankRanges c

/-- The characters without the blanks at both ends. -/
def trimBlanks (text : List Char) : List Char :=
  ((text.dropWhile isBlank).reverse.dropWhile isBlank).reverse

/-- Whether a character is blank or one of the four information separators. -/
def isSpacing (c : Char) : Bool := isBlank c || ('\x1c' ≤ c && c ≤ '\x1f')

/-- The characters without the spacing at their end. -/
def trimSpacingEnd (text : List Char) : List Char := (text.reverse.dropWhile isSpacing).reverse

end ColonySearch.Text
