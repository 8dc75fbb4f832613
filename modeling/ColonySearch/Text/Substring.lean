/-!
# Texts inside texts

The substring test that label matching is built on. The empty text stands in every text.
-/

namespace ColonySearch.Text

/-- Whether `needle` occurs as a contiguous stretch of the characters. -/
def occursIn (needle : List Char) : List Char → Bool
  | [] => needle.isEmpty
  | c :: rest => needle.isPrefixOf (c :: rest) || occursIn needle rest

theorem occursIn_iff {needle text : List Char} : occursIn needle text = true ↔ needle <:+: text := by
  induction text with
  | nil => simp [occursIn]
  | cons c rest ih => simp [occursIn, ih, List.infix_cons_iff]

def contains (text needle : String) : Bool := occursIn needle.toList text.toList

end ColonySearch.Text
