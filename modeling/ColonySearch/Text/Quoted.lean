import ColonySearch.Text.Hex
import ColonySearch.Text.Printable

/-!
# Quoted texts

How a message shows a text that it rejects: between quotes, on one line, in printable characters only. The quotes are single unless the text holds a single quote and no double quote, so that quotes inside need no escape where that can be had.
-/

namespace ColonySearch.Text

/-- The quote that encloses a text. -/
def enclosingQuote (text : List Char) : Char :=
  if text.contains '\'' && !text.contains '"' then '"' else '\''

/-- A character as it stands between the given quotes: the quote and the backslash behind a backslash, line breaks and tabs by letter, other unprintable characters by number. -/
def quotedChar (quote c : Char) : List Char :=
  if c = quote ∨ c = '\\' then ['\\', c]
  else if c = '\n' then ['\\', 'n']
  else if c = '\r' then ['\\', 'r']
  else if c = '\t' then ['\\', 't']
  else if isPrintable c then [c]
  else if c.toNat < 0x100 then '\\' :: 'x' :: hexDigits 2 c.toNat
  else if c.toNat < 0x10000 then '\\' :: 'u' :: hexDigits 4 c.toNat
  else '\\' :: 'U' :: hexDigits 8 c.toNat

def quoted (text : String) : String :=
  let quote := enclosingQuote text.toList
  String.ofList (quote :: text.toList.flatMap (quotedChar quote) ++ [quote])

end ColonySearch.Text
