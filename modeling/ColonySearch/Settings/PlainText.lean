import ColonySearch.Text.Blank

/-!
# Plain texts of assignments

Texts of lines that assign a value to a name, comments and empty lines, in which nothing is quoted, refers to a variable or is trimmed. What such a text says is the same for every reader of assignments.
-/

namespace ColonySearch.Settings

inductive TextLine where
  | blank
  | comment (text : String)
  | assignment (name value : String)
deriving DecidableEq, Repr

namespace TextLine

def written : TextLine → String
  | .blank => ""
  | .comment text => "#" ++ text
  | .assignment name value => name ++ "=" ++ value

/-- The lines with line feeds between them. -/
def join (lines : List TextLine) : String := "\n".intercalate (lines.map written)

/-- What the line assigns, if it does. -/
def assigned? : TextLine → Option (String × Option String)
  | .blank | .comment _ => none
  | .assignment name value => some (name, some value)

theorem assigned?_eq_some_iff {line : TextLine} {entry : String × Option String} :
    line.assigned? = some entry ↔ ∃ name value, line = .assignment name value ∧ entry = (name, some value) := by
  cases line with
  | blank => simp [assigned?]
  | comment text => simp [assigned?]
  | assignment name value =>
    constructor
    · intro h
      exact ⟨name, value, rfl, (Option.some.inj h).symm⟩
    · intro h
      obtain ⟨_, _, hline, rfl⟩ := h
      cases hline
      rfl

/-! ### Plain lines -/

def InLine (cs : List Char) : Prop := ∀ c ∈ cs, c ≠ '\n' ∧ c ≠ '\r'

/-- The digits, the letters and the underscore. -/
def variableRanges : List Text.CodeRange := [⟨0x30, 0x39⟩, ⟨0x41, 0x5A⟩, ⟨0x5F, 0x5F⟩, ⟨0x61, 0x7A⟩]

/-- Whether a character can belong to the name of a variable. -/
def isVariableChar (c : Char) : Bool := Text.CodeRange.member variableRanges c

/-- The text stands for itself behind an equals sign. -/
structure PlainValue (value : List Char) : Prop where
  inLine : InLine value
  opens : ∀ c ∈ value.head?, Text.isSpacing c = false ∧ c ≠ '\'' ∧ c ≠ '"'
  closes : ∀ c ∈ value.getLast?, Text.isSpacing c = false
  noReference : '$' ∉ value
  /-- A number sign behind spacing would begin a comment. -/
  noComment : ∀ before after, value = before ++ '#' :: after → ∀ c ∈ before.getLast?, Text.isSpacing c = false

inductive Plain : TextLine → Prop
  | blank : Plain .blank
  | comment {text : String} (h : InLine text.toList) : Plain (.comment text)
  | assignment {name value : String} (hne : name.toList ≠ [])
      (hname : ∀ c ∈ name.toList, isVariableChar c = true) (hvalue : PlainValue value.toList) :
      Plain (.assignment name value)

end TextLine

end ColonySearch.Settings
