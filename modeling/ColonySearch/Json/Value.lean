/-!
# JSON values

Values as documents hold them. Numbers are kept as they are written, since nothing here computes with them, and an object keeps all its members in order, repeated keys included; looking a key up finds the last member that has it.
-/

namespace ColonySearch.Json

inductive Value where
  | null
  | bool (value : Bool)
  | number (literal : String)
  | text (value : String)
  | array (items : List Value)
  | object (members : List (String × Value))
deriving Repr

/-- The value of the last member with that key, if the value is an object that has one. -/
def Value.member? : Value → String → Option Value
  | .object members, key => members.reverse.lookup key
  | _, _ => none

def Value.text? : Value → Option String
  | .text value => some value
  | _ => none

end ColonySearch.Json
