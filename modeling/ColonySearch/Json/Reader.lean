import ColonySearch.Json.Token

/-!
# Reading JSON

Documents read from their tokens by recursive descent. Each function reads as much as it needs from the front of the tokens and hands on the rest. A fault among the tokens is reported where a value is expected; elsewhere it is one more token that does not belong there. The fuel only makes the recursion evident: `read` gives more than any document uses.
-/

namespace ColonySearch.Json

mutual

def readValue : (fuel : Nat) → List Token → Except ReadError (Value × List Token)
  | 0, _ => .error .malformed
  | fuel + 1, tokens =>
    match tokens with
    | .scalar value :: rest => .ok (value, rest)
    | .text value :: rest => .ok (.text value, rest)
    | .openArray :: .closeArray :: rest => .ok (.array [], rest)
    | .openArray :: rest => do
      let (items, rest) ← readItems fuel rest
      return (.array items, rest)
    | .openObject :: .closeObject :: rest => .ok (.object [], rest)
    | .openObject :: rest => do
      let (members, rest) ← readMembers fuel rest
      return (.object members, rest)
    | .fault error :: _ => .error error
    | _ => .error .malformed

/-- Reads the items of an array, at least one, and the bracket that closes it. -/
def readItems : (fuel : Nat) → List Token → Except ReadError (List Value × List Token)
  | 0, _ => .error .malformed
  | fuel + 1, tokens => do
    let (value, rest) ← readValue fuel tokens
    match rest with
    | .comma :: rest =>
      let (items, rest) ← readItems fuel rest
      return (value :: items, rest)
    | .closeArray :: rest => return ([value], rest)
    | _ => .error .malformed

/-- Reads the members of an object, at least one, and the brace that closes it. -/
def readMembers : (fuel : Nat) → List Token → Except ReadError (List (String × Value) × List Token)
  | 0, _ => .error .malformed
  | fuel + 1, tokens =>
    match tokens with
    | .text key :: .colon :: rest => do
      let (value, rest) ← readValue fuel rest
      match rest with
      | .comma :: rest =>
        let (members, rest) ← readMembers fuel rest
        return ((key, value) :: members, rest)
      | .closeObject :: rest => return ([(key, value)], rest)
      | _ => .error .malformed
    | _ => .error .malformed

end

/-- Reads one value and nothing behind it. -/
def readTokens (all : List Token) : Except ReadError Value :=
  match readValue (2 * all.length + 1) all with
  | .ok (value, []) => .ok value
  | .ok (_, _ :: _) => .error .malformed
  | .error e => .error e

/-- Reads a document, with at most so many containers open at a time, if there is a limit. -/
def read (text : List Char) (limit : Option Nat := none) : Except ReadError Value :=
  readTokens (bounded limit (tokens text))

end ColonySearch.Json
