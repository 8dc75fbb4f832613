/-!
# Ranges of code points

The shape in which character classes and case mappings are written down: a class is a list of ranges, a mapping a list of ranges with a step and a shift. Only membership and the first matching range matter, so the order of a list is free as long as its ranges are disjoint.
-/

namespace ColonySearch.Text

/-- The code points from `first` to `last`, both included. -/
structure CodeRange where
  first : Nat
  last : Nat
deriving DecidableEq, Repr

/-- Whether some range of the class holds the character. -/
def CodeRange.member (ranges : List CodeRange) (c : Char) : Bool :=
  ranges.any fun r => r.first ≤ c.toNat && c.toNat ≤ r.last

/-- The code points `first`, `first + step`, … up to `last`, each sent to itself plus `shift`. A step of two is how alternating upper-case and lower-case letters are written. -/
structure CaseRange where
  first : Nat
  last : Nat
  step : Nat
  shift : Int
deriving DecidableEq, Repr

def CaseRange.covers (r : CaseRange) (n : Nat) : Bool :=
  r.first ≤ n && n ≤ r.last && (n - r.first) % r.step == 0

/-- The image of a character under a mapping; a character outside every range is its own image. -/
def CaseRange.image (ranges : List CaseRange) (c : Char) : Char :=
  match ranges.find? (·.covers c.toNat) with
  | some r => Char.ofNat (c.toNat + r.shift).toNat
  | none => c

end ColonySearch.Text
