/-!
# Integers in decimal

An integer is written out if it has no more digits than are converted at a time, and the same number limits the integers that are read.
-/

namespace ColonySearch

/-- The number of digits up to which integers are written and read. -/
def maxDigits : Nat := 4300

/-- Why an integer is not written out. -/
inductive DecimalError where
  | tooManyDigits
deriving DecidableEq, Repr

def DecimalError.message : DecimalError → String
  | .tooManyDigits => s!"Exceeds the limit ({maxDigits} digits) for integer string conversion; " ++
      "use sys.set_int_max_str_digits() to increase the limit"

namespace Text

/-- How many digits an integer has in decimal. -/
def digitCount (n : Int) : Nat := (Nat.toDigits 10 n.natAbs).length

def decimal (n : Int) : Except DecimalError String :=
  if digitCount n ≤ maxDigits then .ok (toString n) else .error .tooManyDigits

theorem decimal_eq_ok_iff {n : Int} {text : String} :
    decimal n = .ok text ↔ digitCount n ≤ maxDigits ∧ text = toString n := by
  unfold decimal
  split
  · next h => simp [h, eq_comm]
  · next h => simp [h]

end Text

end ColonySearch
