namespace SelectTree.Text

/-! Numerals of whole numbers below a bound. -/

inductive NumeralFault
  | notADigit
  | tooLarge
  deriving DecidableEq, Repr

def NumeralFault.message : NumeralFault → String
  | .notADigit => "invalid digit found in string"
  | .tooLarge => "number too large to fit in target type"

/-- The number that `digits` make after digits of the given value, if it is at most `most`. The
first fault from the left is the one that is named. -/
def readBounded (most : Nat) : (value : Nat) → List Char → Except NumeralFault Nat
  | value, [] => .ok value
  | value, c :: digits =>
      if c.isDigit then
        let next := 10 * value + (c.toNat - '0'.toNat)
        if next ≤ most then readBounded most next digits else .error .tooLarge
      else .error .notADigit

@[simp] theorem readBounded_nil (most value : Nat) :
    readBounded most value [] = .ok value := rfl

end SelectTree.Text
