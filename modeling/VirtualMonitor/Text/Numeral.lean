/-!
# Numerals

A numeral is at most one plus sign followed by decimal digits; leading zeros are
welcome.  It is read from left to right, and the first character that is no digit
or takes the value over the bound decides how a bad numeral fails.
-/

namespace VirtualMonitor.Text

inductive NumeralError where
  | empty
  | invalidDigit
  | tooLarge
  deriving DecidableEq

def NumeralError.message : NumeralError → String
  | .empty => "cannot parse integer from empty string"
  | .invalidDigit => "invalid digit found in string"
  | .tooLarge => "number too large to fit in target type"

/-- Reads on after digits of the given value; no value may exceed `bound`. -/
def readDigits (bound : Nat) : Nat → List Char → Except NumeralError Nat
  | value, [] => .ok value
  | value, character :: rest =>
    if character.isDigit then
      let longer := 10 * value + (character.toNat - '0'.toNat)
      if longer ≤ bound then readDigits bound longer rest else .error .tooLarge
    else .error .invalidDigit

/-- The value of a numeral that is at most `bound`. -/
def readNumeral (bound : Nat) : List Char → Except NumeralError Nat
  | [] => .error .empty
  | ['+'] => .error .invalidDigit
  | '+' :: digits => readDigits bound 0 digits
  | digits => readDigits bound 0 digits

end VirtualMonitor.Text
