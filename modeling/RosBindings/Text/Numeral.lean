import RosBindings.Text.Digit
import RosBindings.Text.Quoted

/-!
# Numerals

Reading a natural number from decimal digits of any script, in any mixture.

* A numeral has at most `maxDigits` digits, leading zeros counted.
* A digit outside a decimal system makes the text no numeral at all; the longer fault
  is reported first, so it is only noticed within the limit.
-/

namespace RosBindings

/-- Why a text is not read as a number. -/
inductive NumeralError
  /-- More than `Numeral.maxDigits` digits. -/
  | tooLong (digits : Nat)
  /-- Something else than decimal digits. -/
  | notDecimal (text : Text)
  deriving DecidableEq, Repr

namespace Numeral

/-- The greatest number of digits that is read. -/
def maxDigits : Nat := 4300

/-- How many characters of a quoted text a message shows. -/
def shownLength : Nat := 200

/-- The value of a run of decimal digits. -/
def value (t : Text) : Nat :=
  t.foldl (fun n c => 10 * n + (Text.decimalValue? c).getD 0) 0

/-- Reads a number. -/
def read (t : Text) : Except NumeralError Nat :=
  let digits := t.takeWhile Text.isDecimal
  if maxDigits < digits.length then .error (.tooLong digits.length)
  else if digits.length < t.length then .error (.notDecimal t)
  else .ok (value t)

end Numeral

/-- What is said about a text that is not read as a number. -/
def NumeralError.message : NumeralError → Text
  | .tooLong digits =>
    "Exceeds the limit (" ++ Text.ofNat Numeral.maxDigits
      ++ " digits) for integer string conversion: value has " ++ Text.ofNat digits
      ++ " digits; use sys.set_int_max_str_digits() to increase the limit"
  | .notDecimal text =>
    "invalid literal for int() with base 10: " ++ (Text.quoted text).take Numeral.shownLength

end RosBindings
