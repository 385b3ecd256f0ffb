/-!
# Whole numbers in digits

Decimal digits at the front of a text, and the number that digits stand for.  A whole number is read
only if it has no more than `maxDigits` digits.
-/

namespace GenericSignature.Text

/-- The digits at the front of a text and the text after them. -/
def digitRun (text : List Char) : List Char × List Char :=
  (text.takeWhile Char.isDigit, text.dropWhile Char.isDigit)

/-- The number that digits stand for. -/
def natOfDigits (digits : List Char) : Nat :=
  digits.foldl (fun value c => value * 10 + (c.toNat - '0'.toNat)) 0

/-- The largest number of digits that is read. -/
def maxDigits : Nat := 4300

/-- Whether there are more digits than are read. -/
def isOversized (digits : List Char) : Bool := Nat.blt maxDigits digits.length

end GenericSignature.Text
