import GenericSignature.Text.Blank
import GenericSignature.Text.Digits
import GenericSignature.Validation

/-!
# Whole numbers in settings

A whole number is written plainly as a minus sign perhaps, and then a zero or digits that do not
start with one.  If it is not, what does not count is taken off it:

* white space around it;
* a plus sign in front, unless a minus sign follows it;
* zeros in front or right after a minus sign in front, with the underscores among them;
* a point at the end with nothing but zeros after it, at least one;
* underscores, each between two other characters.

What is left has to be written plainly.  The zeros in front are gone before the rest is looked at,
so underscores among them may stand in a row, and a minus sign may come after them.

A number that is written plainly with more than `Text.maxDigits` digits is refused for its size,
whatever follows them.  If something has to be taken off first, it is no number.
-/

namespace GenericSignature.Settings

/-- The text from the first character on that is no zero in front.  `last` is the zero or the
underscore before the text; it stays if nothing or a point follows it. -/
def afterZeros? (last : Char) : List Char → Option (List Char)
  | [] => some [last]
  | c :: text =>
      if c = '0' ∨ c = '_' then afterZeros? c text
      else if c.isDigit ∨ c = '-' then some (c :: text)
      else if c = '.' then some (last :: c :: text)
      else none

/-- Digits without the zeros in front of them.  A text that does not start with a digit is no
number. -/
def dropLeadingZeros? : List Char → Option (List Char)
  | [] => none
  | c :: text =>
      if c = '0' then afterZeros? c text
      else if c.isDigit then some (c :: text)
      else none

/-- A number without the zeros in front of its digits; a minus sign before them stays. -/
def dropZeros? : List Char → Option (List Char)
  | '-' :: text => (dropLeadingZeros? text).map fun digits => '-' :: digits
  | text => dropLeadingZeros? text

/-- A number without a plus sign in front.  After the plus sign no minus sign is allowed. -/
def dropPlus? : List Char → Option (List Char)
  | '+' :: '-' :: _ => none
  | '+' :: text => some text
  | text => some text

/-- A number without a fraction of zeros. -/
def dropFraction (text : List Char) : List Char :=
  let isWhole := fun c => c != '.'
  match text.dropWhile isWhole with
  | [] => text
  | _ :: fraction =>
      if !fraction.isEmpty && fraction.all (fun c => c == '0') then text.takeWhile isWhole else text

/-- A number without underscores.  None may stand at an end or next to another one. -/
def dropUnderscores? (text : List Char) : Option (List Char) :=
  let doubled := (text.zip (text.drop 1)).any fun pair => pair.1 == '_' && pair.2 == '_'
  if text.head? == some '_' || text.getLast? == some '_' || doubled then none
  else some (text.filter fun c => c != '_')

/-- A number without all that does not count. -/
def bareNumber? (text : List Char) : Option (List Char) := do
  let text ← dropPlus? (Text.strip Text.isSpace text)
  let text ← dropZeros? text
  dropUnderscores? (dropFraction text)

/-- The number that the text consists of: a zero, or digits that do not start with one. -/
def magnitude (text : List Char) : Except Problem Nat :=
  match text with
  | ['0'] => .ok 0
  | '0' :: _ => .error .notInteger
  | _ =>
      let (digits, rest) := Text.digitRun text
      if Text.isOversized digits then .error .tooManyDigits
      else if digits.isEmpty || !rest.isEmpty then .error .notInteger
      else .ok (Text.natOfDigits digits)

/-- The number that is written plainly. -/
def plainNumber (text : List Char) : Except Problem Int :=
  match text with
  | '-' :: digits => (magnitude digits).map fun value => -(value : Int)
  | digits => (magnitude digits).map fun value => (value : Int)

/-- The whole number that a text stands for. -/
def integer (text : String) : Except Problem Int :=
  match plainNumber text.toList with
  | .ok value => .ok value
  | .error .tooManyDigits => .error .tooManyDigits
  | .error _ =>
      match (bareNumber? text.toList).map plainNumber with
      | some (.ok value) => .ok value
      | _ => .error .notInteger

end GenericSignature.Settings
