/-!
# Lines

A line ends at a line feed, at a carriage return, or at a carriage return and a line feed together,
and at nothing else.  A text that does not end with a line end has one more line, unless that line
would be empty.
-/

namespace GenericSignature.Text

/-- Cuts a text at its line ends.  The line being read and the lines already read are kept in
reverse. -/
def cutLines : List Char → List Char → List (List Char) → List (List Char)
  | [], [], done => done.reverse
  | [], line, done => (line.reverse :: done).reverse
  | '\r' :: '\n' :: text, line, done => cutLines text [] (line.reverse :: done)
  | c :: text, line, done =>
      if c = '\n' ∨ c = '\r' then cutLines text [] (line.reverse :: done)
      else cutLines text (c :: line) done

/-- The lines of a text, without their ends. -/
def lines (text : List Char) : List (List Char) := cutLines text [] []

example : lines "a\r\n\rb\nc".toList = ["a".toList, [], "b".toList, "c".toList] := by decide
example : lines "a\n".toList = ["a".toList] := by decide

end GenericSignature.Text
