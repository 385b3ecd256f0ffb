import GenericSignature.Text.Hex
import GenericSignature.Text.Printable

/-!
# Quoted texts

How a text is shown inside a message: between quotes, with everything escaped that would not be
seen as it is.

The quotes are single, unless the text holds a single quote and no double quote.  A backslash and
the quote in use get a backslash in front; line feed, carriage return and tab are written by their
letters; every other character that is not printable is written by its code point, in two, four or
eight hexadecimal digits.
-/

namespace GenericSignature.Text

/-- The quote that a text is shown in. -/
def quoteMark (text : List Char) : Char :=
  if text.contains '\'' && !text.contains '"' then '"' else '\''

/-- The escape of a code point by its number, as short as it fits. -/
def numericEscape (n : Nat) : List Char :=
  if n ≤ 0xff then '\\' :: 'x' :: hex 2 n
  else if n ≤ 0xffff then '\\' :: 'u' :: hex 4 n
  else '\\' :: 'U' :: hex 8 n

/-- How one character is shown between the given quotes. -/
def escapeWithin (mark : Char) (c : Char) : List Char :=
  if c = mark ∨ c = '\\' then ['\\', c]
  else if c = '\n' then ['\\', 'n']
  else if c = '\r' then ['\\', 'r']
  else if c = '\t' then ['\\', 't']
  else if isPrintable c then [c]
  else numericEscape c.toNat

/-- A text in quotes, as a list of characters. -/
def quoteChars (text : List Char) : List Char :=
  let mark := quoteMark text
  mark :: text.flatMap (escapeWithin mark) ++ [mark]

/-- A text in quotes. -/
def quote (text : String) : String := String.ofList (quoteChars text.toList)

end GenericSignature.Text
