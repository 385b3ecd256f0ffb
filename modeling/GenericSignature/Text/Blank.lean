import GenericSignature.Text.Printable

/-!
# Blanks

Two classes of blank characters are in use.  `isSpace` is the white space of the character
database; `isBlank` adds the four information separators U+001C to U+001F to it.  Lines of a batch
and values of a settings file are stripped of blanks, numbers in settings of white space.
-/

namespace GenericSignature.Text

/-- Ranges of the code points with the property White_Space. -/
def spaceRanges : List (Nat × Nat) :=
  [(0x9, 0xD), (0x20, 0x20), (0x85, 0x85), (0xA0, 0xA0), (0x1680, 0x1680), (0x2000, 0x200A),
   (0x2028, 0x2029), (0x202F, 0x202F), (0x205F, 0x205F), (0x3000, 0x3000)]

/-- White space. -/
def isSpace (c : Char) : Bool := inRanges spaceRanges c.toNat

/-- White space and the information separators. -/
def isBlank (c : Char) : Bool := isSpace c || inRanges [(0x1C, 0x1F)] c.toNat

/-- A text without the characters of a class at its end. -/
def stripEnd (blank : Char → Bool) (text : List Char) : List Char :=
  (text.reverse.dropWhile blank).reverse

/-- A text without the characters of a class at both ends. -/
def strip (blank : Char → Bool) (text : List Char) : List Char :=
  stripEnd blank (text.dropWhile blank)

end GenericSignature.Text
