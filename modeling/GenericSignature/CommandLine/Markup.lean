/-!
# Markup

What the program prints may have markup.  A tag is a word in brackets: `[red]` starts a style, and
`[/red]` ends it.  A tag begins with a small letter or one of a few signs, so most brackets are
none.  A backslash in front of a bracket is not shown, and a tag after it is no tag; if there are
several, two of them in front of a tag stand for one.

A text in which a style ends that was not started is malformed.  Styles are colours, which are left
out here, so a text with markup says just the characters that are seen (`readMarkup?`).

Emoji codes are names between colons.  Which names there are is not known here.
-/

namespace GenericSignature.CommandLine

/-- A text in a style. -/
def styled (style text : String) : String := "[" ++ style ++ "]" ++ text ++ "[/" ++ style ++ "]"

/-- Whether a tag can begin with a character after its bracket. -/
def startsTag (c : Char) : Bool := c.isLower || c == '#' || c == '/' || c == '@'

/-- Whether something in a text looks like the beginning of a tag. -/
def hasTag : List Char → Bool
  | [] => false
  | c :: text => (c == '[' && text.head?.any startsTag) || hasTag text

/-- Whether two colons stand in one word of a text, as those of an emoji code do.  A colon may have
been seen in the first word before. -/
def pairsColons (seen : Bool) : List Char → Bool
  | [] => false
  | c :: text =>
      if c = ' ' then pairsColons false text
      else if c = ':' then seen || pairsColons true text
      else pairsColons seen text

/-- Drops the backslashes right before opening brackets, one for each bracket. -/
def unescapeBrackets : List Char → List Char
  | [] => []
  | c :: text =>
      if c = '\\' ∧ text.head? = some '[' then unescapeBrackets text
      else c :: unescapeBrackets text

/-- What a text without tags says. -/
def bracketsShown (text : String) : String := String.ofList (unescapeBrackets text.toList)

/-! ## Reading markup -/

/-- A part of a text with markup. -/
inductive Piece where
  | char (c : Char)
  | tag (name : List Char)
deriving DecidableEq, Repr, Inhabited

/-- The tag that goes on with the given text after its bracket, if one does. -/
def tagAt? (text : List Char) : Option (List Char) :=
  let name := text.takeWhile fun c => c != ']' && c != '['
  if text.head?.any startsTag && (text.drop name.length).head? == some ']' then some name
  else none

/-- Backslashes. -/
def slashes (count : Nat) : List Piece := List.replicate count (.char '\\')

/-- The parts of a text, of which the first characters may be skipped because they belong to a tag,
after a number of backslashes. -/
def piecesAfter : (skipped backslashes : Nat) → List Char → List Piece
  | _, backslashes, [] => slashes backslashes
  | skipped + 1, backslashes, _ :: text => piecesAfter skipped backslashes text
  | 0, backslashes, c :: text =>
      if c = '\\' then piecesAfter 0 (backslashes + 1) text
      else if c = '[' then
        match tagAt? text with
        | none => slashes (backslashes - 1) ++ .char c :: piecesAfter 0 0 text
        | some name =>
            slashes (backslashes / 2) ++
              if backslashes % 2 = 0 then .tag name :: piecesAfter (name.length + 1) 0 text
              else .char c :: piecesAfter 0 0 text
      else slashes backslashes ++ .char c :: piecesAfter 0 0 text

/-- The characters of a text with markup.  Styles that were started are kept, the latest first; a
tag with a slash alone ends that one. -/
def matchTags : List (List Char) → List Piece → Option (List Char)
  | _, [] => some []
  | styles, .char c :: pieces => (matchTags styles pieces).map (c :: ·)
  | styles, .tag ['/'] :: pieces =>
      match styles with
      | [] => none
      | _ :: styles => matchTags styles pieces
  | styles, .tag ('/' :: style) :: pieces =>
      if style ∈ styles then matchTags (styles.erase style) pieces else none
  | styles, .tag style :: pieces => matchTags (style :: styles) pieces

/-- What a text with markup says; nothing if it is malformed.  No emoji codes are replaced. -/
def readMarkup? (text : String) : Option String :=
  (matchTags [] (piecesAfter 0 0 text.toList)).map String.ofList

end GenericSignature.CommandLine
