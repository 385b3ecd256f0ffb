import GenericSignature.Text.Blank
import GenericSignature.Text.Lines

/-!
# Settings files

A settings file holds lines `NAME=VALUE`.  A line may start with blanks and with the word `export`,
and blanks may stand around the equals sign.  A value is quoted or plain:

* between single quotes, a backslash escapes a single quote and a backslash;
* between double quotes, a backslash escapes a quote, a backslash and the letters of control
  characters;
* a plain value goes to the end of the line or to a hash sign after blanks, and loses the blanks at
  its end.

A quoted value may go on over several lines.  A name without an equals sign has no value.  A line
that starts with a hash sign is a comment; a line that fits no rule is skipped.  A byte order mark
at the start of the file does not belong to the first line; anywhere else it is a character like any
other.
-/

namespace GenericSignature.Dotenv

open Text

/-- Blanks within a line. -/
def isInline (c : Char) : Bool := isBlank c && !(c == '\n' || c == '\r')

/-- Characters that do not end a line. -/
def isLineChar (c : Char) : Bool := !(c == '\n' || c == '\r')

/-- The text after the current line. -/
def afterLine (text : List Char) : List Char := (text.dropWhile isLineChar).drop 1

/-- The text after the word `export` and the blanks that follow it, if it starts with them. -/
def dropExport (text : List Char) : List Char :=
  let word := "export".toList
  let rest := text.drop word.length
  if word.isPrefixOf text && rest.head?.any isInline then rest.dropWhile isInline else text

/-- The text up to the closing quote and the text after it.  A quote after a backslash does not
close, unless no other quote does; two backslashes belong together, so that a quote after them
closes. -/
def untilQuote (mark : Char) : List Char → Option (List Char × List Char)
  | [] => none
  | '\\' :: '\\' :: text =>
      (untilQuote mark text).map fun (inside, rest) => ('\\' :: '\\' :: inside, rest)
  | '\\' :: c :: text =>
      if c = mark then
        match untilQuote mark text with
        | some (inside, rest) => some ('\\' :: c :: inside, rest)
        | none => some (['\\'], text)
      else (untilQuote mark (c :: text)).map fun (inside, rest) => ('\\' :: inside, rest)
  | c :: text =>
      if c = mark then some ([], text)
      else (untilQuote mark text).map fun (inside, rest) => (c :: inside, rest)

/-- What a backslash and a character mean between single quotes. -/
def singleEscape (c : Char) : Option Char :=
  if c = '\\' ∨ c = '\'' then some c else none

/-- What a backslash and a character mean between double quotes. -/
def doubleEscape (c : Char) : Option Char :=
  match c with
  | '\\' => some '\\'
  | '\'' => some '\''
  | '"' => some '"'
  | 'a' => some '\x07'
  | 'b' => some '\x08'
  | 'f' => some '\x0c'
  | 'n' => some '\n'
  | 'r' => some '\r'
  | 't' => some '\t'
  | 'v' => some '\x0b'
  | _ => none

/-- A quoted text with its escapes replaced; a backslash that escapes nothing stands for
itself. -/
def unescape (escape : Char → Option Char) : List Char → List Char
  | [] => []
  | [c] => [c]
  | c :: d :: text =>
      if c = '\\' then
        match escape d with
        | some e => e :: unescape escape text
        | none => c :: unescape escape (d :: text)
      else c :: unescape escape (d :: text)

/-- A plain value up to a hash sign that follows a blank. -/
def beforeComment : List Char → List Char
  | [] => []
  | c :: text => if isBlank c && text.head? == some '#' then [] else c :: beforeComment text

/-- Reads a name, or a hash sign in the place of one (no name, nothing read). -/
def name? (text : List Char) : Option (Option String × List Char) :=
  match text with
  | '#' :: _ => some (none, text)
  | '\'' :: rest =>
      let name := rest.takeWhile fun c => c != '\''
      match rest.dropWhile fun c => c != '\'' with
      | _ :: rest => if name.isEmpty then none else some (some (String.ofList name), rest)
      | [] => none
  | _ =>
      let isName := fun c => !(c == '=' || c == '#' || isBlank c)
      let name := text.takeWhile isName
      if name.isEmpty then none else some (some (String.ofList name), text.dropWhile isName)

/-- Reads a value. -/
def value? (text : List Char) : Option (String × List Char) :=
  match text with
  | '\'' :: rest =>
      (untilQuote '\'' rest).map fun (inside, rest) =>
        (String.ofList (unescape singleEscape inside), rest)
  | '"' :: rest =>
      (untilQuote '"' rest).map fun (inside, rest) =>
        (String.ofList (unescape doubleEscape inside), rest)
  | _ =>
      let line := text.takeWhile isLineChar
      some (String.ofList (stripEnd isBlank (beforeComment line)), text.dropWhile isLineChar)

/-- The text after a comment and the end of the line; nothing if something else stands there. -/
def lineEnd? (text : List Char) : Option (List Char) :=
  let rest := text.dropWhile isInline
  let rest := if rest.head? == some '#' then rest.dropWhile isLineChar else rest
  match rest with
  | [] => some []
  | c :: text => if isLineChar c then none else some text

/-- A name and the value assigned to it, if the line has one. -/
abbrev Assignment := String × Option String

/-- What a line turns out to be. -/
inductive Entry where
  | comment
  | assignment (name : String) (value : Option String)
  /-- The line fits no rule. -/
  | unreadable
deriving DecidableEq, Repr, Inhabited

/-- Reads one line that is not blank, and the text after it. -/
def entry (text : List Char) : Entry × List Char :=
  let text := dropExport text
  match name? text with
  | none => (.unreadable, afterLine text)
  | some (name, text) =>
      let text := text.dropWhile isInline
      match text with
      | '=' :: text =>
          let text := text.dropWhile isInline
          match value? text with
          | none => (.unreadable, afterLine text)
          | some (value, text) => finish name (some value) text
      | _ => finish name none text
where
  /-- Accepts what was read if the line ends here. -/
  finish (name : Option String) (value : Option String) (text : List Char) :
      Entry × List Char :=
    match lineEnd? text, name with
    | none, _ => (.unreadable, afterLine text)
    | some rest, none => (.comment, rest)
    | some rest, some name => (.assignment name value, rest)

/-- Reads at most as many entries as there is fuel.  `number` is the number of the line at the front
of the text; an entry has the number of the first of the blank lines before it, if there are any. -/
def entriesFrom : Nat → Nat → List Char → List (Nat × Entry) → List (Nat × Entry)
  | 0, _, _, done => done.reverse
  | fuel + 1, number, text, done =>
      let start := text.dropWhile isBlank
      if start.isEmpty then done.reverse
      else
        let (read, rest) := entry start
        let ended := (text.take (text.length - rest.length)).count '\n'
        entriesFrom fuel (number + ended) rest ((number, read) :: done)

/-- A text without the byte order mark at its start.  Only one is dropped. -/
def dropByteOrderMark : List Char → List Char
  | '\ufeff' :: text => text
  | text => text

/-- The entries of a settings file with the numbers of their lines, in order.  Every entry that is
read takes at least one character. -/
def entries (text : String) : List (Nat × Entry) :=
  let text := (lines (dropByteOrderMark text.toList)).flatMap fun line => line ++ ['\n']
  entriesFrom (text.length + 1) 1 text []

/-- The assignments of a settings file, in order. -/
def assignments (text : String) : List Assignment :=
  (entries text).filterMap fun (_, entry) =>
    match entry with
    | .assignment name value => some (name, value)
    | _ => none

/-- The numbers of the lines of a settings file that fit no rule. -/
def unreadableLines (text : String) : List Nat :=
  (entries text).filterMap fun (number, entry) =>
    match entry with
    | .unreadable => some number
    | _ => none

end GenericSignature.Dotenv
