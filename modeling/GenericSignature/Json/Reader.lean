import GenericSignature.Json.Basic
import GenericSignature.Text.Digits
import GenericSignature.Text.Hex

/-!
# Reading JSON

Reading follows the format from left to right and stops at the first thing that does not fit.  The
error says what was expected and where, by line and column; lines end at line feeds only.

Blanks are the space, the tab, the line feed and the carriage return.  Numbers have no superfluous
zeros in front, and whole numbers no more than `Text.maxDigits` digits.  Inside texts, control
characters are not allowed; an escape by number has four digits, and two of them that name a
surrogate pair stand for one character.  A surrogate without its partner stands for the replacement
character.
-/

namespace GenericSignature.Json

/-- What does not fit. -/
inductive Misfit where
  | expectingValue
  | expectingName
  | expectingColon
  | expectingComma
  | unterminated
  | controlCharacter
  | invalidEscape
  | invalidUnicodeEscape
  | extraData
  | byteOrderMark
deriving DecidableEq, Repr, Inhabited

/-- The wording of a misfit. -/
def Misfit.message : Misfit → String
  | expectingValue => "Expecting value"
  | expectingName => "Expecting property name enclosed in double quotes"
  | expectingColon => "Expecting ':' delimiter"
  | expectingComma => "Expecting ',' delimiter"
  | unterminated => "Unterminated string starting at"
  | controlCharacter => "Invalid control character at"
  | invalidEscape => "Invalid \\escape"
  | invalidUnicodeEscape => "Invalid \\uXXXX escape"
  | extraData => "Extra data"
  | byteOrderMark => "Unexpected UTF-8 BOM (decode using utf-8-sig)"

/-- Why reading stopped. -/
inductive Stuck where
  /-- Something does not fit; `rest` is the text from there on. -/
  | unfit (misfit : Misfit) (rest : List Char)
  /-- A whole number has more digits than are read. -/
  | oversized

/-- A value and the text after it, or where reading got stuck. -/
abbrev Outcome (α : Type) := Except Stuck (α × List Char)

/-- The blanks of the format. -/
def isSpacing (c : Char) : Bool := c == ' ' || c == '\t' || c == '\n' || c == '\r'

/-- The text after the blanks at its front. -/
def skip (text : List Char) : List Char := text.dropWhile isSpacing

/-! ## Texts -/

/-- The value of four hexadecimal digits. -/
def hexUnit? (a b c d : Char) : Option Nat := do
  let a ← Text.hexValue? a
  let b ← Text.hexValue? b
  let c ← Text.hexValue? c
  let d ← Text.hexValue? d
  return ((a * 16 + b) * 16 + c) * 16 + d

/-- The first halves of surrogate pairs. -/
def isHighSurrogate (unit : Nat) : Bool := Nat.ble 0xD800 unit && Nat.ble unit 0xDBFF

/-- The second halves of surrogate pairs. -/
def isLowSurrogate (unit : Nat) : Bool := Nat.ble 0xDC00 unit && Nat.ble unit 0xDFFF

/-- The character of a code unit that stands alone. -/
def ofUnit (unit : Nat) : Char :=
  if isHighSurrogate unit || isLowSurrogate unit then '\ufffd' else Char.ofNat unit

/-- The character of a surrogate pair. -/
def ofPair (high low : Nat) : Char :=
  Char.ofNat (0x10000 + (high - 0xD800) * 0x400 + (low - 0xDC00))

/-- What a backslash and a letter stand for. -/
def unescape? (c : Char) : Option Char :=
  match c with
  | '"' => some '"'
  | '\\' => some '\\'
  | '/' => some '/'
  | 'b' => some '\x08'
  | 'f' => some '\x0c'
  | 'n' => some '\n'
  | 'r' => some '\r'
  | 't' => some '\t'
  | _ => none

/-- An escape by number, from its letter on: the character, and the text after it.  Something has
to follow the digits. -/
def unicodeEscape (letter : Char) (text : List Char) : Outcome Char :=
  match text with
  | a :: b :: c :: d :: after =>
      if after.isEmpty then .error (.unfit .invalidUnicodeEscape (letter :: text))
      else
        match hexUnit? a b c d with
        | none => .error (.unfit .invalidUnicodeEscape (letter :: text))
        | some unit =>
            if isHighSurrogate unit then
              match after with
              | '\\' :: 'u' :: e :: f :: g :: h :: rest =>
                  if rest.isEmpty then .ok (ofUnit unit, after)
                  else
                    match hexUnit? e f g h with
                    | none => .error (.unfit .invalidUnicodeEscape (after.drop 1))
                    | some low =>
                        if isLowSurrogate low then .ok (ofPair unit low, rest)
                        else .ok (ofUnit unit, after)
              | _ => .ok (ofUnit unit, after)
            else .ok (ofUnit unit, after)
  | _ => .error (.unfit .invalidUnicodeEscape (letter :: text))

/-- Reads the rest of a text, as long as there is fuel.  `opening` is the text from its opening
quote on; the characters read so far are kept in reverse. -/
def textFrom (opening : List Char) : Nat → List Char → List Char → Outcome String
  | 0, _, _ => .error (.unfit .unterminated opening)
  | fuel + 1, text, done =>
      match text with
      | [] => .error (.unfit .unterminated opening)
      | c :: rest =>
          if c = '"' then .ok (String.ofList done.reverse, rest)
          else if c = '\\' then
            match rest with
            | [] => .error (.unfit .unterminated opening)
            | e :: after =>
                if e = 'u' then
                  match unicodeEscape e after with
                  | .error stuck => .error stuck
                  | .ok (value, left) => textFrom opening fuel left (value :: done)
                else
                  match unescape? e with
                  | none => .error (.unfit .invalidEscape text)
                  | some value => textFrom opening fuel after (value :: done)
          else if c.toNat < 0x20 then .error (.unfit .controlCharacter text)
          else textFrom opening fuel rest (c :: done)

/-- Reads a text after its opening quote, as long as there is fuel. -/
def readText (fuel : Nat) (after : List Char) : Outcome String :=
  textFrom ('"' :: after) fuel after []

/-! ## Numbers -/

/-- The whole part of a number: a zero, or digits that do not start with one. -/
def wholePart? (text : List Char) : Option (List Char × List Char) :=
  match text with
  | '0' :: rest => some (['0'], rest)
  | _ =>
      let (digits, rest) := Text.digitRun text
      if digits.isEmpty then none else some (digits, rest)

/-- The fraction of a number: a point and digits, or nothing. -/
def fraction (text : List Char) : List Char × List Char :=
  match text with
  | '.' :: rest =>
      let (digits, after) := Text.digitRun rest
      if digits.isEmpty then ([], text) else ('.' :: digits, after)
  | _ => ([], text)

/-- The exponent of a number: the letter, a sign perhaps, and digits, or nothing. -/
def exponent (text : List Char) : List Char × List Char :=
  match text with
  | [] => ([], [])
  | e :: rest =>
      if e = 'e' ∨ e = 'E' then
        let (sign, rest) := match rest with
          | '+' :: rest => (['+'], rest)
          | '-' :: rest => (['-'], rest)
          | _ => ([], rest)
        let (digits, after) := Text.digitRun rest
        if digits.isEmpty then ([], text) else (e :: sign ++ digits, after)
      else ([], text)

/-- Reads a number, as much as fits. -/
def number (text : List Char) : Outcome Json :=
  let (sign, unsigned) := match text with
    | '-' :: rest => (['-'], rest)
    | _ => ([], text)
  match wholePart? unsigned with
  | none => .error (.unfit .expectingValue text)
  | some (whole, rest) =>
      let (point, rest) := fraction rest
      let (power, rest) := exponent rest
      if !point.isEmpty || !power.isEmpty then
        .ok (decimal (String.ofList (sign ++ whole ++ point ++ power)), rest)
      else if Text.isOversized whole then .error .oversized
      else
        let value : Int := Text.natOfDigits whole
        .ok (int (if sign.isEmpty then value else -value), rest)

/-! ## Values -/

/-- The values that are single words. -/
def words : List (List Char × Json) :=
  [("null".toList, null), ("true".toList, bool true), ("false".toList, bool false),
   ("NaN".toList, decimal "NaN"), ("Infinity".toList, decimal "Infinity"),
   ("-Infinity".toList, decimal "-Infinity")]

/-- Reads a word. -/
def word? (text : List Char) : Option (Json × List Char) :=
  (words.find? fun entry => entry.1.isPrefixOf text).map fun entry =>
    (entry.2, text.drop entry.1.length)

/-- Reads a value that is neither a text nor a list nor an object. -/
def scalar (text : List Char) : Outcome Json :=
  match word? text with
  | some outcome => .ok outcome
  | none => number text

/-- Reads the name of a member, up to and with its colon. -/
def memberName (fuel : Nat) (text : List Char) : Outcome String :=
  match text with
  | '"' :: after =>
      match readText fuel after with
      | .error stuck => .error stuck
      | .ok (name, rest) =>
          match skip rest with
          | ':' :: rest => .ok (name, skip rest)
          | rest => .error (.unfit .expectingColon rest)
  | _ => .error (.unfit .expectingName text)

mutual

/-- Reads a value, as long as there is fuel. -/
def readValue : Nat → List Char → Outcome Json
  | 0, text => .error (.unfit .expectingValue text)
  | fuel + 1, text =>
      match text with
      | '"' :: after =>
          match readText fuel after with
          | .error stuck => .error stuck
          | .ok (value, rest) => .ok (str value, rest)
      | '[' :: after =>
          match skip after with
          | ']' :: rest => .ok (arr [], rest)
          | rest => readItems fuel rest []
      | '\x7b' :: after =>
          match skip after with
          | '\x7d' :: rest => .ok (obj [], rest)
          | rest => readMembers fuel rest []
      | _ => scalar text

/-- Reads the items of a list from the next one on; the items before it are kept in reverse. -/
def readItems : Nat → List Char → List Json → Outcome Json
  | 0, text, _ => .error (.unfit .expectingValue text)
  | fuel + 1, text, done =>
      match readValue fuel text with
      | .error stuck => .error stuck
      | .ok (item, rest) =>
          match skip rest with
          | ']' :: rest => .ok (arr (item :: done).reverse, rest)
          | ',' :: rest => readItems fuel (skip rest) (item :: done)
          | rest => .error (.unfit .expectingComma rest)

/-- Reads the members of an object from the next one on; the members before it are kept in
reverse. -/
def readMembers : Nat → List Char → List (String × Json) → Outcome Json
  | 0, text, _ => .error (.unfit .expectingValue text)
  | fuel + 1, text, done =>
      match memberName fuel text with
      | .error stuck => .error stuck
      | .ok (name, rest) =>
          match readValue fuel rest with
          | .error stuck => .error stuck
          | .ok (value, rest) =>
              match skip rest with
              | '\x7d' :: rest => .ok (obj ((name, value) :: done).reverse, rest)
              | ',' :: rest => readMembers fuel (skip rest) ((name, value) :: done)
              | rest => .error (.unfit .expectingComma rest)

end

/-! ## Documents -/

/-- A misfit and its place in a document. -/
structure SyntaxError where
  misfit : Misfit
  line : Nat
  column : Nat
deriving DecidableEq, Repr, Inhabited

/-- The wording of a syntax error. -/
def SyntaxError.message (error : SyntaxError) : String :=
  "Line " ++ toString error.line ++ ", column " ++ toString error.column ++ ": " ++
    error.misfit.message

/-- The line and the column after some characters, from the given ones on. -/
def place (line column : Nat) : List Char → Nat × Nat
  | [] => (line, column)
  | c :: text => if c = '\n' then place (line + 1) 1 text else place line (column + 1) text

/-- Why a document cannot be read. -/
inductive ReadError where
  /-- The text is not JSON. -/
  | malformed (error : SyntaxError)
  /-- A whole number in it has more digits than are read. -/
  | oversized
deriving DecidableEq, Repr, Inhabited

/-- Places a misfit in its document. -/
def Stuck.locate (document : List Char) : Stuck → ReadError
  | oversized => .oversized
  | unfit misfit rest =>
      let (line, column) := place 1 1 (document.take (document.length - rest.length))
      .malformed ⟨misfit, line, column⟩

/-- Reads a document: one value, with blanks around it.  A byte order mark in front is refused.
No character is read with more than two units of fuel, so twice the length is enough. -/
def readDocument (document : List Char) : Except Stuck Json :=
  if document.head? = some '\ufeff' then .error (.unfit .byteOrderMark document)
  else
    match readValue (2 * document.length + 2) (skip document) with
    | .error stuck => .error stuck
    | .ok (value, rest) =>
        match skip rest with
        | [] => .ok value
        | rest => .error (.unfit .extraData rest)

/-- Reads a document. -/
def parse (text : String) : Except ReadError Json :=
  match readDocument text.toList with
  | .ok value => .ok value
  | .error stuck => .error (stuck.locate text.toList)

end GenericSignature.Json
