import GenericSignature.CommandLine.Arguments
import GenericSignature.CommandLine.Markup
import GenericSignature.CommandLine.Table
import GenericSignature.Grammar.Fault

/-!
# Consoles

The program prints through consoles, which are not part of it.  A console reads markup, replaces
emoji codes, expands tabs, drops some control characters, and breaks what is wider than itself into
lines, by the cells that a text takes.  Which names emoji have, how many cells a character takes and
how wide the terminal is differs from one console to the next.

So a console is a parameter (`Console`), and what can be relied on is what is documented of all of
them (`Console.Documented`): nothing is said of texts with emoji codes, with control characters, or
with lines that are too long.  A console that can be run is `Console.wide`: it knows no emoji and
never breaks a line.
-/

namespace GenericSignature.CommandLine

/-- One thing that is printed. -/
inductive Print where
  /-- A line as it is. -/
  | line (text : String)
  /-- A text with markup. -/
  | markup (text : String)
  /-- A text in which brackets mean nothing. -/
  | plain (text : String)
  /-- A table with markup in its cells. -/
  | table (table : Table)
  /-- The help for a command, or for the program. -/
  | help (command : Option CommandName)
deriving Inhabited

/-- A console.  Colours are not text and are left out. -/
structure Console where
  /-- The number of cells in a line. -/
  width : Nat
  /-- The number of cells that a text takes. -/
  cells : String → Nat
  /-- What a text with markup says; nothing if it is malformed. -/
  read? : String → Option String
  /-- A text with its emoji codes replaced. -/
  replaceCodes : String → String
  /-- The lines that a text is broken into. -/
  layOut : String → String
  /-- The lines of a table; nothing if one of its cells is malformed. -/
  layOutTable? : Table → Option String
  /-- The lines of the help for a command, or for the program. -/
  help : Option CommandName → String

namespace Console

variable (console : Console)

/-- What is printed of one thing; nothing if it is malformed. -/
def print? : Print → Option String
  | .line text => some (text ++ "\n")
  | .markup text => (console.read? text).map console.layOut
  | .plain text => some (console.layOut (console.replaceCodes text))
  | .table table => console.layOutTable? table
  | .help command => some (console.help command)

/-- What is printed of several things, up to the first that is malformed, and whether there is none
such. -/
def printAll : List Print → String × Bool
  | [] => ("", true)
  | item :: items =>
      match console.print? item with
      | none => ("", false)
      | some text =>
          let (more, complete) := printAll items
          (text ++ more, complete)

/-! ## What is documented -/

/-- A control character. -/
def IsControl (c : Char) : Prop := c.toNat < 0x20 ∨ 0x7F ≤ c.toNat ∧ c.toNat < 0xA0

/-- A character of the ASCII range that is printed. -/
def IsPrintableAscii (c : Char) : Prop := 0x20 ≤ c.toNat ∧ c.toNat < 0x7F

/-- A text without control characters that is not wider than the console. -/
def Fits (text : String) : Prop :=
  (∀ c ∈ text.toList, ¬ IsControl c) ∧ console.cells text ≤ console.width

/-- The name of a style: a word of small letters. -/
def IsStyle (style : String) : Prop := style ≠ "" ∧ style.toList.all Char.isLower = true

instance (style : String) : Decidable (IsStyle style) := inferInstanceAs (Decidable (_ ∧ _))

/-- What is documented of consoles, and can be relied on. -/
structure Documented : Prop where
  /-- The printable characters of the ASCII range take one cell each. -/
  cells_eq : ∀ text, (∀ c ∈ text.toList, IsPrintableAscii c) → console.cells text = text.length
  /-- Brackets that begin no tag stand for themselves, without a backslash in front of them. -/
  read_untagged : ∀ text, hasTag text.toList = false →
    console.read? text = some (console.replaceCodes (bracketsShown text))
  /-- A style lasts from its tag to the tag that ends it, and does not change the text. -/
  read_styled : ∀ style title text, IsStyle style → '[' ∉ title.toList → '\\' ∉ title.toList →
    hasTag text.toList = false → console.read? (styled style title ++ text) =
      some (console.replaceCodes title ++ console.replaceCodes (bracketsShown text))
  /-- Emoji codes have two colons in one word. -/
  replaceCodes_eq : ∀ text, pairsColons false text.toList = false →
    console.replaceCodes text = text
  /-- A text that fits is printed as it is, in one line. -/
  layOut_eq : ∀ text, console.Fits text → console.layOut text = text ++ "\n"
  /-- Only malformed cells keep a table from being printed. -/
  layOutTable_isSome : ∀ table : Table,
    (∀ cells ∈ table.header :: table.rows, ∀ cell ∈ cells, (console.read? cell).isSome = true) →
      (console.layOutTable? table).isSome = true

end Console

/-! ## A wide console -/

/-- A console that never breaks a line and that knows no emoji. -/
def Console.wide : Console where
  width := 10000
  cells := Text.width
  read? := readMarkup?
  replaceCodes text := text
  layOut text := text ++ "\n"
  layOutTable? table := (table.mapCells? readMarkup?).map Table.render
  help
    | none => "[-v] (parse | classes | batch) ...\n"
    | some .parse => "[-v] parse SIGNATURE [-c CLASS] [--json]\n"
    | some .classes => "[-v] classes SIGNATURE\n"
    | some .batch => "[-v] batch FILE [--fail-fast | --keep-going] [--json]\n"

/-! ## Terminals -/

/-- What the program is run at: a console for its output, one for its errors, and the account of the
calls that led to an error, which the runtime gives. -/
structure Terminal where
  out : Console
  err : Console
  trace : GrammarError → String

/-- Both consoles are as documented.  Of the account of an error nothing is known. -/
structure Terminal.Documented (terminal : Terminal) : Prop where
  out : terminal.out.Documented
  err : terminal.err.Documented

/-- A terminal with wide consoles, at which an error is described once more by itself. -/
def Terminal.wide : Terminal := ⟨.wide, .wide, GrammarError.describe⟩

end GenericSignature.CommandLine
