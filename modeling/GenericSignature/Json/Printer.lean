import GenericSignature.Json.Basic
import GenericSignature.Text.Hex

/-!
# Writing JSON

The written form has one item or member on each line, two spaces of indentation for each level, and
a space after each colon; an empty list or object is written on one line.  In texts, quotes,
backslashes and control characters are escaped, and all other characters stand for themselves.
-/

namespace GenericSignature.Json

/-- How a character is written inside a text. -/
def escape (c : Char) : List Char :=
  match c with
  | '"' => ['\\', '"']
  | '\\' => ['\\', '\\']
  | '\n' => ['\\', 'n']
  | '\r' => ['\\', 'r']
  | '\t' => ['\\', 't']
  | '\x0c' => ['\\', 'f']
  | '\x08' => ['\\', 'b']
  | c => if c.toNat < 0x20 then '\\' :: 'u' :: Text.hex 4 c.toNat else [c]

/-- A text in quotes. -/
def writeText (text : String) : List Char :=
  '"' :: text.toList.flatMap escape ++ ['"']

/-- A new line with the indentation of a level. -/
def newLine (level : Nat) : List Char := '\n' :: List.replicate (2 * level) ' '

mutual

/-- A value, on a line of the given level. -/
def write (level : Nat) : Json → List Char
  | null => "null".toList
  | bool true => "true".toList
  | bool false => "false".toList
  | int value => (toString value).toList
  | decimal written => written.toList
  | str value => writeText value
  | arr [] => ['[', ']']
  | arr (item :: items) =>
      '[' :: newLine (level + 1) ++ write (level + 1) item ++ writeItems (level + 1) items ++
        newLine level ++ [']']
  | obj [] => ['\x7b', '\x7d']
  | obj ((name, value) :: members) =>
      '\x7b' :: newLine (level + 1) ++ writeText name ++ [':', ' '] ++ write (level + 1) value ++
        writeMembers (level + 1) members ++ newLine level ++ ['\x7d']

/-- The items of a list after the first one. -/
def writeItems (level : Nat) : List Json → List Char
  | [] => []
  | item :: items => ',' :: newLine level ++ write level item ++ writeItems level items

/-- The members of an object after the first one. -/
def writeMembers (level : Nat) : List (String × Json) → List Char
  | [] => []
  | (name, value) :: members =>
      ',' :: newLine level ++ writeText name ++ [':', ' '] ++ write level value ++
        writeMembers level members

end

/-- The written form of a value. -/
def render (value : Json) : String := String.ofList (write 0 value)

end GenericSignature.Json
