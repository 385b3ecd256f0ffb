import GenericSignature.Grammar.Declarations
import GenericSignature.Scope.Resolution

/-!
# Cursors

A cursor is a place in a text, for reading a text by hand: character by character, identifier by
identifier, or production by production.  Beside the place it keeps a record of the type variables
that productions came across and of items that the caller put there.

An operation that fails answers a grammar error at the current position and leaves the cursor where
it is.  A production that fails leaves it where the fault was found, and what it recorded on the
way stays recorded.
-/

namespace GenericSignature

/-- A place in a text, with what was recorded on the way to it. -/
structure Cursor (ι : Type) where
  text : String
  position : Nat
  /-- The identity under which occurrences of type variables in the text are known. -/
  owner : SigId
  /-- The number of occurrences met so far. -/
  met : Nat
  recorded : List (Recorded ι)

namespace Cursor

variable {ι α : Type}

/-- A cursor at the start of a text. -/
def start (owner : SigId) (text : String) : Cursor ι := ⟨text, 0, owner, 0, []⟩

/-- A cursor at the start of a text that may not be longer than the limit. -/
def startWithin (limit : Nat) (owner : SigId) (text : String) : Except GrammarError (Cursor ι) :=
  if text.length ≤ limit then .ok (start owner text) else .error ⟨.tooLong limit, text, limit⟩

/-- The text from the cursor on. -/
def rest (cursor : Cursor ι) : List Char := cursor.text.toList.drop cursor.position

/-- The next character, if there is one. -/
def peek (cursor : Cursor ι) : Option Char := cursor.rest.head?

/-- Whether there is a next character. -/
def hasMore (cursor : Cursor ι) : Bool := cursor.peek.isSome

/-- A fault at the cursor. -/
def error (cursor : Cursor ι) (fault : Fault) : GrammarError :=
  ⟨fault, cursor.text, cursor.position⟩

/-- Reads from the cursor on. -/
def read (cursor : Cursor ι) (reader : Grammar.Reader α) :
    Except GrammarError α × Cursor ι :=
  let text := cursor.rest
  let reply := reader.run text
  let moved : Cursor ι :=
    { cursor with
      position := cursor.position + (text.length - reply.rest.length)
      met := cursor.met + reply.names.length
      recorded := cursor.recorded ++ occurrences cursor.owner cursor.met reply.names }
  match reply.result with
  | .ok value => (.ok value, moved)
  | .error fault => (.error (moved.error fault), moved)

/-- Reads one character. -/
def advance (cursor : Cursor ι) : Except GrammarError Char × Cursor ι :=
  match cursor.peek with
  | none => (.error (cursor.error .unexpectedEnd), cursor)
  | some c => (.ok c, { cursor with position := cursor.position + 1 })

/-- Moves over the next character if it is the given text, and complains otherwise.  At the end of
the text the next character is the empty text, and the cursor moves past the end. -/
def expect (cursor : Cursor ι) (literal : String) : Except GrammarError Unit × Cursor ι :=
  if (cursor.peek.map String.singleton).getD "" = literal then
    (.ok (), { cursor with position := cursor.position + 1 })
  else (.error (cursor.error (.expected literal cursor.peek)), cursor)

/-- Reads an identifier. -/
def identifier (cursor : Cursor ι) : Except GrammarError String × Cursor ι :=
  cursor.read Grammar.identifier

/-- Records an item. -/
def record (cursor : Cursor ι) (value : ι) : Cursor ι :=
  { cursor with recorded := cursor.recorded ++ [.item value] }

/-- Everything recorded so far, in order; the record starts anew. -/
def takeRecorded (cursor : Cursor ι) : List (Recorded ι) × Cursor ι :=
  (cursor.recorded, { cursor with recorded := [] })

/-- The cursor shown for debugging. -/
def describe (cursor : Cursor ι) : String :=
  "Cursor(position=" ++ toString cursor.position ++ ", text=" ++ Text.quote cursor.text ++ ")"

end Cursor

end GenericSignature
