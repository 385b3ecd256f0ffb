import GenericSignature.Grammar.Fault

/-!
# Readers

A reader takes characters off the front of a text.  It answers with a value or a fault, with the
text that is left (where a fault was found, the text from there on), and with the names of the type
variables that it came across.  Names seen before a fault are kept.

A reader never puts anything back: what it leaves is a suffix of what it was given, and the proof
of that is part of every reader.  Sequences of readers are written in `do` notation.
-/

namespace GenericSignature.Grammar

/-- What a reader answers. -/
structure Reply (α : Type) where
  result : Except Fault α
  rest : List Char
  names : List String

/-- A function that reads from the front of a text and leaves a suffix of it. -/
structure Reader (α : Type) where
  run : List Char → Reply α
  suffix : ∀ text, (run text).rest <:+ text

namespace Reader

variable {α β : Type}

theorem length_rest_le (reader : Reader α) (text : List Char) :
    (reader.run text).rest.length ≤ text.length :=
  (reader.suffix text).length_le

/-- Reads nothing. -/
protected def pure (value : α) : Reader α where
  run text := ⟨.ok value, text, []⟩
  suffix text := List.suffix_refl text

/-- Finds a fault at the front of the text. -/
def fail (fault : Fault) : Reader α where
  run text := ⟨.error fault, text, []⟩
  suffix text := List.suffix_refl text

/-- Reads on where another reader stopped, unless that one found a fault. -/
protected def bind (first : Reader α) (next : α → Reader β) : Reader β where
  run text :=
    match first.run text with
    | ⟨.error fault, rest, seen⟩ => ⟨.error fault, rest, seen⟩
    | ⟨.ok value, rest, seen⟩ =>
        let reply := (next value).run rest
        ⟨reply.result, reply.rest, seen ++ reply.names⟩
  suffix text := by
    have start := first.suffix text
    split
    next rest _ equal => simpa [equal] using start
    next value rest _ equal =>
      exact ((next value).suffix rest).trans (by simpa [equal] using start)

instance : Monad Reader where
  pure := Reader.pure
  bind := Reader.bind

/-- Notes the name of a type variable. -/
def record (name : String) : Reader Unit where
  run text := ⟨.ok (), text, [name]⟩
  suffix text := List.suffix_refl text

/-- Reads the given character and no other. -/
def expect (literal : Char) : Reader Unit where
  run text :=
    match text with
    | [] => ⟨.error (.expected (String.singleton literal) none), [], []⟩
    | c :: rest =>
        if c = literal then ⟨.ok (), rest, []⟩
        else ⟨.error (.expected (String.singleton literal) (some c)), c :: rest, []⟩
  suffix text := by
    split
    next => exact List.suffix_refl []
    next c rest =>
      split
      next => exact List.suffix_cons c rest
      next => exact List.suffix_refl (c :: rest)

/-- Reads the characters of a class as far as they go. -/
def takeWhile (accepts : Char → Bool) : Reader (List Char) where
  run text := ⟨.ok (text.takeWhile accepts), text.dropWhile accepts, []⟩
  suffix _ := List.dropWhile_suffix accepts

/-- Finds a fault unless the next character belongs to a class; reads nothing. -/
def demand (accepts : Char → Bool) (fault : Fault) : Reader Unit where
  run text :=
    if text.head?.any accepts then ⟨.ok (), text, []⟩ else ⟨.error fault, text, []⟩
  suffix text := by
    split <;> exact List.suffix_refl text

/-- Finds a fault if the next character belongs to a class; reads nothing. -/
def refuse (rejects : Char → Bool) (fault : Fault) : Reader Unit where
  run text :=
    if text.head?.any rejects then ⟨.error fault, text, []⟩ else ⟨.ok (), text, []⟩
  suffix text := by
    split <;> exact List.suffix_refl text

/-- A reader that is told how many characters are left before it starts. -/
def sized (reader : Nat → Reader α) : Reader α where
  run text := (reader text.length).run text
  suffix text := (reader text.length).suffix text

/-- Reads from the start of a text.  A fault is placed by the number of characters before it. -/
def parse (reader : Reader α) (text : String) : Except GrammarError (α × List String) :=
  let characters := text.toList
  let reply := reader.run characters
  match reply.result with
  | .ok value => .ok (value, reply.names)
  | .error fault => .error ⟨fault, text, characters.length - reply.rest.length⟩

end Reader

/-- The characters that no identifier holds. -/
def isTerminator (c : Char) : Bool := ['.', ';', '[', '/', '<', '>', ':'].contains c

/-- The characters that identifiers are made of: all but the terminators. -/
def isNameChar (c : Char) : Bool := !isTerminator c

/-- Reads an identifier: one name character or more, as many as there are. -/
def identifier : Reader String := do
  Reader.demand isNameChar .expectedIdentifier
  let name ← Reader.takeWhile isNameChar
  return String.ofList name

end GenericSignature.Grammar
