import GenericSignature.Settings.Dotenv

/-!
# References between values

The values of a settings file may refer to other values, whether they are quoted or not: a dollar
sign and a name in braces stand for the value of the name.  After a colon and a dash the braces may
hold what stands there if the name has no value at all.

A name has the value that an earlier line of the file gives it, or else the value that it has in the
environment.  What is put in the place of a reference is not searched for references again.
-/

namespace GenericSignature.Dotenv

/-- A reference to a value: the name, and what stands for it if there is no such value. -/
structure Reference where
  name : List Char
  otherwise : List Char
deriving DecidableEq, Repr, Inhabited

/-- Reads a reference after its dollar sign and its opening brace. -/
def reference? (text : List Char) : Option (Reference × List Char) :=
  let isName := fun c => !(c == '\x7d' || c == ':')
  let isInside := fun c => c != '\x7d'
  let name := text.takeWhile isName
  match text.dropWhile isName with
  | '\x7d' :: rest => some (⟨name, []⟩, rest)
  | ':' :: '-' :: inside =>
      match inside.dropWhile isInside with
      | [] => none
      | _ :: rest => some (⟨name, inside.takeWhile isInside⟩, rest)
  | _ => none

theorem length_reference?_rest {text rest : List Char} {found : Reference}
    (read : reference? text = some (found, rest)) : rest.length < text.length := by
  have name := (List.dropWhile_suffix (l := text) fun c => !(c == '\x7d' || c == ':')).length_le
  simp only [reference?] at read
  split at read
  next closed =>
    simp only [closed, Option.some.injEq, Prod.mk.injEq, List.length_cons] at read name
    obtain ⟨_, rfl⟩ := read
    omega
  next inside opened =>
    have value := (List.dropWhile_suffix (l := inside) fun c => c != '\x7d').length_le
    split at read
    next => simp at read
    next closed =>
      simp only [opened, List.length_cons] at name
      simp only [closed, Option.some.injEq, Prod.mk.injEq, List.length_cons] at read value
      obtain ⟨_, rfl⟩ := read
      omega
  next => simp at read

/-- Replaces the references of a text.  What is done is kept in reverse. -/
def expandFrom (value : String → Option String) (text done : List Char) : List Char :=
  match text with
  | [] => done.reverse
  | '$' :: '\x7b' :: after =>
      match read : reference? after with
      | none => expandFrom value ('\x7b' :: after) ('$' :: done)
      | some (found, rest) =>
          have := length_reference?_rest read
          let written := ((value (String.ofList found.name)).map String.toList).getD found.otherwise
          expandFrom value rest (written.reverseAux done)
  | c :: rest => expandFrom value rest (c :: done)
termination_by text.length
decreasing_by
  all_goals
    simp only [List.length_cons]
    omega

/-- A text with its references replaced by the values of their names. -/
def expand (value : String → Option String) (text : String) : String :=
  String.ofList (expandFrom value text.toList [])

/-- The value that a name refers to, after some assignments, the latest first.  A name without a
value stands for nothing; a name that is not assigned has its value in the environment. -/
def referred (environment : List (String × String)) (done : List Assignment) (name : String) :
    Option String :=
  match done.find? fun entry => entry.1 == name with
  | some (_, value) => some (value.getD "")
  | none => (environment.find? fun entry => entry.1 == name).map Prod.snd

/-- Assignments with their references replaced.  The ones that are done are kept in reverse. -/
def expandAll (environment : List (String × String)) :
    List Assignment → List Assignment → List Assignment
  | [], done => done.reverse
  | (name, value) :: rest, done =>
      expandAll environment rest
        ((name, value.map (expand (referred environment done))) :: done)

/-- The assignments of a settings file, in order and with their references replaced. -/
def expanded (environment : List (String × String)) (text : String) : List Assignment :=
  expandAll environment (assignments text) []

end GenericSignature.Dotenv
