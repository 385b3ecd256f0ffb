/-!
# Command line arguments

Options come before and between the other arguments, in the usual forms: `--name`, `--name=value`,
`--name value`, `-x`, `-xvalue`, `-x value`, and short options run together.  An argument of two
dashes ends the options.  If an option is given more than once, the last time counts.

The program takes an option for verbose output, then the name of a command, then the arguments of
the command.  Both the program and its commands can be asked for help instead.  The options that set
up completion in a shell are left out.
-/

namespace GenericSignature.CommandLine

/-- An option: its name with two dashes, its letter if it has one, and whether it takes a value. -/
structure OptionSpec where
  name : String
  letter : Option Char
  takesValue : Bool
deriving DecidableEq, Repr, Inhabited

/-- An option that was given, by name, with its value if it takes one. -/
structure Given where
  name : String
  value : Option String
deriving DecidableEq, Repr, Inhabited

/-- What an argument that looks like an option turns out to be. -/
inductive Matched where
  /-- No such option, or not in this form. -/
  | unknown
  /-- Options, complete with their values. -/
  | complete (given : List Given)
  /-- Options, and one more that takes the next argument as its value. -/
  | pending (given : List Given) (name : String)
deriving DecidableEq, Repr, Inhabited

/-- Matches the letters of short options run together. -/
def matchLetters (specs : List OptionSpec) : List Char → List Given → Matched
  | [], given => .complete given
  | c :: rest, given =>
      match specs.find? fun spec => spec.letter == some c with
      | none => .unknown
      | some spec =>
          if spec.takesValue then
            if rest.isEmpty then .pending given spec.name
            else .complete (given ++ [⟨spec.name, some (String.ofList rest)⟩])
          else matchLetters specs rest (given ++ [⟨spec.name, none⟩])

/-- Matches the name of an option and a value that is attached to it. -/
def matchName (spec : OptionSpec) (attached : Option String) : Matched :=
  if spec.takesValue then
    match attached with
    | none => .pending [] spec.name
    | some value => .complete [⟨spec.name, some value⟩]
  else if attached.isSome then .unknown
  else .complete [⟨spec.name, none⟩]

/-- Matches an argument that starts with a dash. -/
def matchOption (specs : List OptionSpec) (argument : List Char) : Matched :=
  let isName := fun c => c != '='
  let name := String.ofList (argument.takeWhile isName)
  let attached := match argument.dropWhile isName with
    | [] => none
    | _ :: value => some (String.ofList value)
  match specs.find? fun spec => spec.name == name with
  | some spec => matchName spec attached
  | none =>
      match argument with
      | '-' :: '-' :: _ => .unknown
      | _ => matchLetters specs (argument.drop 1) []

/-- The options and the other arguments of a command line. -/
structure Scanned where
  given : List Given
  others : List String
deriving DecidableEq, Repr, Inhabited

/-- Sorts arguments into options and others; nothing if an option is wrong.  Where options may not
stand between other arguments, they end before the first of those.  Options and other arguments
found so far are kept in order. -/
def scanFrom (specs : List OptionSpec) (mixed : Bool) :
    List String → List Given → List String → Option Scanned
  | [], given, others => some ⟨given, others⟩
  | argument :: rest, given, others =>
      let characters := argument.toList
      if argument = "--" then some ⟨given, others ++ rest⟩
      else if characters.head? = some '-' ∧ 1 < characters.length then
        match matchOption specs characters with
        | .unknown => none
        | .complete more => scanFrom specs mixed rest (given ++ more) others
        | .pending more name =>
            match rest with
            | [] => none
            | value :: rest =>
                scanFrom specs mixed rest (given ++ more ++ [⟨name, some value⟩]) others
      else if mixed then scanFrom specs mixed rest given (others ++ [argument])
      else some ⟨given, others ++ argument :: rest⟩

/-- Sorts arguments into options and others. -/
def scan (specs : List OptionSpec) (mixed : Bool) (arguments : List String) : Option Scanned :=
  scanFrom specs mixed arguments [] []

/-! ## The commands -/

/-- The names of the commands. -/
inductive CommandName where
  | parse
  | classes
  | batch
deriving DecidableEq, Repr, Inhabited

/-- A command with its arguments. -/
inductive Command where
  /-- Shows a method signature, perhaps in the context of a class signature. -/
  | parse (text : String) (cls : Option String) (json : Bool)
  /-- Lists the classes that a method signature refers to. -/
  | classes (text : String)
  /-- Parses the lines of a file. -/
  | batch (path : String) (failFast : Option Bool) (json : Bool)
  /-- Tells how a command is used. -/
  | help (command : CommandName)
deriving DecidableEq, Repr, Inhabited

/-- The command with the given name. -/
def CommandName.ofName? (name : String) : Option CommandName :=
  if name = "parse" then some .parse
  else if name = "classes" then some .classes
  else if name = "batch" then some .batch
  else none

/-- The option that asks for help. -/
def helpOption : OptionSpec := ⟨"--help", none, false⟩

/-- The options before the name of the command. -/
def programOptions : List OptionSpec := [⟨"--verbose", some 'v', false⟩, helpOption]

/-- The options of a command. -/
def CommandName.options : CommandName → List OptionSpec
  | parse => [⟨"--class-signature", some 'c', true⟩, ⟨"--json", none, false⟩, helpOption]
  | classes => [helpOption]
  | batch =>
      [⟨"--fail-fast", none, false⟩, ⟨"--keep-going", none, false⟩, ⟨"--json", none, false⟩,
        helpOption]

/-- Whether an option was given. -/
def Scanned.has (scanned : Scanned) (name : String) : Bool :=
  scanned.given.any fun option => option.name == name

/-- The last value that was given for an option. -/
def Scanned.value (scanned : Scanned) (name : String) : Option String :=
  ((scanned.given.filter fun option => option.name == name).getLast?.map Given.value).getD none

/-- Which of two opposite options was given last. -/
def Scanned.choice (scanned : Scanned) (yes no : String) : Option Bool :=
  (scanned.given.filter fun option => option.name == yes || option.name == no).getLast?.map
    fun option => option.name == yes

/-- A program call up to the name of its command: whether it is verbose, the command, and the
arguments of the command. -/
structure Call where
  verbose : Bool
  command : CommandName
  arguments : List String
deriving DecidableEq, Repr, Inhabited

/-- Whether help is asked for. -/
def Scanned.asksHelp (scanned : Scanned) : Bool := scanned.has helpOption.name

/-- Whether a command line asks for help on the program, before any command. -/
def asksProgramHelp (arguments : List String) : Bool :=
  (scan programOptions false arguments).any Scanned.asksHelp

/-- Understands a command line up to the name of its command. -/
def Call.ofArguments? (arguments : List String) : Option Call := do
  let scanned ← scan programOptions false arguments
  if scanned.asksHelp then none
  else match scanned.others with
  | [] => none
  | name :: rest => return ⟨scanned.has "--verbose", ← CommandName.ofName? name, rest⟩

/-- Understands the arguments of a command, which takes one argument besides its options.  Who asks
for help need not give the argument. -/
def Call.command? (call : Call) : Option Command := do
  let scanned ← scan call.command.options true call.arguments
  if scanned.asksHelp then return .help call.command
  else match scanned.others, call.command with
  | [text], .parse =>
      return .parse text (scanned.value "--class-signature") (scanned.has "--json")
  | [text], .classes => return .classes text
  | [path], .batch =>
      return .batch path (scanned.choice "--fail-fast" "--keep-going") (scanned.has "--json")
  | _, _ => none

end GenericSignature.CommandLine
