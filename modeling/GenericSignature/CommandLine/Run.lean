import GenericSignature.CommandLine.Console
import GenericSignature.Session.Batch
import GenericSignature.Session.Export

/-!
# Running commands

A call of the program as a function: from the settings, the files and the arguments to what is
printed and the exit code.  The exit code is 0 if all went well, 1 if a signature was malformed or
the call broke off, and 2 if the command line was not understood.

A command answers with what it prints; the consoles of a terminal make lines of it.  A call that
prints something malformed breaks off there.
-/

namespace GenericSignature.CommandLine

/-- What is found under the path of a file. -/
inductive FileEntry where
  | missing
  | directory
  | file (bytes : ByteArray)

/-- The end of a call.  A call that breaks off names the failure; what the runtime prints of it is
left out. -/
structure Outcome where
  exitCode : Nat
  stdout : String
  /-- The log, and the report of a grammar error. -/
  stderr : String
  /-- What is printed after the report by verbose calls. -/
  details : String
  failure : Option Failure

/-- All that a call prints on the standard error. -/
def Outcome.allErrors (outcome : Outcome) : String := outcome.stderr ++ outcome.details

/-- The outcome of a command line that is not understood.  What is printed of it is left out. -/
def Outcome.usage : Outcome := ⟨2, "", "", "", none⟩

/-- The outcome of a call that only shows a text. -/
def Outcome.helped (text : String) : Outcome := ⟨0, text, "", "", none⟩

/-- What a command prints, and its exit code. -/
structure Report where
  prints : List Print
  exitCode : Nat

/-! ## What the commands show -/

/-- Rows for numbered items of one kind. -/
def numberedRows (kind : String) (items : List String) : List (List String) :=
  items.mapIdx fun i item => [kind, toString i, item]

/-- The parts of a method signature as a table. -/
def methodTable (sig : MethodSig) : Table where
  header := ["Part", "Index", "Type"]
  rows := numberedRows "type parameter" (sig.tparams.map TypeParam.display) ++
    numberedRows "parameter" (sig.params.map TypeSig.display) ++
    [["result", "", sig.result.display]] ++
    numberedRows "throws" (sig.throws.map TypeSig.display)

/-- A row of the table of a batch: the number of the line, whether it was parsed, and what it
shows. -/
structure BatchRow where
  line : Nat
  parsed : Bool
  shown : String
deriving DecidableEq, Repr, Inhabited

/-- The rows of the table of a batch, in the order of the lines. -/
def batchRows (result : BatchResult) : List BatchRow :=
  let parsed : List BatchRow := result.parsed.map fun entry =>
    ⟨entry.line, true, entry.sig.tree.display⟩
  let failures : List BatchRow := result.failures.map fun entry =>
    ⟨entry.line, false, entry.text ++ ": " ++ entry.error.message⟩
  (parsed ++ failures).mergeSort fun left right => Nat.ble left.line right.line

/-- The lines of a batch as a table. -/
def batchTable (result : BatchResult) : Table where
  header := ["Line", "Status", "Signature"]
  rows := (batchRows result).map fun row =>
    [toString row.line, if row.parsed then "ok" else "error", row.shown]

/-- The lines of a batch as a JSON object. -/
def batchJson (result : BatchResult) : Json :=
  .obj [("parsed", .arr (result.parsed.map fun entry =>
      .obj [("line", .int entry.line),
        ("signature", (MethodSummary.ofMethod entry.sig.tree).toJson)])),
    ("failures", .arr (result.failures.map fun entry =>
      .obj [("line", .int entry.line), ("text", .str entry.text),
        ("message", .str entry.error.message), ("position", .int entry.error.position)]))]

/-- The status of a line in its colour. -/
def statusShown (status : String) : String :=
  if status = "ok" then styled "green" status else styled "red" status

/-- The table of a batch with its second column in colours. -/
def colouredTable (result : BatchResult) : Table :=
  let table := batchTable result
  { table with rows := table.rows.map fun cells => cells.modify 1 statusShown }

/-- A batch for the terminal: its lines, and how many of them were parsed. -/
def batchPrints (result : BatchResult) : List Print :=
  [.table (colouredTable result), .markup ("Parsed " ++ toString result.parsed.length ++ " of " ++
    toString result.total ++ " signature(s)")]

/-- A display with a title in blue. -/
def titled (title display : String) : Print := .markup (styled "blue" title ++ " " ++ display)

/-- A method for the terminal: its display, its parts, and the class around it. -/
def methodPrints (sig : MethodSig) (cls : Option ClassSig) : List Print :=
  [titled "Signature:" sig.display, .table (methodTable sig)] ++
    (cls.map fun cls => titled "Class:" cls.display).toList

/-- A grammar error for the terminal: its message, the text, and a caret below its position. -/
def errorPrints (error : GrammarError) : List Print :=
  [.markup (styled "red" "Error:" ++ " " ++ error.message ++ " at position " ++
      toString error.position),
    .plain ("  " ++ error.text),
    .plain ("  " ++ String.ofList (List.replicate error.position.toNat ' ') ++ "^")]

/-- The account of an error that verbose calls add. -/
def tracePrints (trace : String) : List Print :=
  [.markup ("\n" ++ styled "dim" "--- Traceback (verbose mode) ---"), .markup (styled "dim" trace)]

/-! ## The commands -/

/-- The name of the class whose signature is given on the command line. -/
def contextName : String := "<cli>"

/-- Shows a method signature.  An empty class signature counts as none. -/
def runParse (text : String) (cls : Option String) (json : Bool) : SessionM Report := do
  let context ← match cls with
    | none => pure none
    | some sig =>
        if sig.isEmpty then pure none else some <$> SessionM.addClass contextName (some sig)
  let sig ← SessionM.parseMethod text context
  if json then return ⟨[.line sig.tree.toDocument], 0⟩
  let cls ← SessionM.contextSignature context
  return ⟨methodPrints sig.tree (cls.map Registered.tree), 0⟩

/-- Lists the classes that a method signature refers to. -/
def runClasses (text : String) : SessionM Report := do
  let sig ← SessionM.parseMethod text none
  return ⟨(sortedNames sig.tree.classNames).map Print.line, 0⟩

/-- Parses the lines of a file. -/
def runBatchCommand (bytes : ByteArray) (failFast : Option Bool) (json : Bool) :
    SessionM Report := do
  let plan ← SessionM.planBatch none failFast
  let result ← SessionM.runFile plan bytes
  let shown := if json then [.line (batchJson result).render] else batchPrints result
  return ⟨shown, if result.success then 0 else 1⟩

/-- Runs a command; nothing if its file cannot be read. -/
def runCommand (files : String → FileEntry) : Command → Option (SessionM Report)
  | .parse text cls json => some (runParse text cls json)
  | .classes text => some (runClasses text)
  | .batch path failFast json =>
      match files path with
      | .file bytes => some (runBatchCommand bytes failFast json)
      | _ => none
  | .help command => some (pure ⟨[.help command], 0⟩)

/-! ## The program -/

/-- The lines of the log that are grave enough to be shown. -/
def shownLog (threshold : LogLevel) (session : Session) : String :=
  let shown := session.log.reverse.filter fun event => threshold.rank ≤ event.level.rank
  String.join (shown.map fun event => event.line ++ "\n")

section Run

variable (terminal : Terminal)

/-- Ends a call with the answer of its command. -/
def finish (verbose : Bool) (threshold : LogLevel) (answer : Except Failure Report)
    (session : Session) : Outcome :=
  let log := shownLog threshold session
  match answer with
  | .ok report =>
      let (stdout, complete) := terminal.out.printAll report.prints
      ⟨if complete then report.exitCode else 1, stdout, log, "", none⟩
  | .error (.grammar error) =>
      let (stderr, complete) := terminal.err.printAll (errorPrints error)
      let (details, _) := terminal.err.printAll (tracePrints (terminal.trace error))
      ⟨1, "", log ++ stderr, if verbose && complete then details else "", none⟩
  | .error failure => ⟨1, "", log, "", some failure⟩

/-- Runs a call once it is known which messages are shown. -/
def runCall (files : String → FileEntry) (call : Call) (threshold : LogLevel)
    (session : Session) : Outcome :=
  match call.command? with
  | none => .usage
  | some command =>
      match runCommand files command with
      | none => .usage
      | some operation =>
          let (answer, session) := operation.run session
          finish terminal call.verbose threshold answer session

/-- What the log holds before it is known which lines of it are shown: every event that is more than
a trace, by its wording alone. -/
def earlyLog (session : Session) : String :=
  let shown := session.log.reverse.filter fun event => LogLevel.warning.rank ≤ event.level.rank
  String.join (shown.map fun event => event.message ++ "\n")

/-- Runs the program at a terminal.  The settings are read for the log level before the arguments of
the command are looked at; a verbose call shows all messages and does not need them for that. -/
def runAt (sources : Sources) (files : String → FileEntry) (arguments : List String) :
    Outcome :=
  if asksProgramHelp arguments then .helped (terminal.out.help none)
  else match Call.ofArguments? arguments with
  | none => .usage
  | some call =>
      let session := Session.start sources
      if call.verbose then runCall terminal files call .debug session
      else
        match SessionM.settings.run session with
        | (.error failure, session) => ⟨1, "", earlyLog session, "", some failure⟩
        | (.ok settings, session) =>
            let outcome :=
              runCall terminal files call settings.logLevel { session with log := [] }
            { outcome with stderr := earlyLog session ++ outcome.stderr }

end Run

/-- Runs the program at a wide terminal. -/
def run (sources : Sources) (files : String → FileEntry) (arguments : List String) : Outcome :=
  runAt .wide sources files arguments

end GenericSignature.CommandLine
