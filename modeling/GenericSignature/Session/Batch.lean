import GenericSignature.Session.Basic
import GenericSignature.Signature.Contents
import GenericSignature.Text.Blank
import GenericSignature.Text.Lines

/-!
# Batches

A batch is a list of lines with one method signature each.  Blanks around a line do not count;
empty lines and lines that start with a hash sign are passed over.  A malformed line is recorded
and left out, or ends the batch with its error, as the batch was set up.
-/

namespace GenericSignature

/-- How a batch is run: in the context of which class of the session, and whether it ends at the
first malformed line. -/
structure BatchPlan where
  context : Option ClassId
  failFast : Bool

/-- A line that was parsed.  Lines are numbered from one. -/
structure ParsedLine where
  line : Nat
  text : String
  sig : Registered MethodSig

/-- A line that was left out. -/
structure FailedLine where
  line : Nat
  text : String
  error : GrammarError

/-- What became of the lines of a batch, in the order of the lines. -/
structure BatchResult where
  parsed : List ParsedLine
  failures : List FailedLine

namespace BatchResult

/-- Whether every line was parsed. -/
def success (result : BatchResult) : Bool := result.failures.isEmpty

/-- The number of lines with a signature. -/
def total (result : BatchResult) : Nat := result.parsed.length + result.failures.length

/-- The classes that the parsed signatures refer to, each once and in order. -/
def classNames (result : BatchResult) : List String :=
  sortedNames (result.parsed.flatMap fun entry => entry.sig.tree.classNames)

end BatchResult

/-- The signature text of a line, if there is one: the line without the blanks around it, unless
that is empty or a comment. -/
def candidate? (line : String) : Option String :=
  match Text.strip Text.isBlank line.toList with
  | [] => none
  | c :: text => if c = '#' then none else some (String.ofList (c :: text))

namespace SessionM

/-- Sets up a batch.  Unless it is said whether to end at the first malformed line, the settings
decide. -/
def planBatch (context : Option ClassId) (failFast : Option Bool) : SessionM BatchPlan := do
  match failFast with
  | some failFast => return ⟨context, failFast⟩
  | none => return ⟨context, (← settings).failFast⟩

/-- Parses the lines from the given number on.  What became of the lines before is kept in
reverse. -/
def runLines (plan : BatchPlan) :
    Nat → List String → List ParsedLine → List FailedLine → SessionM BatchResult
  | _, [], parsed, failures => return ⟨parsed.reverse, failures.reverse⟩
  | number, line :: lines, parsed, failures =>
      match candidate? line with
      | none => runLines plan (number + 1) lines parsed failures
      | some text => do
          match ← tryGrammar (parseMethod text plan.context) with
          | .ok sig => runLines plan (number + 1) lines (⟨number, text, sig⟩ :: parsed) failures
          | .error error =>
              if plan.failFast then throw (.grammar error)
              note (.skipped number error)
              runLines plan (number + 1) lines parsed (⟨number, text, error⟩ :: failures)

/-- Notes the class that a batch is run in the context of, if there is one.  An error in the
signature of the class is the error of the batch. -/
def openContext (plan : BatchPlan) : SessionM Unit := do
  match plan.context with
  | none => return ()
  | some id =>
      let cls ← classSignature id
      note (.usingClass (cls.map fun sig => sig.tree.display))

/-- Parses the lines of a batch after its context was opened. -/
def finishBatch (plan : BatchPlan) (lines : List String) : SessionM BatchResult := do
  let result ← runLines plan 1 lines [] []
  note (.finished result.parsed.length result.total)
  return result

/-- Runs a batch. -/
def runBatch (plan : BatchPlan) (lines : List String) : SessionM BatchResult := do
  openContext plan
  finishBatch plan lines

/-- The lines of a file, which has to be UTF-8. -/
def decodeLines (bytes : ByteArray) : SessionM (List String) := do
  match String.fromUTF8? bytes with
  | none => throw .undecodable
  | some text => return (Text.lines text.toList).map String.ofList

/-- Runs a batch on the lines of a file. -/
def runFile (plan : BatchPlan) (bytes : ByteArray) : SessionM BatchResult := do
  openContext plan
  finishBatch plan (← decodeLines bytes)

end SessionM

end GenericSignature
