import GenericSignature.CommandLine.Run

/-!
# The program

Collects the settings and the file of a call, runs it, and prints what it answers.
-/

namespace GenericSignature.CommandLine

/-- What is found under a path. -/
def readEntry (path : String) : IO FileEntry := do
  try
    return .file (← IO.FS.readBinFile path)
  catch _ => return .missing

/-- The variables of the environment. -/
def readEnvironment : IO (List (String × String)) := do
  match ← readEntry "/proc/self/environ" with
  | .file bytes =>
      let text := (String.fromUTF8? bytes).getD ""
      let entries := text.splitOn "\x00"
      return entries.filterMap fun entry =>
        match entry.splitOn "=" with
        | name :: value :: more => some (name, String.intercalate "=" (value :: more))
        | _ => none
  | _ => return []

/-- The text of the settings file in the working directory. -/
def readDotenv : IO (Option String) := do
  match ← readEntry ".env" with
  | .file bytes => return String.fromUTF8? bytes
  | _ => return none

/-- The file that a command line names, if it names one. -/
def filePath? (arguments : List String) : Option String := do
  match ← (← Call.ofArguments? arguments).command? with
  | .batch path _ _ => return path
  | _ => none

end GenericSignature.CommandLine

open GenericSignature CommandLine in
/-- Runs the program on the arguments of the process. -/
def main (arguments : List String) : IO UInt32 := do
  let sources : Sources := ⟨← readEnvironment, ← readDotenv⟩
  let entry ← match filePath? arguments with
    | some path => readEntry path
    | none => pure .missing
  let outcome := run sources (fun _ => entry) arguments
  IO.print outcome.stdout
  IO.eprint outcome.allErrors
  match outcome.failure with
  | some (.settings issues) => IO.eprintln (describeIssues issues)
  | some .undecodable => IO.eprintln "The file is not UTF-8"
  | _ => pure ()
  if outcome.exitCode = 2 then IO.eprint ("Usage: " ++ Terminal.wide.err.help none)
  return outcome.exitCode.toUInt32
