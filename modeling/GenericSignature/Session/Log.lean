import GenericSignature.Grammar.Fault
import GenericSignature.Settings.Basic

/-!
# The log

What a session does is noted as it happens.  An event has a level, the name of the part of the
library that it comes from, and a wording.
-/

namespace GenericSignature

/-- Something that happened in a session. -/
inductive Event where
  /-- A line of the settings file fits no rule and is skipped. -/
  | unreadable (line : Nat)
  | readingType (text : String)
  | readingMethod (text : String)
  | readingClass (text : String)
  /-- The type variables of a method were linked. -/
  | linked (count : Nat) (display : String)
  /-- A batch starts in the context of a class, which may have no signature. -/
  | usingClass (display : Option String)
  /-- A line of a batch was malformed and is left out. -/
  | skipped (line : Nat) (error : GrammarError)
  /-- A batch is over. -/
  | finished (parsed total : Nat)
deriving DecidableEq, Repr, Inhabited

namespace Event

/-- The level of an event. -/
def level : Event → LogLevel
  | unreadable _ => .warning
  | skipped _ _ => .warning
  | _ => .debug

/-- The name of the part of the library that an event comes from. -/
def source : Event → String
  | unreadable _ => "dotenv.main"
  | readingType _ => "jvmsig.signatures.types"
  | readingMethod _ => "jvmsig.signatures.method"
  | readingClass _ => "jvmsig.signatures.class_signature"
  | linked _ _ => "jvmsig.signatures.method"
  | usingClass _ => "jvmsig.services.batch_service"
  | skipped _ _ => "jvmsig.services.batch_service"
  | finished _ _ => "jvmsig.services.batch_service"

/-- The wording of an event. -/
def message : Event → String
  | unreadable line =>
      "python-dotenv could not parse statement starting at line " ++ toString line
  | readingType text => "Parsing type signature " ++ Text.quote text
  | readingMethod text => "Parsing method signature " ++ Text.quote text
  | readingClass text => "Parsing class signature " ++ Text.quote text
  | linked count display => "Linked " ++ toString count ++ " type variable(s) in " ++ display
  | usingClass display => "Using class context " ++ display.getD "None"
  | skipped line error =>
      "Skipping signature on line " ++ toString line ++ ": " ++ error.describe
  | finished parsed total =>
      "Parsed " ++ toString parsed ++ " of " ++ toString total ++ " signature(s)"

/-- An event as a line of the log. -/
def line (event : Event) : String :=
  event.level.name ++ " " ++ event.source ++ ": " ++ event.message

end Event

end GenericSignature
