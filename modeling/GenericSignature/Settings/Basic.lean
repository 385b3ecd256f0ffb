import GenericSignature.Settings.Expansion
import GenericSignature.Settings.Integer

/-!
# Settings

Three settings govern the program: the longest text that is parsed, whether a batch stops at the
first malformed line, and which log messages are shown.  Each of them has a default and can be set
in the environment or in a settings file; the environment wins.  Names are compared without regard
to case.

A setting that is given but not understood is an issue, and all issues are reported together.
-/

namespace GenericSignature

/-- How grave a log message is. -/
inductive LogLevel where
  | debug
  | info
  | warning
  | error
  | critical
deriving DecidableEq, Repr, Inhabited

namespace LogLevel

/-- All levels, the lightest first. -/
def all : List LogLevel := [debug, info, warning, error, critical]

/-- The name of a level. -/
def name : LogLevel → String
  | debug => "DEBUG"
  | info => "INFO"
  | warning => "WARNING"
  | error => "ERROR"
  | critical => "CRITICAL"

/-- The place of a level in the order of gravity. -/
def rank : LogLevel → Nat
  | debug => 0
  | info => 1
  | warning => 2
  | error => 3
  | critical => 4

/-- The level with the given name. -/
def ofName? (name : String) : Option LogLevel := all.find? fun level => level.name == name

end LogLevel

/-- The settings of the program. -/
structure Settings where
  /-- The largest number of characters in a text that is parsed. -/
  maxLength : Nat
  /-- Whether a batch stops at the first malformed line. -/
  failFast : Bool
  /-- The lightest messages that are shown. -/
  logLevel : LogLevel
deriving DecidableEq, Repr, Inhabited

/-- The settings where nothing is set. -/
def Settings.standard : Settings := ⟨65535, false, .warning⟩

/-- Where settings come from: the variables of the environment, in the order in which they were
first set, and the text of the settings file, if there is one. -/
structure Sources where
  environment : List (String × String)
  dotenv : Option String
deriving Repr, Inhabited

namespace Sources

/-- No settings at all. -/
def empty : Sources := ⟨[], none⟩

/-- Sets a variable of the environment, or removes it.  A variable that is set keeps its place. -/
def setVariable (sources : Sources) (name : String) (value : Option String) : Sources :=
  let environment := sources.environment
  match value with
  | none => { sources with environment := environment.filter fun entry => entry.1 != name }
  | some value =>
      if environment.any fun entry => entry.1 == name then
        { sources with
          environment := environment.map fun entry =>
            if entry.1 == name then (name, value) else entry }
      else { sources with environment := environment ++ [(name, value)] }

end Sources

/-- The value of a setting in a list of assignments.  Of two assignments to one name the later one
counts; of two names that differ in case only, the name that comes up first later. -/
def assigned (assignments : List Dotenv.Assignment) (name : String) : Option String :=
  let names := (assignments.map Prod.fst).eraseDups
  match (names.filter fun other => other.toLower == name.toLower).getLast? with
  | none => none
  | some name =>
      ((assignments.filter fun entry => entry.1 == name).getLast?.map Prod.snd).getD none

/-- The numbers of the lines of the settings file that are skipped because they fit no rule. -/
def Sources.unreadableLines (sources : Sources) : List Nat :=
  (sources.dotenv.map Dotenv.unreadableLines).getD []

/-- The text given for a setting, if there is one. -/
def Sources.value (sources : Sources) (name : String) : Option String :=
  let environment := sources.environment.map fun entry => (entry.1, some entry.2)
  match assigned environment name with
  | some value => some value
  | none =>
      match sources.dotenv with
      | none => none
      | some text => assigned (Dotenv.expanded sources.environment text) name

namespace Settings

/-- The words for yes and no, in lower case. -/
def boolean? (text : String) : Option Bool :=
  let word := text.toLower
  if ["1", "true", "t", "yes", "y", "on"].contains word then some true
  else if ["0", "false", "f", "no", "n", "off"].contains word then some false
  else none

/-- The least and the largest allowed text length. -/
def lengthBounds : Int × Int := (1, 1048576)

/-- Checks a text length. -/
def checkLength (text : String) : Validated Nat :=
  match integer text with
  | .error problem => .problem problem
  | .ok n =>
      if n < lengthBounds.1 then .problem (.belowMinimum lengthBounds.1)
      else if lengthBounds.2 < n then .problem (.aboveMaximum lengthBounds.2)
      else .valid n.toNat

/-- Checks a word for yes or no. -/
def checkBoolean (text : String) : Validated Bool :=
  match boolean? text with
  | none => .problem .notBoolean
  | some value => .valid value

/-- Checks the name of a log level. -/
def checkLevel (text : String) : Validated LogLevel :=
  match LogLevel.ofName? text with
  | none => .problem (.notWord (LogLevel.all.map LogLevel.name))
  | some level => .valid level

/-- What the names of all settings start with. -/
def namespaceMark : String := "JVMSIG_"

/-- One setting: the text given for it, checked, or the default. -/
def field {α : Type} (sources : Sources) (name : String) (check : String → Validated α)
    (standard : α) : Validated α :=
  match sources.value (namespaceMark ++ name) with
  | none => .valid standard
  | some text => (check text).under name

/-- The settings that the sources give. -/
def load (sources : Sources) : Validated Settings :=
  Settings.mk <$> field sources "max_signature_length" checkLength standard.maxLength
    <*> field sources "fail_fast" checkBoolean standard.failFast
    <*> field sources "log_level" checkLevel standard.logLevel

end Settings

end GenericSignature
