import GenericSignature.Failure
import GenericSignature.Grammar.Declarations
import GenericSignature.Scope.Resolution
import GenericSignature.Session.Log
import GenericSignature.Settings.Basic
import GenericSignature.Signature.Display

/-!
# Sessions

A session is everything that outlives one operation: where settings come from and the settings once
they are loaded, the log, the identities handed out, the links between type variables and
signatures, and the classes that methods are parsed in the context of.

Settings are loaded when they are first needed and kept from then on.  The signature of a class is
parsed when it is first needed and kept, so that all methods of the class are linked to the same
signature; an attempt that fails is not kept.

The context of a method is none or such a class (`ClassInfo`).  Anything else that could supply the
signature of a class is not modelled: "in any context" means without a class, or in any class.
-/

namespace GenericSignature

/-- A tree with an identity of its own, under which its links are known. -/
structure Registered (α : Type) where
  id : SigId
  tree : α

/-- A class that methods belong to: its name, the text of its signature if it has one, and the
signature once it is parsed.  No other context of a method is modelled. -/
structure ClassInfo where
  name : String
  text : Option String
  parsed : Option (Registered ClassSig)

/-- Whether two classes have the same name and the same signature text.  Whether they are parsed
does not count. -/
def ClassInfo.agrees (left right : ClassInfo) : Bool :=
  left.name == right.name && left.text == right.text

/-- The identity of a class in a session. -/
structure ClassId where
  serial : Nat
deriving DecidableEq, Repr, Inhabited

/-- The state of a session. -/
structure Session where
  sources : Sources
  settings : Option Settings
  /-- The log, the latest event first. -/
  log : List Event
  /-- The number of identities handed out. -/
  issued : Nat
  links : LinkTable
  classes : Array ClassInfo

/-- A session in which nothing has happened. -/
def Session.start (sources : Sources) : Session where
  sources := sources
  settings := none
  log := []
  issued := 0
  links := .empty
  classes := #[]

/-- An operation in a session.  What it did to the session before it failed stays done. -/
abbrev SessionM := ExceptT Failure (StateM Session)

namespace SessionM

/-- Adds an event to the log. -/
def note (event : Event) : SessionM Unit :=
  modify fun session => { session with log := event :: session.log }

/-- Adds events to the log, in order. -/
def noteAll (events : List Event) : SessionM Unit :=
  modify fun session => { session with log := events.reverse ++ session.log }

/-- Hands out an identity. -/
def freshId : SessionM SigId := do
  let session ← get
  set { session with issued := session.issued + 1 }
  return ⟨session.issued⟩

/-- Gives a tree an identity. -/
def register {α : Type} (tree : α) : SessionM (Registered α) := do
  return ⟨← freshId, tree⟩

/-! ## Settings -/

/-- Loads the settings and keeps them.  Lines of the settings file that are skipped are noted; if
the settings are not understood they stay unknown. -/
def loadSettings : SessionM Settings := do
  let sources := (← get).sources
  noteAll (sources.unreadableLines.map Event.unreadable)
  match Settings.load sources with
  | .invalid issues => throw (.settings issues)
  | .valid settings =>
      modify fun session => { session with settings := some settings }
      return settings

/-- The settings in force, which are loaded if they are not known. -/
def settings : SessionM Settings := do
  match (← get).settings with
  | some settings => return settings
  | none => loadSettings

/-- Forgets the settings and loads them again. -/
def reloadSettings : SessionM Settings := do
  modify fun session => { session with settings := none }
  settings

/-! ## Parsing -/

/-- Turns the answer of a parser into an operation. -/
def ofGrammar {α : Type} (answer : Except GrammarError α) : SessionM α :=
  match answer with
  | .ok value => return value
  | .error error => throw (.grammar error)

/-- Links recorded type variables to the signatures around them; answers how many there are. -/
def resolve {ι : Type} (recorded : List (Recorded ι)) (method cls : Option SigId) :
    SessionM Nat := do
  let session ← get
  let (links, answer) := session.links.resolve recorded method cls
  set { session with links := links }
  match answer with
  | .ok count => return count
  | .error error => throw (.scope error)

/-- Links one occurrence of a type variable. -/
def link (occurrence : Occurrence) (name : String) (method cls : Option SigId) :
    SessionM Unit := do
  let session ← get
  let (links, error) := session.links.link occurrence name method cls
  set { session with links := links }
  match error with
  | none => return ()
  | some error => throw (.scope error)

/-- Links the type variables with the given names, in order, that were read from the text of a
signature; answers how many there are. -/
def resolveNames (owner : SigId) (names : List String) (method cls : Option SigId) :
    SessionM Nat :=
  let recorded : List (Recorded Empty) := occurrences owner 0 names
  resolve recorded method cls

/-- Parses a type signature.  Its type variables stay without links. -/
def parseType (text : String) : SessionM (Registered TypeSig) := do
  note (.readingType text)
  let limit := (← settings).maxLength
  let (tree, _) ← ofGrammar (TypeSig.parse limit text)
  register tree

/-- Parses a class signature and links its type variables to it. -/
def parseClass (text : String) : SessionM (Registered ClassSig) := do
  note (.readingClass text)
  let limit := (← settings).maxLength
  let (tree, names) ← ofGrammar (ClassSig.parse limit text)
  let sig ← register tree
  let _ ← resolveNames sig.id names none (some sig.id)
  return sig

/-! ## Classes -/

/-- Adds a class to the session. -/
def addClass (name : String) (text : Option String) : SessionM ClassId := do
  let session ← get
  set { session with classes := session.classes.push ⟨name, text, none⟩ }
  return ⟨session.classes.size⟩

/-- What is known of a class.  A class that was never added has no name and no signature. -/
def classInfo (id : ClassId) : SessionM ClassInfo := do
  return ((← get).classes[id.serial]?).getD ⟨"", none, none⟩

/-- Changes what is known of a class. -/
def modifyClass (id : ClassId) (change : ClassInfo → ClassInfo) : SessionM Unit :=
  modify fun session => { session with classes := session.classes.modify id.serial change }

/-- Gives a class another signature text.  A signature that was parsed before is kept. -/
def setClassText (id : ClassId) (text : Option String) : SessionM Unit :=
  modifyClass id fun info => { info with text := text }

/-- The signature of a class, or none if the class has no signature text. -/
def classSignature (id : ClassId) : SessionM (Option (Registered ClassSig)) := do
  let info ← classInfo id
  match info.text, info.parsed with
  | none, _ => return none
  | some _, some sig => return some sig
  | some text, none =>
      let sig ← parseClass text
      modifyClass id fun info => { info with parsed := some sig }
      return some sig

/-- The signature of the class around a method, if there is such a class. -/
def contextSignature : Option ClassId → SessionM (Option (Registered ClassSig))
  | none => return none
  | some id => classSignature id

/-! ## Methods -/

/-- Parses a method signature and links its type variables to it and to the signature of its class.
The class comes first, so that an error in its signature is reported whatever the method text
is.  There is no context but the classes of the session (`ClassInfo`). -/
def parseMethod (text : String) (context : Option ClassId) : SessionM (Registered MethodSig) := do
  note (.readingMethod text)
  let cls ← contextSignature context
  let limit := (← settings).maxLength
  let (tree, names) ← ofGrammar (MethodSig.parse limit text)
  let sig ← register tree
  let count ← resolveNames sig.id names (some sig.id) (cls.map Registered.id)
  note (.linked count tree.display)
  return sig

/-- Runs an operation and answers the grammar error if it fails with one. -/
def tryGrammar {α : Type} (operation : SessionM α) : SessionM (Except GrammarError α) :=
  tryCatch (do return .ok (← operation)) fun
    | .grammar error => return .error error
    | other => throw other

end SessionM

end GenericSignature
