import GenericSignature.Grammar.Fault
import GenericSignature.Json.Reader
import GenericSignature.Scope.Links
import GenericSignature.Validation

/-!
# Failures

Everything that can go wrong when the library is used, by cause.
-/

namespace GenericSignature

/-- Why a document does not give a method signature. -/
inductive DocumentError where
  /-- The text is not JSON. -/
  | notJson (error : Json.SyntaxError)
  /-- The document is another kind of value than an object. -/
  | notAnObject (kind : String)
  /-- The document does not have the right shape. -/
  | badShape (issues : List Issue)
  /-- The descriptor in the document is malformed. -/
  | badDescriptor (error : GrammarError)
deriving DecidableEq, Repr, Inhabited

namespace DocumentError

/-- The kind of a document error, in words. -/
def message : DocumentError → String
  | notJson _ => "Invalid JSON format"
  | notAnObject _ => "Invalid JSON format"
  | badShape _ => "Method signature validation failed"
  | badDescriptor _ => "Invalid method signature descriptor"

/-- What exactly is wrong with a document, in words. -/
def details : DocumentError → String
  | notJson error => error.message
  | notAnObject kind => "Expected an object, got " ++ kind
  | badShape issues => describeIssues issues
  | badDescriptor error => error.describe

end DocumentError

/-- Why an operation failed. -/
inductive Failure where
  /-- A text is not a signature. -/
  | grammar (error : GrammarError)
  /-- The settings are not understood. -/
  | settings (issues : List Issue)
  /-- A back-link was set before. -/
  | scope (error : ScopeError)
  /-- A document does not give a method signature. -/
  | document (error : DocumentError)
  /-- A whole number in a document has more digits than are read. -/
  | oversizedNumber
  /-- The bytes of a file are not UTF-8. -/
  | undecodable
deriving DecidableEq, Repr, Inhabited

end GenericSignature
