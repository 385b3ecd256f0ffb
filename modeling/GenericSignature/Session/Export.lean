import GenericSignature.Document
import GenericSignature.Json.Printer
import GenericSignature.Session.Basic

/-!
# Export and import

A method signature goes out as a JSON document and comes back by way of its descriptor.
-/

namespace GenericSignature

/-- The document of a method signature, as a text. -/
def MethodSig.toDocument (sig : MethodSig) : String :=
  (MethodSummary.ofMethod sig).toJson.render

namespace SessionM

/-- Parses the descriptor in a document.  Only its grammar errors are errors of the document. -/
def importJson (document : Json) : SessionM (Registered MethodSig) := do
  match MethodSummary.ofJson document with
  | .invalid issues => throw (.document (.badShape issues))
  | .valid summary =>
      match ← tryGrammar (parseMethod summary.descriptor none) with
      | .error error => throw (.document (.badDescriptor error))
      | .ok sig => return sig

/-- Parses the descriptor in the text of a document. -/
def importText (text : String) : SessionM (Registered MethodSig) := do
  match Json.parse text with
  | .error (.malformed error) => throw (.document (.notJson error))
  | .error .oversized => throw .oversizedNumber
  | .ok (.obj members) => importJson (.obj members)
  | .ok other => throw (.document (.notAnObject other.kind))

end SessionM

end GenericSignature
