import GenericSignature.Json.Basic
import GenericSignature.Signature.Contents
import GenericSignature.Signature.Descriptor
import GenericSignature.Signature.Display
import GenericSignature.Validation

/-!
# Documents

A method signature is exported as a document: its descriptor and everything that a reader may want
to see of it, spelled out.  Only the descriptor counts when a document is read back; the rest is
checked for its shape and otherwise ignored, and so are members that are not known.
-/

namespace GenericSignature

/-- A type parameter in a document. -/
structure ParamSummary where
  name : String
  bound : Option String
  ifaces : List String
deriving DecidableEq, Repr, Inhabited

/-- A method signature in a document. -/
structure MethodSummary where
  descriptor : String
  display : String
  tparams : List ParamSummary
  params : List String
  result : String
  throws : List String
  classes : List String
deriving DecidableEq, Repr, Inhabited

/-- The summary of a type parameter. -/
def ParamSummary.ofParam (param : TypeParam) : ParamSummary :=
  ⟨param.name, param.bound.map TypeSig.display, param.ifaces.map TypeSig.display⟩

/-- The summary of a method signature. -/
def MethodSummary.ofMethod (sig : MethodSig) : MethodSummary where
  descriptor := sig.descriptor
  display := sig.display
  tparams := sig.tparams.map ParamSummary.ofParam
  params := sig.params.map TypeSig.display
  result := sig.result.display
  throws := sig.throws.map TypeSig.display
  classes := sortedNames sig.classNames

/-- A summary of a type parameter as a JSON object. -/
def ParamSummary.toJson (param : ParamSummary) : Json :=
  .obj [("name", .str param.name),
    ("class_bound", (param.bound.map Json.str).getD .null),
    ("interface_bounds", Json.texts param.ifaces)]

/-- A summary of a method signature as a JSON object. -/
def MethodSummary.toJson (summary : MethodSummary) : Json :=
  .obj [("descriptor", .str summary.descriptor),
    ("display", .str summary.display),
    ("type_parameters", .arr (summary.tparams.map ParamSummary.toJson)),
    ("parameter_types", Json.texts summary.params),
    ("result_type", .str summary.result),
    ("throws", Json.texts summary.throws),
    ("referenced_classes", Json.texts summary.classes)]

namespace Json

/-- A text. -/
def asText : Json → Validated String
  | str value => .valid value
  | _ => .problem .notText

/-- A text, or null for none. -/
def asOptionalText : Json → Validated (Option String)
  | null => .valid none
  | value => some <$> value.asText

/-- A list whose items all pass a check. -/
def asList {α : Type} (check : Json → Validated α) : Json → Validated (List α)
  | arr items => Validated.items check items
  | _ => .problem .notList

/-- A member that has to be there. -/
def required {α : Type} (members : List (String × Json)) (name : String)
    (check : Json → Validated α) : Validated α :=
  match member? members name with
  | none => (Validated.problem .required).under name
  | some value => (check value).under name

/-- A member that may be left out. -/
def optional {α : Type} (members : List (String × Json)) (name : String)
    (check : Json → Validated α) (otherwise : α) : Validated α :=
  match member? members name with
  | none => .valid otherwise
  | some value => (check value).under name

end Json

/-- Reads the summary of a type parameter. -/
def ParamSummary.ofJson : Json → Validated ParamSummary
  | .obj members =>
      ParamSummary.mk <$> Json.required members "name" Json.asText
        <*> Json.optional members "class_bound" Json.asOptionalText none
        <*> Json.optional members "interface_bounds" (Json.asList Json.asText) []
  | _ => .problem (.notObject "TypeParameterModel")

/-- Reads the summary of a method signature. -/
def MethodSummary.ofJson : Json → Validated MethodSummary
  | .obj members =>
      MethodSummary.mk <$> Json.required members "descriptor" Json.asText
        <*> Json.required members "display" Json.asText
        <*> Json.optional members "type_parameters" (Json.asList ParamSummary.ofJson) []
        <*> Json.optional members "parameter_types" (Json.asList Json.asText) []
        <*> Json.required members "result_type" Json.asText
        <*> Json.optional members "throws" (Json.asList Json.asText) []
        <*> Json.optional members "referenced_classes" (Json.asList Json.asText) []
  | _ => .problem (.notObject "MethodSignatureModel")

end GenericSignature
