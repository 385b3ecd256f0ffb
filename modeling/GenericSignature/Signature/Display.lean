import GenericSignature.Signature.Basic

/-!
# Displays

The form of a signature for people, close to how the declaration is written in source text.

A class bound or a superclass whose display is `topClassName` is left out: every type has that
bound anyway.  A type argument that ought to have a type and has none displays the word for a
missing value in its place.
-/

namespace GenericSignature

/-- Displays joined by commas. -/
def commaSeparated (items : List String) : String := String.intercalate ", " items

/-- Displays in angle brackets, or nothing when there are none. -/
def angled (items : List String) : String :=
  if items.isEmpty then "" else "<" ++ commaSeparated items ++ ">"

/-- What stands in a display for a type that is missing. -/
def missingDisplay : String := "None"

/-- The display of a type argument from the display of its type. -/
def Wildcard.display (wildcard : Wildcard) (type : String) : String :=
  match wildcard with
  | .exactly => type
  | .any => "?"
  | .upper => "? extends " ++ type
  | .lower => "? super " ++ type

mutual

/-- The display of a type. -/
def TypeSig.display : TypeSig → String
  | .base type => type.keyword
  | .classRef name args suffixes suffixArgs =>
      name ++ angled (displayArgs args) ++ displaySuffixes suffixes suffixArgs
  | .typeVar name => name
  | .array dims elem => elem.display ++ String.join (List.replicate dims.toNat "[]")

/-- The display of a type argument. -/
def TypeArg.display : TypeArg → String
  | .mk wildcard none => wildcard.display missingDisplay
  | .mk wildcard (some type) => wildcard.display type.display

/-- The displays of type arguments, in order. -/
def displayArgs : List TypeArg → List String
  | [] => []
  | arg :: args => arg.display :: displayArgs args

/-- The nested classes of a class reference, each after a dot, as far as there are both names and
argument lists. -/
def displaySuffixes : List String → List (List TypeArg) → String
  | name :: names, args :: lists =>
      "." ++ name ++ angled (displayArgs args) ++ displaySuffixes names lists
  | _, [] => ""
  | [], _ :: _ => ""

end

/-- The displays of the bounds of a type parameter that are shown, the class bound first. -/
def TypeParam.shownBounds (param : TypeParam) : List String :=
  let ifaces := param.ifaces.map TypeSig.display
  match param.bound.map TypeSig.display with
  | none => ifaces
  | some bound => if bound = topClassName then ifaces else bound :: ifaces

/-- The display of a type parameter. -/
def TypeParam.display (param : TypeParam) : String :=
  let bounds := param.shownBounds
  if bounds.isEmpty then param.name
  else param.name ++ " extends " ++ String.intercalate " & " bounds

/-- The display of a method: type parameters, result, parameters, thrown types. -/
def MethodSig.display (sig : MethodSig) : String :=
  (if sig.tparams.isEmpty then "" else angled (sig.tparams.map TypeParam.display) ++ " ") ++
    sig.result.display ++ " (" ++ commaSeparated (sig.params.map TypeSig.display) ++ ")" ++
    (if sig.throws.isEmpty then ""
      else " throws " ++ commaSeparated (sig.throws.map TypeSig.display))

/-- The parts of the display of a class that are shown: type parameters, superclass,
interfaces. -/
def ClassSig.shownParts (sig : ClassSig) : List String :=
  (if sig.tparams.isEmpty then [] else [angled (sig.tparams.map TypeParam.display)]) ++
    (if sig.super.display = topClassName then [] else ["extends " ++ sig.super.display]) ++
    (if sig.ifaces.isEmpty then []
      else ["implements " ++ commaSeparated (sig.ifaces.map TypeSig.display)])

/-- The display of a class, its parts divided by spaces. -/
def ClassSig.display (sig : ClassSig) : String :=
  String.intercalate " " sig.shownParts

/-- The display of any signature tree. -/
def Node.display : Node → String
  | .type tree => tree.display
  | .arg tree => tree.display
  | .param tree => tree.display
  | .method tree => tree.display
  | .cls tree => tree.display

end GenericSignature
