import GenericSignature.Text.Quoted

/-!
# Grammar errors

A text that is not a signature is refused for a reason (`Fault`) at a position of the text
(`GrammarError`).  Positions count code points.  A negative position counts from the end of the
text, and a position outside the text stands for the nearer end of it.
-/

namespace GenericSignature

/-- Why a text is not a signature. -/
inductive Fault where
  /-- The text is longer than the limit allows. -/
  | tooLong (limit : Nat)
  /-- A character was asked for after the last one. -/
  | unexpectedEnd
  /-- Another character, or none, stands where `literal` has to stand. -/
  | expected (literal : String) (found : Option Char)
  /-- An identifier has to stand here. -/
  | expectedIdentifier
  | missingWildcardBound
  | unclosedTypeArguments
  | missingTypeArgument
  | emptyTypeArguments
  | missingElementType
  | missingType
  | extraAfterType
  | missingClassBound
  | missingInterfaceBound
  | unclosedTypeParameters
  | missingTypeParameter
  | emptyTypeParameters
  | unclosedParameters
  | missingParameterType
  | missingResultType
  | missingThrownType
  | missingSuperclass
  | extraAfterDescriptor
  /-- A reason in the words of the caller. -/
  | other (message : String)
deriving DecidableEq, Repr, Inhabited

/-- The wording of a fault. -/
def Fault.message : Fault → String
  | tooLong limit => "Signature exceeds maximum length of " ++ toString limit ++ " characters"
  | unexpectedEnd => "Unexpected end of input"
  | expected literal found =>
      "Expected '" ++ literal ++ "', found " ++
        match found with
        | none => "end of input"
        | some c => Text.quote (String.singleton c)
  | expectedIdentifier => "Expected identifier"
  | missingWildcardBound => "Missing wildcard bound type signature"
  | unclosedTypeArguments => "Ran out of input while parsing type arguments"
  | missingTypeArgument => "Missing type argument"
  | emptyTypeArguments => "Empty type argument list"
  | missingElementType => "Missing array element type signature"
  | missingType => "Missing type signature"
  | extraAfterType => "Extra characters at end of type signature"
  | missingClassBound => "Missing type parameter class bound"
  | missingInterfaceBound => "Missing type parameter interface bound"
  | unclosedTypeParameters => "Ran out of input while parsing type parameters"
  | missingTypeParameter => "Missing type parameter"
  | emptyTypeParameters => "Empty type parameter list"
  | unclosedParameters => "Ran out of input while parsing method signature"
  | missingParameterType => "Missing method parameter type signature"
  | missingResultType => "Missing method result type signature"
  | missingThrownType => "Missing type variable signature"
  | missingSuperclass => "Missing superclass type signature"
  | extraAfterDescriptor => "Extra characters at end of type descriptor"
  | other message => message

/-- A fault and the place in a text where it was found. -/
structure GrammarError where
  fault : Fault
  text : String
  position : Int
deriving DecidableEq, Repr, Inhabited

namespace GrammarError

/-- The wording of an error, without its place. -/
def message (error : GrammarError) : String := error.fault.message

/-- The number of characters before a position: a negative position counts from the end, and a
position before the first character is that of the first one. -/
def offset (length : Nat) (position : Int) : Nat :=
  if position < 0 then (length + position).toNat else position.toNat

/-- The error with its place marked by an arrow in the text. -/
def describe (error : GrammarError) : String :=
  let text := error.text.toList
  let before := offset text.length error.position
  error.message ++ " (at position " ++ toString error.position ++ "): " ++
    String.ofList (text.take before) ++ " -->" ++ String.ofList (text.drop before)

end GrammarError

end GenericSignature
