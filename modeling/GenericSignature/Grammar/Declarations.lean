import GenericSignature.Grammar.Types

/-!
# The grammar of declarations

    parameters = '<' parameter+ '>'
    parameter  = name ':' reference? (':' reference)*
    method     = parameters? '(' type* ')' type ('^' (class | variable))*
    class      = parameters? class class*

A type parameter without any bound can only be the last one of its list: after its colon the text
has to go on with another colon or with the closing bracket.
-/

namespace GenericSignature.Grammar

/-- A type parameter.  The name may start with any name character; a colon or a closing bracket
in its place means that no parameter starts here. -/
def typeParam (depth : Nat) : Production TypeParam := fun c =>
  if c = ':' ∨ c = '>' then .pass
  else if isTerminator c then .refuse .expectedIdentifier
  else .commit do
    let more ← Reader.takeWhile isNameChar
    Reader.expect ':'
    let bound ← (reference depth).attempt
    if bound.isNone then
      Reader.demand (fun next => next == ':' || next == '>') .missingClassBound
    let ifaces ← Reader.marked ':' ((reference depth).require .missingInterfaceBound)
    return ⟨String.ofList (c :: more), bound, ifaces⟩

/-- Type parameters in angle brackets. -/
def typeParams (depth : Nat) : Production (List TypeParam) :=
  bracketList (typeParam depth) .unclosedTypeParameters .missingTypeParameter .emptyTypeParameters

/-- What a method may throw: a class or a type variable. -/
def thrownType (depth : Nat) : Production TypeSig :=
  (classRef (reference depth)).orElse typeVar

/-- A method signature and nothing after it. -/
def methodOnly (depth : Nat) : Reader MethodSig := do
  let tparams ← (typeParams depth).attemptList
  Reader.expect '('
  let params ← Reader.many
    (fun c => if c = ')' then .close else (typeSig depth c).orFail .missingParameterType)
    (some .unclosedParameters)
  let result ← (typeSig depth).require .missingResultType
  let throws ← Reader.marked '^' ((thrownType depth).require .missingThrownType)
  Reader.refuse (fun _ => true) .extraAfterDescriptor
  return ⟨tparams, params, result, throws⟩

/-- A class signature, up to the end of the text. -/
def classOnly (depth : Nat) : Reader ClassSig := do
  let tparams ← (typeParams depth).attemptList
  let super ← (classRef (reference depth)).require .missingSuperclass
  let ifaces ← Reader.many
    (fun c => (classRef (reference depth) c).orFail .extraAfterDescriptor) none
  return ⟨tparams, super, ifaces⟩

end GenericSignature.Grammar

namespace GenericSignature

open Grammar

/-- Reads a whole text that may not be longer than the limit. -/
def parseWithin {α : Type} (limit : Nat) (reader : Reader α) (text : String) :
    Except GrammarError (α × List String) :=
  if text.length ≤ limit then reader.parse text
  else .error ⟨.tooLong limit, text, limit⟩

/-- Reads a type signature; answers also the names of its type variables, in order. -/
def TypeSig.parse (limit : Nat) (text : String) : Except GrammarError (TypeSig × List String) :=
  parseWithin limit (Reader.sized typeOnly) text

/-- Reads a method signature; answers also the names of its type variables, in order. -/
def MethodSig.parse (limit : Nat) (text : String) :
    Except GrammarError (MethodSig × List String) :=
  parseWithin limit (Reader.sized methodOnly) text

/-- Reads a class signature; answers also the names of its type variables, in order. -/
def ClassSig.parse (limit : Nat) (text : String) : Except GrammarError (ClassSig × List String) :=
  parseWithin limit (Reader.sized classOnly) text

end GenericSignature
