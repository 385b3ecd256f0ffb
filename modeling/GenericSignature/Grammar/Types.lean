import GenericSignature.Grammar.Production
import GenericSignature.Signature.Basic

/-!
# The grammar of types

    type      = base | reference
    reference = class | variable | array
    class     = 'L' name ('/' name)* arguments? ('.' name arguments?)* ';'
    variable  = 'T' name ';'
    array     = '['+ type
    arguments = '<' argument+ '>'
    argument  = '*' | ('+' | '-')? reference

The productions of a reference take the production of the references nested in it as a parameter.
`reference` ties the knot by nesting depth: `reference depth` reads references that are nested less
than `depth` deep.  Each level takes at least one character, so the number of characters left is
always depth enough.
-/

namespace GenericSignature.Grammar

/-- Primitive types: one character each. -/
def baseType : Production TypeSig := fun c =>
  match BaseType.ofCode? c with
  | none => .pass
  | some type => .commit (return .base type)

/-- Type variables.  Each one read is noted by name. -/
def typeVar : Production TypeSig :=
  Production.starting 'T' do
    let name ← identifier
    Reader.expect ';'
    Reader.record name
    return .typeVar name

section Nested

variable (nested : Production TypeSig)

/-- A type argument: an unbounded wildcard, a wildcard with a bound, or a reference. -/
def typeArg : Production TypeArg :=
  (Production.starting '*' (return .mk .any none)).orElse <|
  (Production.starting '+' do
    return .mk .upper (some (← nested.require .missingWildcardBound))).orElse <|
  (Production.starting '-' do
    return .mk .lower (some (← nested.require .missingWildcardBound))).orElse <|
  nested.map fun type => .mk .exactly (some type)

/-- Type arguments in angle brackets. -/
def typeArgs : Production (List TypeArg) :=
  bracketList (typeArg nested) .unclosedTypeArguments .missingTypeArgument .emptyTypeArguments

/-- Class references: a name with its packages, type arguments, and nested classes. -/
def classRef : Production TypeSig :=
  Production.starting 'L' do
    let outer ← identifier
    let parts ← Reader.marked '/' identifier
    let args ← (typeArgs nested).attemptList
    let suffixes ← Reader.marked '.' do
      let name ← identifier
      let args ← (typeArgs nested).attemptList
      return (name, args)
    Reader.expect ';'
    return .classRef (String.intercalate "." (outer :: parts)) args
      (suffixes.map Prod.fst) (suffixes.map Prod.snd)

/-- Arrays: all brackets in a row make one array. -/
def arrayType : Production TypeSig :=
  Production.starting '[' do
    let more ← Reader.takeWhile fun c => c == '['
    let elem ← (baseType.orElse nested).require .missingElementType
    return .array (more.length + 1) elem

end Nested

/-- Reference types that are nested less than `depth` deep. -/
def reference : Nat → Production TypeSig
  | 0 => fun _ => .pass
  | depth + 1 =>
      ((classRef (reference depth)).orElse typeVar).orElse (arrayType (reference depth))

/-- Types that are nested at most `depth` deep. -/
def typeSig (depth : Nat) : Production TypeSig := baseType.orElse (reference depth)

/-- A type and nothing after it. -/
def typeOnly (depth : Nat) : Reader TypeSig := do
  let type ← (typeSig depth).require .missingType
  Reader.refuse (fun _ => true) .extraAfterType
  return type

end GenericSignature.Grammar
