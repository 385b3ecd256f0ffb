import GenericSignature.Signature.Basic

/-!
# Descriptors

The compact text form of a signature, the one that class files carry.  A descriptor is built as a
list of characters (`encode`), which is what the grammar reads, and handed out as a text
(`descriptor`).

In a descriptor the parts of a package are divided by slashes, nested classes follow a dot, and an
array writes one bracket for each dimension.  Names and arguments of nested classes are written in
pairs, as far as both lists go.
-/

namespace GenericSignature

/-- A class name as a descriptor writes it: with slashes for dots. -/
def slashed (name : String) : List Char :=
  name.toList.map fun c => if c = '.' then '/' else c

/-- Type arguments stand in angle brackets, and no brackets are written for none of them. -/
def bracketed {α : Type} (items : List α) (written : List Char) : List Char :=
  if items.isEmpty then [] else '<' :: written ++ ['>']

mutual

/-- The descriptor of a type. -/
def TypeSig.encode : TypeSig → List Char
  | .base type => [type.code]
  | .classRef name args suffixes suffixArgs =>
      'L' :: slashed name ++ bracketed args (encodeArgs args) ++
        encodeSuffixes suffixes suffixArgs ++ [';']
  | .typeVar name => 'T' :: name.toList ++ [';']
  | .array dims elem => List.replicate dims.toNat '[' ++ elem.encode

/-- The descriptor of a type argument: its marker, then its type if it has one. -/
def TypeArg.encode : TypeArg → List Char
  | .mk wildcard none => wildcard.marker
  | .mk wildcard (some type) => wildcard.marker ++ type.encode

/-- The descriptors of type arguments, one after the other. -/
def encodeArgs : List TypeArg → List Char
  | [] => []
  | arg :: args => arg.encode ++ encodeArgs args

/-- The nested classes of a class reference, each after a dot, as far as there are both names and
argument lists. -/
def encodeSuffixes : List String → List (List TypeArg) → List Char
  | name :: names, args :: lists =>
      '.' :: name.toList ++ bracketed args (encodeArgs args) ++ encodeSuffixes names lists
  | _, [] => []
  | [], _ :: _ => []

end

/-- The descriptor of a type parameter: the name, a colon with the class bound (which may be
empty), and a colon before each interface bound. -/
def TypeParam.encode (param : TypeParam) : List Char :=
  param.name.toList ++ ':' :: (param.bound.map TypeSig.encode).getD [] ++
    param.ifaces.flatMap fun iface => ':' :: iface.encode

/-- The descriptor of a list of type parameters. -/
def encodeParams (params : List TypeParam) : List Char :=
  bracketed params (params.flatMap TypeParam.encode)

/-- The descriptor of a method: type parameters, parameter types in parentheses, the result, and
each thrown type after a caret. -/
def MethodSig.encode (sig : MethodSig) : List Char :=
  encodeParams sig.tparams ++ '(' :: sig.params.flatMap TypeSig.encode ++ ')' ::
    sig.result.encode ++ sig.throws.flatMap fun thrown => '^' :: thrown.encode

/-- The descriptor of a class: type parameters, superclass, interfaces. -/
def ClassSig.encode (sig : ClassSig) : List Char :=
  encodeParams sig.tparams ++ sig.super.encode ++ sig.ifaces.flatMap TypeSig.encode

/-- The descriptor of any signature tree, as characters. -/
def Node.encode : Node → List Char
  | .type tree => tree.encode
  | .arg tree => tree.encode
  | .param tree => tree.encode
  | .method tree => tree.encode
  | .cls tree => tree.encode

/-- The descriptor of a type, as a text. -/
def TypeSig.descriptor (type : TypeSig) : String := String.ofList type.encode

/-- The descriptor of a type argument, as a text. -/
def TypeArg.descriptor (arg : TypeArg) : String := String.ofList arg.encode

/-- The descriptor of a type parameter, as a text. -/
def TypeParam.descriptor (param : TypeParam) : String := String.ofList param.encode

/-- The descriptor of a method, as a text. -/
def MethodSig.descriptor (sig : MethodSig) : String := String.ofList sig.encode

/-- The descriptor of a class, as a text. -/
def ClassSig.descriptor (sig : ClassSig) : String := String.ofList sig.encode

/-- The descriptor of any signature tree, as a text. -/
def Node.descriptor (node : Node) : String := String.ofList node.encode

end GenericSignature
