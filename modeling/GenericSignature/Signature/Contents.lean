import GenericSignature.Signature.Basic

/-!
# What a signature mentions

The classes that a signature refers to and the type variables that occur in it, each listed in the
order of the text.  All argument lists of a class reference are searched, also those that no
nested class name goes with.

`sortedNames` turns a list of names into the ascending list of its distinct members, in the order
of code points.
-/

namespace GenericSignature

mutual

/-- The binary names of the classes that a type refers to, with repetitions. -/
def TypeSig.classNames : TypeSig → List String
  | .base _ => []
  | .classRef name args suffixes suffixArgs =>
      qualifiedName name suffixes :: (argsClassNames args ++ argListsClassNames suffixArgs)
  | .typeVar _ => []
  | .array _ elem => elem.classNames

/-- The classes that a type argument refers to. -/
def TypeArg.classNames : TypeArg → List String
  | .mk _ none => []
  | .mk _ (some type) => type.classNames

/-- The classes that type arguments refer to. -/
def argsClassNames : List TypeArg → List String
  | [] => []
  | arg :: args => arg.classNames ++ argsClassNames args

/-- The classes that lists of type arguments refer to. -/
def argListsClassNames : List (List TypeArg) → List String
  | [] => []
  | args :: lists => argsClassNames args ++ argListsClassNames lists

end

/-- The classes that a type parameter refers to. -/
def TypeParam.classNames (param : TypeParam) : List String :=
  (param.bound.map TypeSig.classNames).getD [] ++ param.ifaces.flatMap TypeSig.classNames

/-- The classes that a method signature refers to. -/
def MethodSig.classNames (sig : MethodSig) : List String :=
  sig.tparams.flatMap TypeParam.classNames ++ sig.params.flatMap TypeSig.classNames ++
    sig.result.classNames ++ sig.throws.flatMap TypeSig.classNames

/-- The classes that a class signature refers to. -/
def ClassSig.classNames (sig : ClassSig) : List String :=
  sig.tparams.flatMap TypeParam.classNames ++ sig.super.classNames ++
    sig.ifaces.flatMap TypeSig.classNames

/-- The classes that a signature tree refers to. -/
def Node.classNames : Node → List String
  | .type tree => tree.classNames
  | .arg tree => tree.classNames
  | .param tree => tree.classNames
  | .method tree => tree.classNames
  | .cls tree => tree.classNames

/-- Adds names to names that were found before, one after the other.  A name that is there already
is not added again. -/
def addNames (found names : List String) : List String :=
  names.foldl (fun found name => found.insert name) found

/-- Adds the classes that a signature tree refers to, in the order of the text, to names that were
found before. -/
def Node.addClassNames (node : Node) (found : List String) : List String :=
  addNames found node.classNames

mutual

/-- The names of the type variables of a type, one for each occurrence. -/
def TypeSig.typeVars : TypeSig → List String
  | .base _ => []
  | .classRef _ args _ suffixArgs => argsTypeVars args ++ argListsTypeVars suffixArgs
  | .typeVar name => [name]
  | .array _ elem => elem.typeVars

/-- The type variables of a type argument. -/
def TypeArg.typeVars : TypeArg → List String
  | .mk _ none => []
  | .mk _ (some type) => type.typeVars

/-- The type variables of type arguments. -/
def argsTypeVars : List TypeArg → List String
  | [] => []
  | arg :: args => arg.typeVars ++ argsTypeVars args

/-- The type variables of lists of type arguments. -/
def argListsTypeVars : List (List TypeArg) → List String
  | [] => []
  | args :: lists => argsTypeVars args ++ argListsTypeVars lists

end

/-- The type variables of a type parameter. -/
def TypeParam.typeVars (param : TypeParam) : List String :=
  (param.bound.map TypeSig.typeVars).getD [] ++ param.ifaces.flatMap TypeSig.typeVars

/-- The type variables of a method signature. -/
def MethodSig.typeVars (sig : MethodSig) : List String :=
  sig.tparams.flatMap TypeParam.typeVars ++ sig.params.flatMap TypeSig.typeVars ++
    sig.result.typeVars ++ sig.throws.flatMap TypeSig.typeVars

/-- The type variables of a class signature. -/
def ClassSig.typeVars (sig : ClassSig) : List String :=
  sig.tparams.flatMap TypeParam.typeVars ++ sig.super.typeVars ++
    sig.ifaces.flatMap TypeSig.typeVars

/-- The type variables of a signature tree. -/
def Node.typeVars : Node → List String
  | .type tree => tree.typeVars
  | .arg tree => tree.typeVars
  | .param tree => tree.typeVars
  | .method tree => tree.typeVars
  | .cls tree => tree.typeVars

/-- The order of code points on texts: the first difference decides, and a text comes before its
continuations. -/
def codePointsLe : List Char → List Char → Bool
  | [], _ => true
  | _ :: _, [] => false
  | c :: s, d :: t => if c = d then codePointsLe s t else Nat.ble c.toNat d.toNat

/-- The distinct names of a list, ascending in the order of code points. -/
def sortedNames (names : List String) : List String :=
  ((names.map String.toList).mergeSort codePointsLe).eraseReps.map String.ofList

/-- The classes that a signature tree refers to, each once and in order. -/
def Node.sortedClassNames (node : Node) : List String := sortedNames node.classNames

end GenericSignature
