import GenericSignature.Signature.Basic

/-!
# Equality of signature trees

Two trees are equal when they are built alike.  The test below walks both trees at once;
`TypeSig.agrees_iff` and `TypeArg.agrees_iff` say that it decides equality, and the instances make
equality of every kind of signature decidable.  `distinctCount` counts trees up to equality.
-/

namespace GenericSignature

mutual

/-- Whether two type signatures are built alike. -/
def TypeSig.agrees : TypeSig → TypeSig → Bool
  | .base a, .base b => decide (a = b)
  | .classRef name args suffixes suffixArgs, .classRef name' args' suffixes' suffixArgs' =>
      decide (name = name') && argsAgree args args' && decide (suffixes = suffixes') &&
        argListsAgree suffixArgs suffixArgs'
  | .typeVar name, .typeVar name' => decide (name = name')
  | .array dims elem, .array dims' elem' => decide (dims = dims') && elem.agrees elem'
  | _, _ => false

/-- Whether two type arguments are built alike. -/
def TypeArg.agrees : TypeArg → TypeArg → Bool
  | .mk wildcard none, .mk wildcard' none => decide (wildcard = wildcard')
  | .mk wildcard (some type), .mk wildcard' (some type') =>
      decide (wildcard = wildcard') && type.agrees type'
  | _, _ => false

/-- Whether two lists of type arguments are built alike. -/
def argsAgree : List TypeArg → List TypeArg → Bool
  | [], [] => true
  | arg :: args, arg' :: args' => arg.agrees arg' && argsAgree args args'
  | _, _ => false

/-- Whether two lists of type argument lists are built alike. -/
def argListsAgree : List (List TypeArg) → List (List TypeArg) → Bool
  | [], [] => true
  | args :: lists, args' :: lists' => argsAgree args args' && argListsAgree lists lists'
  | _, _ => false

end

mutual

theorem TypeSig.agrees_iff : (left right : TypeSig) → (left.agrees right = true ↔ left = right)
  | .base a, right => by
      cases right <;> simp [TypeSig.agrees]
  | .classRef name args suffixes suffixArgs, right => by
      cases right <;>
        simp [TypeSig.agrees, argsAgree_iff args, argListsAgree_iff suffixArgs, and_assoc]
  | .typeVar name, right => by
      cases right <;> simp [TypeSig.agrees]
  | .array dims elem, right => by
      cases right <;> simp [TypeSig.agrees, elem.agrees_iff]

theorem TypeArg.agrees_iff : (left right : TypeArg) → (left.agrees right = true ↔ left = right)
  | .mk wildcard none, .mk wildcard' type' => by
      cases type' <;> simp [TypeArg.agrees]
  | .mk wildcard (some type), .mk wildcard' type' => by
      cases type' <;> simp [TypeArg.agrees, type.agrees_iff]

theorem argsAgree_iff :
    (left right : List TypeArg) → (argsAgree left right = true ↔ left = right)
  | [], right => by
      cases right <;> simp [argsAgree]
  | arg :: args, right => by
      cases right <;> simp [argsAgree, arg.agrees_iff, argsAgree_iff args]

theorem argListsAgree_iff :
    (left right : List (List TypeArg)) → (argListsAgree left right = true ↔ left = right)
  | [], right => by
      cases right <;> simp [argListsAgree]
  | args :: lists, right => by
      cases right <;> simp [argListsAgree, argsAgree_iff args, argListsAgree_iff lists]

end

instance : DecidableEq TypeSig := fun left right =>
  decidable_of_iff (left.agrees right = true) (left.agrees_iff right)

instance : DecidableEq TypeArg := fun left right =>
  decidable_of_iff (left.agrees right = true) (left.agrees_iff right)

deriving instance DecidableEq for TypeParam
deriving instance DecidableEq for MethodSig
deriving instance DecidableEq for ClassSig
deriving instance DecidableEq for Node

/-- The number of different trees in a list. -/
def distinctCount (nodes : List Node) : Nat := nodes.eraseDups.length

end GenericSignature
