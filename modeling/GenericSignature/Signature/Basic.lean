/-!
# Signature trees

The nodes of a parsed generic signature: types, type arguments, type parameters, and the two
declarations that carry them, methods and classes.

The trees are plain data.  A tree says what is written, not where it came from: which signature a
type variable belongs to is recorded beside the tree, in `GenericSignature.Scope`.  Nor does a tree
promise to be a signature that could have been read: names are arbitrary texts, an array may have
no dimensions, and the names and the arguments of nested classes are two lists that need not have
one length.  Every operation on trees is defined for all of them.
-/

namespace GenericSignature

/-- The primitive types, and `void`. -/
inductive BaseType where
  | byte
  | char
  | double
  | float
  | int
  | long
  | short
  | boolean
  | void
deriving DecidableEq, Repr, Inhabited

namespace BaseType

/-- The character that stands for a primitive type in a descriptor. -/
def code : BaseType → Char
  | byte => 'B'
  | char => 'C'
  | double => 'D'
  | float => 'F'
  | int => 'I'
  | long => 'J'
  | short => 'S'
  | boolean => 'Z'
  | void => 'V'

/-- The keyword of a primitive type in source text. -/
def keyword : BaseType → String
  | byte => "byte"
  | char => "char"
  | double => "double"
  | float => "float"
  | int => "int"
  | long => "long"
  | short => "short"
  | boolean => "boolean"
  | void => "void"

/-- All primitive types, in the alphabetical order of their codes (`boolean` and `void` last). -/
def all : List BaseType :=
  [byte, char, double, float, int, long, short, boolean, void]

/-- The primitive type that a character stands for, if any. -/
def ofCode? (c : Char) : Option BaseType :=
  all.find? fun base => base.code == c

/-- The primitive type with the given keyword, if any. -/
def ofKeyword? (word : String) : Option BaseType :=
  all.find? fun base => base.keyword == word

@[simp]
theorem ofCode?_code (base : BaseType) : ofCode? base.code = some base := by
  cases base <;> decide

theorem code_of_ofCode? {c : Char} {base : BaseType} (found : ofCode? c = some base) :
    base.code = c := by
  simpa using List.find?_some found

end BaseType

/-- How a type argument uses its type: as it is, not at all, as an upper bound or as a lower
bound. -/
inductive Wildcard where
  | exactly
  | any
  | upper
  | lower
deriving DecidableEq, Repr, Inhabited

/-- The text of a wildcard marker in a descriptor. -/
def Wildcard.marker : Wildcard → List Char
  | exactly => []
  | any => ['*']
  | upper => ['+']
  | lower => ['-']

mutual

/-- A type signature. -/
inductive TypeSig where
  /-- A primitive type, or `void`. -/
  | base (type : BaseType)
  /-- A class with its type arguments, then the classes nested in it: `suffixes` holds their
  names and `suffixArgs` the type arguments of each of them. -/
  | classRef (name : String) (args : List TypeArg) (suffixes : List String)
      (suffixArgs : List (List TypeArg))
  /-- A use of a type variable. -/
  | typeVar (name : String)
  /-- An array of the given number of dimensions. -/
  | array (dims : Int) (elem : TypeSig)

/-- A type argument of a class reference: a wildcard marker and the type that it is about. -/
inductive TypeArg where
  | mk (wildcard : Wildcard) (type : Option TypeSig)

end

instance : Inhabited TypeSig := ⟨.base default⟩
instance : Inhabited TypeArg := ⟨.mk default none⟩

/-- A type parameter with its bounds.  The class bound may be missing, which is how a parameter
that is bounded by interfaces only is written. -/
structure TypeParam where
  name : String
  bound : Option TypeSig
  ifaces : List TypeSig

/-- A method signature. -/
structure MethodSig where
  tparams : List TypeParam
  params : List TypeSig
  result : TypeSig
  throws : List TypeSig

/-- A class signature. -/
structure ClassSig where
  tparams : List TypeParam
  super : TypeSig
  ifaces : List TypeSig

/-- A signature tree of any of the five kinds. -/
inductive Node where
  | type (tree : TypeSig)
  | arg (tree : TypeArg)
  | param (tree : TypeParam)
  | method (tree : MethodSig)
  | cls (tree : ClassSig)

/-- The binary name of a nested class: the outer name and the nested names, joined by dollar
signs. -/
def qualifiedName (name : String) (suffixes : List String) : String :=
  String.intercalate "$" (name :: suffixes)

/-- The name of the class at the top of every class hierarchy.  Bounds and superclasses that
display as this name are left out of a display. -/
def topClassName : String := "java.lang.Object"

end GenericSignature
