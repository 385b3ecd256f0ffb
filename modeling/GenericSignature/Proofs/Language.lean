import GenericSignature.Signature.Basic

/-!
# The language of signatures

Which text derives which tree, production by production and without any reader:

    type       = one of B C D F I J S Z V | reference
    reference  = class | variable | '['+ type
    class      = 'L' identifier ('/' identifier)* arguments? ('.' identifier arguments?)* ';'
    variable   = 'T' identifier ';'
    arguments  = '<' argument+ '>'
    argument   = '*' | ('+' | '-')? reference
    parameters = '<' parameter+ '>'
    parameter  = identifier ':' reference? (':' reference)*
    method     = parameters? '(' type* ')' type ('^' (class | variable))*
    class sig. = parameters? class class*

Two rules are not visible in the productions.  All brackets in front of an element type belong to
one array, so the text of the element does not start with a bracket.  A type parameter without any
bound stands last in its list.

The rules say what may be written, never how far a name or a list reaches: that the text alone
decides it is a theorem about the readers (`Grammar.Decides.unambiguous`).
-/

namespace GenericSignature.Grammar

/-- A language with meanings: which text stands for which value. -/
abbrev Language (α : Type) : Type := List Char → α → Prop

/-! ## Texts built from texts -/

section Combinations

variable {α : Type}

/-- Texts of a language, one after the other. -/
inductive Repeats (Item : Language α) : Language (List α)
  | nil : Repeats Item [] []
  | cons {text rest : List Char} {value : α} {values : List α} :
      Item text value → Repeats Item rest values → Repeats Item (text ++ rest) (value :: values)

/-- Texts of a language, each after a mark. -/
inductive Marked (mark : Char) (Item : Language α) : Language α
  | mk {text : List Char} {value : α} : Item text value → Marked mark Item (mark :: text) value

/-- A text of a language, or nothing. -/
inductive Optional (Item : Language α) : Language (Option α)
  | absent : Optional Item [] none
  | present {text : List Char} {value : α} : Item text value → Optional Item text (some value)

/-- One text of a language or more, in angle brackets; or nothing. -/
inductive Bracketed (Item : Language α) : Language (List α)
  | absent : Bracketed Item [] []
  | listed {text : List Char} {values : List α} :
      Repeats Item text values → values ≠ [] → Bracketed Item ('<' :: text ++ ['>']) values

end Combinations

/-! ## Identifiers and types -/

/-- An identifier is not empty and holds none of the characters that the productions write between
identifiers. -/
def IsIdentifier (name : String) : Prop :=
  name.toList ≠ [] ∧ ∀ c ∈ name.toList, c ∉ ['.', ';', '[', '/', '<', '>', ':']

instance : DecidablePred IsIdentifier := fun name =>
  let _ : Decidable (∀ c ∈ name.toList, c ∉ ['.', ';', '[', '/', '<', '>', ':']) :=
    List.decidableBAll _ _
  inferInstanceAs (Decidable (_ ∧ _))

/-- An identifier stands for itself. -/
inductive DerivesIdentifier : Language String
  | mk {name : String} : IsIdentifier name → DerivesIdentifier name.toList name

/-- The primitive types by their letters. -/
def primitives : List (Char × BaseType) :=
  [('B', .byte), ('C', .char), ('D', .double), ('F', .float), ('I', .int), ('J', .long),
    ('S', .short), ('Z', .boolean), ('V', .void)]

/-- A type variable. -/
inductive DerivesTypeVar : Language TypeSig
  | mk {text : List Char} {name : String} :
      DerivesIdentifier text name → DerivesTypeVar ('T' :: text ++ [';']) (.typeVar name)

mutual

/-- A primitive type or a reference. -/
inductive DerivesType : List Char → TypeSig → Prop
  | primitive {code : Char} {type : BaseType} :
      (code, type) ∈ primitives → DerivesType [code] (.base type)
  | reference {text : List Char} {tree : TypeSig} :
      DerivesReference text tree → DerivesType text tree

/-- A class, a type variable or an array. -/
inductive DerivesReference : List Char → TypeSig → Prop
  | classRef {text : List Char} {tree : TypeSig} :
      DerivesClassRef text tree → DerivesReference text tree
  | typeVar {text : List Char} {tree : TypeSig} :
      DerivesTypeVar text tree → DerivesReference text tree
  | array {dims : Nat} {text : List Char} {elem : TypeSig} :
      0 < dims → DerivesType text elem → text.head? ≠ some '[' →
      DerivesReference (List.replicate dims '[' ++ text) (.array dims elem)

/-- A class: packages and name, type arguments, nested classes. -/
inductive DerivesClassRef : List Char → TypeSig → Prop
  | mk {outerText partsText argsText suffixesText : List Char} {outer : String}
      {parts : List String} {args : List TypeArg} {suffixes : List (String × List TypeArg)} :
      DerivesIdentifier outerText outer → Repeats (Marked '/' DerivesIdentifier) partsText parts →
      Bracketed DerivesArg argsText args → Repeats DerivesSuffix suffixesText suffixes →
      DerivesClassRef ('L' :: outerText ++ partsText ++ argsText ++ suffixesText ++ [';'])
        (.classRef (String.intercalate "." (outer :: parts)) args
          (suffixes.map Prod.fst) (suffixes.map Prod.snd))

/-- A nested class with its type arguments. -/
inductive DerivesSuffix : List Char → String × List TypeArg → Prop
  | mk {nameText argsText : List Char} {name : String} {args : List TypeArg} :
      DerivesIdentifier nameText name → Bracketed DerivesArg argsText args →
      DerivesSuffix ('.' :: nameText ++ argsText) (name, args)

/-- A type argument. -/
inductive DerivesArg : List Char → TypeArg → Prop
  | any : DerivesArg ['*'] (.mk .any none)
  | upper {text : List Char} {tree : TypeSig} :
      DerivesReference text tree → DerivesArg ('+' :: text) (.mk .upper (some tree))
  | lower {text : List Char} {tree : TypeSig} :
      DerivesReference text tree → DerivesArg ('-' :: text) (.mk .lower (some tree))
  | exactly {text : List Char} {tree : TypeSig} :
      DerivesReference text tree → DerivesArg text (.mk .exactly (some tree))

end

/-! ## Declarations -/

/-- A type parameter: after the colon the class bound, which may be missing, then the interface
bounds. -/
inductive DerivesParam : Language TypeParam
  | mk {nameText boundText ifacesText : List Char} {name : String} {bound : Option TypeSig}
      {ifaces : List TypeSig} :
      DerivesIdentifier nameText name → Optional DerivesReference boundText bound →
      Repeats (Marked ':' DerivesReference) ifacesText ifaces →
      DerivesParam (nameText ++ ':' :: boundText ++ ifacesText) ⟨name, bound, ifaces⟩

/-- Whether a type parameter has a bound of either kind. -/
def IsBounded (param : TypeParam) : Prop := param.bound ≠ none ∨ param.ifaces ≠ []

/-- Only the last parameter of a list may be without bounds. -/
def BoundedBeforeLast (params : List TypeParam) : Prop := ∀ param ∈ params.dropLast, IsBounded param

/-- The type parameters of a declaration. -/
inductive DerivesParams : Language (List TypeParam)
  | mk {text : List Char} {params : List TypeParam} :
      Bracketed DerivesParam text params → BoundedBeforeLast params → DerivesParams text params

/-- What a method may throw. -/
inductive DerivesThrown : Language TypeSig
  | classRef {text : List Char} {tree : TypeSig} :
      DerivesClassRef text tree → DerivesThrown text tree
  | typeVar {text : List Char} {tree : TypeSig} :
      DerivesTypeVar text tree → DerivesThrown text tree

/-- A method signature. -/
inductive DerivesMethod : Language MethodSig
  | mk {tparamsText paramsText resultText throwsText : List Char} {tparams : List TypeParam}
      {params : List TypeSig} {result : TypeSig} {throws : List TypeSig} :
      DerivesParams tparamsText tparams → Repeats DerivesType paramsText params →
      DerivesType resultText result → Repeats (Marked '^' DerivesThrown) throwsText throws →
      DerivesMethod (tparamsText ++ '(' :: paramsText ++ ')' :: resultText ++ throwsText)
        ⟨tparams, params, result, throws⟩

/-- A class signature. -/
inductive DerivesClass : Language ClassSig
  | mk {tparamsText superText ifacesText : List Char} {tparams : List TypeParam}
      {super : TypeSig} {ifaces : List TypeSig} :
      DerivesParams tparamsText tparams → DerivesClassRef superText super →
      Repeats DerivesClassRef ifacesText ifaces →
      DerivesClass (tparamsText ++ superText ++ ifacesText) ⟨tparams, super, ifaces⟩

end GenericSignature.Grammar
