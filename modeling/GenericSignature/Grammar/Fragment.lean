import GenericSignature.Grammar.Declarations

/-!
# Fragments

The productions that can be read on their own, by name, and what they give: nothing, one tree, or a
list of trees.
-/

namespace GenericSignature

open Grammar

/-- A production that can be read on its own. -/
inductive Nonterminal where
  | type
  | reference
  | base
  | classRef
  | typeVar
  | array
  | typeArg
  | typeArgs
  | typeParam
  | typeParams
deriving DecidableEq, Repr, Inhabited

/-- What a production gives: nothing if it does not start at the place, else a tree or a list of
trees. -/
inductive Fragment where
  | absent
  | one (node : Node)
  | many (nodes : List Node)
deriving Inhabited

/-- The fragment of a tree that may be missing. -/
def Fragment.ofOption : Option Node → Fragment
  | none => absent
  | some node => one node

namespace Nonterminal

/-- Reads a production that gives one tree. -/
def single {α : Type} (node : α → Node) (production : Nat → Production α) : Reader Fragment :=
  Reader.sized fun depth => do
    return .ofOption ((← (production depth).attempt).map node)

/-- Reads a production that gives a list of trees. -/
def several {α : Type} (node : α → Node) (production : Nat → Production (List α)) :
    Reader Fragment :=
  Reader.sized fun depth => do
    return .many ((← (production depth).attemptList).map node)

/-- Reads the production. -/
def reader : Nonterminal → Reader Fragment
  | type => single Node.type typeSig
  | reference => single Node.type Grammar.reference
  | base => single Node.type fun _ => baseType
  | classRef => single Node.type fun depth => Grammar.classRef (Grammar.reference depth)
  | typeVar => single Node.type fun _ => Grammar.typeVar
  | array => single Node.type fun depth => arrayType (Grammar.reference depth)
  | typeArg => single Node.arg fun depth => Grammar.typeArg (Grammar.reference depth)
  | typeArgs => several Node.arg fun depth => Grammar.typeArgs (Grammar.reference depth)
  | typeParam => single Node.param Grammar.typeParam
  | typeParams => several Node.param Grammar.typeParams

end Nonterminal

end GenericSignature
