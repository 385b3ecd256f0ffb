import Std.Data.HashMap

/-!
# Back-links

A type variable is written inside a signature, and is linked to the method signature and to the
class signature around it.  Signatures and occurrences of type variables have identities, because
two equal signatures are still two signatures: a link says which of them is meant.

Each of the two links of an occurrence can be set once.  Setting a link that is set already is a
`ScopeError`, and leaves that link as it was.  The method link is set before the class link is
looked at, so it stays set when the class link is refused.
-/

namespace GenericSignature

/-- The identity of a signature: a serial number that no other signature has. -/
structure SigId where
  serial : Nat
deriving DecidableEq, Hashable, Repr, Inhabited

/-- The identity of an occurrence of a type variable: the text it was read from or the tree it
belongs to, and its number there. -/
structure Occurrence where
  owner : SigId
  index : Nat
deriving DecidableEq, Hashable, Repr, Inhabited

/-- The two kinds of signature that a type variable is linked to. -/
inductive ScopeKind where
  | method
  | cls
deriving DecidableEq, Repr, Inhabited

/-- A link that was to be set and was set before. -/
structure ScopeError where
  kind : ScopeKind
  name : String
deriving DecidableEq, Repr, Inhabited

/-- The wording of a scope error. -/
def ScopeError.message (error : ScopeError) : String :=
  let kind := match error.kind with
    | .method => "Method"
    | .cls => "Class"
  kind ++ " back-link of type variable " ++ error.name ++ " already set"

/-- The links of an occurrence of a type variable. -/
structure Links where
  method : Option SigId
  cls : Option SigId
deriving DecidableEq, Repr, Inhabited

namespace Links

/-- No link set. -/
def unset : Links := ⟨none, none⟩

/-- A link after an attempt to set it, or nothing if it was set before.  To set it to nothing
changes nothing. -/
def setOnce (old new : Option SigId) : Option (Option SigId) :=
  match old, new with
  | old, none => some old
  | none, some id => some (some id)
  | some _, some _ => none

/-- Sets the links that are given, the method link first.  Answers the links afterwards, and the
kind of link that was refused, if one was. -/
def bind (links : Links) (method cls : Option SigId) : Links × Option ScopeKind :=
  match setOnce links.method method with
  | none => (links, some .method)
  | some method =>
      match setOnce links.cls cls with
      | none => (⟨method, links.cls⟩, some .cls)
      | some cls => (⟨method, cls⟩, none)

end Links

/-- The links of all occurrences of type variables. -/
structure LinkTable where
  entries : Std.HashMap Occurrence Links

namespace LinkTable

/-- The table in which no link is set. -/
def empty : LinkTable := ⟨∅⟩

instance : Inhabited LinkTable := ⟨empty⟩

/-- The links of an occurrence. -/
def get (table : LinkTable) (occurrence : Occurrence) : Links :=
  table.entries.getD occurrence .unset

/-- The table with other links for one occurrence. -/
def set (table : LinkTable) (occurrence : Occurrence) (links : Links) : LinkTable :=
  ⟨table.entries.insert occurrence links⟩

@[simp]
theorem get_empty (occurrence : Occurrence) : empty.get occurrence = .unset := by
  simp [get, empty]

theorem get_set (table : LinkTable) (occurrence other : Occurrence) (links : Links) :
    (table.set occurrence links).get other =
      if occurrence = other then links else table.get other := by
  simp [get, set, Std.HashMap.getD_insert]

end LinkTable

end GenericSignature
