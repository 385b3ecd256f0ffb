import GenericSignature.Scope.Links

/-!
# Resolution

While a text is read, the type variables in it are recorded.  Once the signature around them is
known, `resolve` links them all to it.  A record may hold other things too: they are passed over.

The variables are linked one after the other.  If one cannot be linked, the ones before it stay
linked, and the ones after it are left alone.
-/

namespace GenericSignature

/-- What is recorded while a text is read: an occurrence of a type variable, or an item of the
caller's own. -/
inductive Recorded (ι : Type) where
  | typeVar (occurrence : Occurrence) (name : String)
  | item (value : ι)

variable {ι : Type}

/-- The type variables with the given names as occurrences numbered from `first` on. -/
def occurrences (owner : SigId) (first : Nat) (names : List String) : List (Recorded ι) :=
  names.mapIdx fun i name => .typeVar ⟨owner, first + i⟩ name

/-- Links one occurrence of a type variable. -/
def LinkTable.link (table : LinkTable) (occurrence : Occurrence) (name : String)
    (method cls : Option SigId) : LinkTable × Option ScopeError :=
  match (table.get occurrence).bind method cls with
  | (links, none) => (table.set occurrence links, none)
  | (links, some kind) => (table.set occurrence links, some ⟨kind, name⟩)

/-- Links recorded type variables and adds their number to a count. -/
def LinkTable.resolveFrom (method cls : Option SigId) :
    LinkTable → Nat → List (Recorded ι) → LinkTable × Except ScopeError Nat
  | table, count, [] => (table, .ok count)
  | table, count, .item _ :: rest => resolveFrom method cls table count rest
  | table, count, .typeVar occurrence name :: rest =>
      match table.link occurrence name method cls with
      | (table, none) => resolveFrom method cls table (count + 1) rest
      | (table, some error) => (table, .error error)

/-- Links every recorded type variable to the given signatures; answers how many there are. -/
def LinkTable.resolve (table : LinkTable) (recorded : List (Recorded ι))
    (method cls : Option SigId) : LinkTable × Except ScopeError Nat :=
  table.resolveFrom method cls 0 recorded

end GenericSignature
