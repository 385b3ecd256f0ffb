import GenericSignature.Cursor
import GenericSignature.Grammar.Fragment
import GenericSignature.Session.Basic
import GenericSignature.Signature.Descriptor
import GenericSignature.Signature.Equality

/-!
# Reading a descriptor back

Every tree has a descriptor, but not every tree is what its descriptor says: a tree that was put
together by hand may have a descriptor that is malformed, or that is the descriptor of another
tree.  `rereads` finds out by reading.
-/

namespace GenericSignature.SessionM

/-- Reads the descriptor of a tree as the given production; answers whether it gives the tree and
takes the whole text. -/
def rereadsAs (nonterminal : Nonterminal) (node : Node) : Except GrammarError Bool :=
  let cursor : Cursor Empty := Cursor.start ⟨0⟩ node.descriptor
  match cursor.read nonterminal.reader with
  | (.error error, _) => .error error
  | (.ok (.one read), moved) => .ok (decide (read = node) && !moved.hasMore)
  | (.ok _, _) => .ok false

/-- Whether reading the descriptor of a tree gives the tree back.  Types, methods and classes are
parsed as a whole, under the settings; the other trees are read as productions. -/
def rereads (node : Node) : SessionM (Except GrammarError Bool) := do
  match node with
  | .type _ => same (← tryGrammar (parseType node.descriptor)) Node.type
  | .method _ => same (← tryGrammar (parseMethod node.descriptor none)) Node.method
  | .cls _ => same (← tryGrammar (parseClass node.descriptor)) Node.cls
  | .arg _ => return rereadsAs .typeArg node
  | .param _ => return rereadsAs .typeParam node
where
  /-- Compares a parsed tree with the given one. -/
  same {α : Type} (answer : Except GrammarError (Registered α)) (kind : α → Node) :
      SessionM (Except GrammarError Bool) :=
    return answer.map fun sig => decide (kind sig.tree = node)

end GenericSignature.SessionM
