import GenericSignature.Cursor
import GenericSignature.Grammar.Fragment
import GenericSignature.Proofs.Recording

/-!
# Productions at a cursor

A production that is read at a cursor does one of three things.  It does not start, and the cursor
is as before; it gives a tree, and the cursor has moved on and recorded the type variables of the
tree (`Cursor.Advances`); or it finds a fault, and the cursor stands at the fault
(`Cursor.StopsAt`).  The caller can rely on the first of them when it tries one production after
the other.

1. `Cursor.read_attempt`: the three cases, for any production that notes what it reads.
2. `productions_commit`: all productions that can be read by name.
3. `productions_local`: what a production does depends on the text that it reads and on the one
   character after that, not on the rest of the text, the place or what was recorded before.
-/

namespace GenericSignature

open Grammar

/-! ## Moving a cursor -/

namespace Cursor

variable {α ι : Type} {cursor : Cursor ι}

theorem length_rest : cursor.rest.length = cursor.text.length - cursor.position := by
  unfold rest
  rw [List.length_drop, String.length_toList]

/-- The cursor where the given rest of its text starts, past type variables of the given names. -/
def movedTo (cursor : Cursor ι) (rest : List Char) (names : List String) : Cursor ι :=
  { cursor with
    position := cursor.position + (cursor.rest.length - rest.length)
    met := cursor.met + names.length
    recorded := cursor.recorded ++ occurrences cursor.owner cursor.met names }

theorem movedTo_rest : cursor.movedTo cursor.rest [] = cursor := by
  unfold movedTo occurrences
  rw [Nat.sub_self, List.mapIdx_nil, List.append_nil]
  rfl

theorem read_eq {reader : Reader α} {result : Except Fault α} {rest : List Char}
    {names : List String} (run : reader.run cursor.rest = ⟨result, rest, names⟩) :
    cursor.read reader =
      (result.mapError (cursor.movedTo rest names).error, cursor.movedTo rest names) := by
  unfold read
  simp only [run]
  cases result <;> rfl

/-- From one cursor to the other a part of the text was read, and the type variables with the given
names were met in it. -/
structure Advances (before after : Cursor ι) (names : List String) : Prop where
  text_eq : after.text = before.text
  position_lt : before.position < after.position
  position_le : after.position ≤ before.text.length
  owner_eq : after.owner = before.owner
  met_eq : after.met = before.met + names.length
  recorded_eq : after.recorded = before.recorded ++ occurrences before.owner before.met names

/-- The error is about the text of the cursors, and the second one stands where it was found. -/
structure StopsAt (before after : Cursor ι) (error : GrammarError) : Prop where
  text_eq : after.text = before.text
  error_text : error.text = before.text
  error_position : error.position = after.position
  le_position : before.position ≤ after.position
  position_le : after.position ≤ before.text.length
  recorded_prefix : before.recorded <+: after.recorded

theorem advances_movedTo {rest : List Char} (names : List String)
    (shorter : rest.length < cursor.rest.length) :
    cursor.Advances (cursor.movedTo rest names) names where
  text_eq := rfl
  position_lt := Nat.lt_add_of_pos_right (Nat.sub_pos_of_lt shorter)
  position_le := by
    have size := cursor.length_rest
    show cursor.position + (cursor.rest.length - rest.length) ≤ cursor.text.length
    omega
  owner_eq := rfl
  met_eq := rfl
  recorded_eq := rfl

theorem stopsAt_movedTo {rest : List Char} (names : List String) (fault : Fault)
    (more : cursor.rest ≠ []) :
    cursor.StopsAt (cursor.movedTo rest names) ((cursor.movedTo rest names).error fault) where
  text_eq := rfl
  error_text := rfl
  error_position := rfl
  le_position := Nat.le_add_right ..
  position_le := by
    have size := cursor.length_rest
    have nonempty := List.length_pos_iff.mpr more
    show cursor.position + (cursor.rest.length - rest.length) ≤ cursor.text.length
    omega
  recorded_prefix := List.prefix_append ..

/-- A production that is tried at a cursor passes, reads a value, or finds a fault; the value is
made into a result by `finish`. -/
theorem read_attempt {β : Type} {production : Production α} {names : α → List String}
    (notes : production.Notes names) (finish : Option α → β) (cursor : Cursor ι) :
    (production.Passes cursor.rest ∧
      cursor.read (do return finish (← production.attempt)) = (.ok (finish none), cursor)) ∨
    (∃ value after rest, production.Reads cursor.rest value rest ∧
      cursor.Advances after (names value) ∧
      cursor.read (do return finish (← production.attempt)) = (.ok (finish (some value)), after)) ∨
    ∃ error after fault rest, production.Faults cursor.rest fault rest ∧
      cursor.StopsAt after error ∧
      cursor.read (do return finish (← production.attempt)) = (.error error, after) := by
  rcases reply : production.attempt.run cursor.rest with ⟨fault | found, rest, seen⟩
  · have faults := Production.faults_attempt.mp
      ⟨congrArg Reply.result reply, congrArg Reply.rest reply⟩
    exact .inr (.inr ⟨_, _, fault, rest, faults, stopsAt_movedTo seen fault faults.ne_nil,
      read_eq (Reader.run_bind_error reply)⟩)
  · have noted := notes.attempt reply
    have run : (production.attempt >>= fun found => pure (finish found)).run cursor.rest =
        ⟨.ok (finish found), rest, seen⟩ := by
      rw [Reader.run_bind_ok reply]
      exact congrArg (Reply.mk (.ok (finish found)) rest) (List.append_nil seen)
    have read := read_eq run
    cases found with
    | none =>
        obtain ⟨passes, rfl⟩ := Production.reads_attempt_none.mp
          ⟨congrArg Reply.result reply, congrArg Reply.rest reply⟩
        obtain rfl : seen = [] := noted
        rw [movedTo_rest] at read
        exact .inl ⟨passes, read⟩
    | some value =>
        have reads := Production.reads_attempt_some.mp
          ⟨congrArg Reply.result reply, congrArg Reply.rest reply⟩
        obtain rfl : seen = names value := noted
        exact .inr (.inl ⟨value, _, rest, reads, advances_movedTo _ reads.length_lt, read⟩)

end Cursor

/-! ## Commitment -/

/-- Whether a fragment is a list of trees. -/
def Fragment.isList : Fragment → Bool
  | absent => false
  | one _ => false
  | many _ => true

/-- Whether a production gives a list of trees. -/
def Nonterminal.isList : Nonterminal → Bool
  | typeArgs => true
  | typeParams => true
  | _ => false

namespace Cursor

variable {α ι : Type}

/-- What became of a cursor, by what the production gave.  Nothing, and an empty list, leave the
cursor alone. -/
def Accounts (before : Cursor ι) : Except GrammarError Fragment × Cursor ι → Prop
  | (.ok .absent, after) => after = before
  | (.ok (.one node), after) => before.Advances after node.typeVars
  | (.ok (.many []), after) => after = before
  | (.ok (.many nodes), after) => before.Advances after (nodes.flatMap Node.typeVars)
  | (.error error, after) => before.StopsAt after error

/-- A production that gives nothing has taken nothing.  A list of items is empty exactly where no
bracket opens. -/
structure Commits (before : Cursor ι) (isList : Bool)
    (outcome : Except GrammarError Fragment × Cursor ι) : Prop where
  accounts : before.Accounts outcome
  shape : ∀ fragment, outcome.1 = .ok fragment → fragment.isList = isList
  empty_iff : isList = true → (outcome = (.ok (.many []), before) ↔ before.peek ≠ some '<')

variable {names : α → List String} {node : α → Node}

theorem commits_single {production : Nat → Production α}
    (notes : ∀ depth, (production depth).Notes names)
    (same : ∀ value, (node value).typeVars = names value) (cursor : Cursor ι) :
    cursor.Commits false (cursor.read (Nonterminal.single node production)) := by
  have sized : cursor.read (Nonterminal.single node production) = cursor.read (do
      return .ofOption ((← (production cursor.rest.length).attempt).map node)) := rfl
  rw [sized]
  rcases read_attempt (notes cursor.rest.length)
      (fun found => Fragment.ofOption (found.map node)) cursor
    with ⟨_, read⟩ | ⟨value, after, _, _, advances, read⟩ |
      ⟨error, after, _, _, _, stops, read⟩
  · rw [read]
    refine ⟨rfl, ?_, nofun⟩
    rintro _ ⟨⟩
    rfl
  · rw [read]
    rw [← same value] at advances
    refine ⟨advances, ?_, nofun⟩
    rintro _ ⟨⟩
    rfl
  · rw [read]
    exact ⟨stops, nofun, nofun⟩

theorem several_eq (node : α → Node) (production : Nat → Production (List α)) :
    Nonterminal.several node production = Reader.sized fun depth => do
      return .many (((← (production depth).attempt).getD []).map node) := by
  unfold Nonterminal.several Production.attemptList
  simp only [bind_assoc, pure_bind]

/-- The items of a list in brackets are read, one item at least, or no bracket opens. -/
theorem commits_several {item : Nat → Production α} {unclosed missing empty : Fault}
    {Item : Grammar.Language α} {Open : α → Prop} (notes : ∀ depth, (item depth).Notes names)
    (follows : ∀ depth,
      (bracketList (item depth) unclosed missing empty).Follows (Enclosed Item Open))
    (same : ∀ value, (node value).typeVars = names value) (cursor : Cursor ι) :
    cursor.Commits true (cursor.read
      (Nonterminal.several node fun depth =>
        bracketList (item depth) unclosed missing empty)) := by
  have sized : cursor.read (Nonterminal.several node fun depth =>
      bracketList (item depth) unclosed missing empty) = cursor.read (do
        return .many (((← (bracketList (item cursor.rest.length) unclosed missing
          empty).attempt).getD []).map node)) := by
    rw [several_eq]
    rfl
  rw [sized]
  rcases read_attempt ((notes cursor.rest.length).bracketList unclosed missing empty)
      (fun found => Fragment.many ((found.getD []).map node)) cursor
    with ⟨passes, read⟩ | ⟨values, after, rest, reads, advances, read⟩ |
      ⟨error, after, fault, rest, faults, stops, read⟩
  · rw [read]
    have closed : cursor.peek ≠ some '<' := Production.passes_starting.mp passes
    refine ⟨rfl, ?_, fun _ => iff_of_true rfl closed⟩
    rintro _ ⟨⟩
    rfl
  · rw [read]
    obtain ⟨value, values, rfl⟩ :=
      List.exists_cons_of_ne_nil ((follows cursor.rest.length).values_ne_nil reads)
    obtain ⟨tail, starts, _⟩ := Production.reads_starting.mp reads
    have opens : cursor.peek = some '<' := congrArg List.head? starts
    have all : ((value :: values).map node).flatMap Node.typeVars =
        (value :: values).flatMap names := by
      rw [List.flatMap_map, funext same]
    rw [← all] at advances
    refine ⟨advances, ?_, fun _ => iff_of_false nofun (· opens)⟩
    rintro _ ⟨⟩
    rfl
  · rw [read]
    obtain ⟨tail, starts, _⟩ := Production.faults_starting.mp faults
    have opens : cursor.peek = some '<' := congrArg List.head? starts
    exact ⟨stops, nofun, fun _ => iff_of_false nofun (· opens)⟩

end Cursor

/-- Whatever the text, the place and the record: a production that does not start leaves the cursor
alone, one that gives a tree or a list moves it on and records the type variables of these, and one
that finds a fault leaves it there. -/
theorem productions_commit {ι : Type} (cursor : Cursor ι) (production : Nonterminal) :
    cursor.Commits production.isList (cursor.read production.reader) := by
  have type : ∀ tree, (Node.type tree).typeVars = tree.typeVars := fun _ => rfl
  cases production with
  | type => exact Cursor.commits_single notes_typeSig type cursor
  | reference => exact Cursor.commits_single notes_reference type cursor
  | base => exact Cursor.commits_single (fun _ => notes_baseType) type cursor
  | classRef =>
      exact Cursor.commits_single (fun depth => notes_classRef (notes_reference depth)) type cursor
  | typeVar => exact Cursor.commits_single (fun _ => notes_typeVar) type cursor
  | array =>
      exact Cursor.commits_single (fun depth => notes_arrayType (notes_reference depth)) type cursor
  | typeArg =>
      exact Cursor.commits_single (fun depth => notes_typeArg (notes_reference depth))
        (fun _ => rfl) cursor
  | typeArgs =>
      exact Cursor.commits_several (fun depth => notes_typeArg (notes_reference depth))
        (fun depth => follows_argList (follows_reference depth)) (fun _ => rfl) cursor
  | typeParam => exact Cursor.commits_single notes_typeParam (fun _ => rfl) cursor
  | typeParams =>
      exact Cursor.commits_several notes_typeParam follows_paramList (fun _ => rfl) cursor

/-! ## Lookahead -/

/-- Each production is told how many characters are left, and looks one character ahead. -/
theorem Nonterminal.alike_reader (production : Nonterminal) (m n : Nat) :
    Reader.Alike m n production.reader production.reader := by
  have single : ∀ {α : Type} (node : α → Node) {production : Nat → Production α},
      (∀ m n, Production.Alike m n (production m) (production n)) →
        Reader.Alike m n (single node production) (single node production) :=
    fun node _ alike => Reader.alike_sized fun m n => (alike m n).attempt.bind fun found =>
      Reader.alike_pure (Fragment.ofOption (found.map node))
  have several : ∀ {α : Type} (node : α → Node) {production : Nat → Production (List α)},
      (∀ m n, Production.Alike m n (production m) (production n)) →
        Reader.Alike m n (several node production) (several node production) :=
    fun node _ alike => Reader.alike_sized fun m n => (alike m n).attemptList.bind fun values =>
      Reader.alike_pure (Fragment.many (values.map node))
  have params := fun m n => alike_typeParam m n
  have args := fun m n => alike_typeArg (alike_reference m n)
  cases production with
  | type => exact single Node.type alike_typeSig
  | reference => exact single Node.type alike_reference
  | base => exact single Node.type fun _ _ => alike_baseType
  | classRef => exact single Node.type alike_outerClassRef
  | typeVar => exact single Node.type fun _ _ => alike_typeVar
  | array =>
      exact single Node.type fun m n =>
        (alike_arrayType (alike_reference m n)).mono (Nat.le_succ m) (Nat.le_succ n)
  | typeArg => exact single Node.arg args
  | typeArgs => exact several Node.arg fun m n => alike_bracketList (args m n)
  | typeParam => exact single Node.param params
  | typeParams => exact several Node.param fun m n => alike_bracketList (params m n)

/-- A text that goes on like another one, for as long as that is read and for the character after
it, goes on with the same character. -/
theorem Grammar.exists_rest_alike {read rest whole : List Char}
    (same : (read ++ rest).take (read.length + 1) = whole.take (read.length + 1)) :
    ∃ other, whole = read ++ other ∧ rest.head? = other.head? := by
  have front := congrArg (List.take read.length) same
  rw [List.take_take, List.take_take, Nat.min_eq_left (Nat.le_succ _), List.take_left] at front
  obtain ⟨other, rfl⟩ := List.prefix_iff_eq_take.mpr front
  have next := congrArg (·[read.length]?) same
  simp only [List.getElem?_take_of_lt (Nat.lt_succ_self _),
    List.getElem?_append_right (Nat.le_refl _), Nat.sub_self, ← List.head?_eq_getElem?] at next
  exact ⟨other, rfl, next⟩

/-- Two readings that took as many characters each and gave the same, a fault being about the text
of its own cursor and standing where that cursor stopped.  Both recorded the same names. -/
structure Cursor.SameStep {α ι κ : Type} (first : Cursor ι) (second : Cursor κ) (length : Nat)
    (outcome : Except GrammarError α × Cursor ι) (outcome' : Except GrammarError α × Cursor κ) :
    Prop where
  text_eq : outcome'.2.text = second.text
  position_eq : outcome'.2.position = second.position + length
  result_eq : outcome'.1 = outcome.1.mapError fun error => outcome'.2.error error.fault
  recorded_eq : ∃ names,
    outcome.2.recorded = first.recorded ++ occurrences first.owner first.met names ∧
      outcome'.2.recorded = second.recorded ++ occurrences second.owner second.met names

/-- A production is read at two cursors.  If the texts from there on have in common what it reads at
the first one and, unless both end there, the one character after that, it does the same at the
second one. -/
theorem productions_local {ι κ : Type} {first : Cursor ι} {second : Cursor κ}
    {production : Nonterminal} {length : Nat}
    (moved : (first.read production.reader).2.position = first.position + length)
    (same : first.rest.take (length + 1) = second.rest.take (length + 1)) :
    first.SameStep second length (first.read production.reader)
      (second.read production.reader) := by
  rcases reply : production.reader.run first.rest with ⟨result, rest, names⟩
  obtain ⟨read, split⟩ : rest <:+ first.rest := by
    simpa only [reply] using production.reader.suffix first.rest
  have before := Cursor.read_eq reply
  rw [before] at moved ⊢
  obtain rfl : length = read.length := by
    have size := congrArg List.length split
    rw [List.length_append] at size
    have there : first.position + (first.rest.length - rest.length) = first.position + length :=
      moved
    omega
  rw [← split] at same reply
  obtain ⟨other, split', head⟩ := exists_rest_alike same
  have run := production.alike_reader _ _ head (Nat.le_refl _) (Nat.le_refl _) reply
  rw [← split'] at run
  rw [Cursor.read_eq run]
  refine ⟨rfl, ?_, ?_, names, rfl, rfl⟩
  · show second.position + (second.rest.length - other.length) = second.position + read.length
    rw [split', List.length_append, Nat.add_sub_cancel]
  · cases result <;> rfl

theorem productions_local_of_parameter :
    ((⟨"(TE;)V", 1, ⟨7⟩, 2, [.item ()]⟩ : Cursor Unit).read
      Nonterminal.typeVar.reader).2.position = 1 + 3 := by
  have moved : ((Cursor.start ⟨0⟩ "TE;)" : Cursor Unit).read
      Nonterminal.typeVar.reader).2.position = 0 + 3 := by decide
  have same : (Cursor.start ⟨0⟩ "TE;)" : Cursor Unit).rest.take (3 + 1) =
      (⟨"(TE;)V", 1, ⟨7⟩, 2, [.item ()]⟩ : Cursor Unit).rest.take (3 + 1) := by decide
  exact (productions_local moved same).position_eq

end GenericSignature
