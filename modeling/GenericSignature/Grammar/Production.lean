import GenericSignature.Grammar.Reader

/-!
# Productions

The grammar needs one character of lookahead: that character says whether a production starts here.
A production is therefore a choice made from the next character.  It passes, refuses the character
with a fault, or commits: it has then read the character, and its body reads on.  At the end of the
text every production passes.

`Production.many` is the one loop of the grammar.  Each step of it is decided by the next character
as well, and each item takes at least that character, so the loop ends with the text.
-/

namespace GenericSignature.Grammar

variable {α β : Type}

/-- What a production makes of the next character. -/
inductive Choice (α : Type) where
  /-- The production does not start here. -/
  | pass
  /-- Nothing that is allowed here starts with this character. -/
  | refuse (fault : Fault)
  /-- The character is read, and the body reads on. -/
  | commit (body : Reader α)

/-- A production: a choice by the next character. -/
def Production (α : Type) : Type := Char → Choice α

namespace Choice

/-- The same choice with another value. -/
def map (f : α → β) : Choice α → Choice β
  | pass => pass
  | refuse fault => refuse fault
  | commit body => commit (do return f (← body))

end Choice

namespace Production

/-- A production that starts with one character only. -/
def starting (literal : Char) (body : Reader α) : Production α := fun c =>
  if c = literal then .commit body else .pass

/-- The second production where the first one passes. -/
def orElse (first second : Production α) : Production α := fun c =>
  match first c with
  | .pass => second c
  | choice => choice

/-- The same production with another value. -/
def map (f : α → β) (production : Production α) : Production β := fun c =>
  (production c).map f

/-- Reads a production if it starts here. -/
def attempt (production : Production α) : Reader (Option α) where
  run text :=
    match text with
    | [] => ⟨.ok none, [], []⟩
    | c :: rest =>
        match production c with
        | .pass => ⟨.ok none, c :: rest, []⟩
        | .refuse fault => ⟨.error fault, c :: rest, []⟩
        | .commit body => (some <$> body).run rest
  suffix text := by
    split
    next => exact List.suffix_refl []
    next c rest =>
      split
      next => exact List.suffix_refl (c :: rest)
      next => exact List.suffix_refl (c :: rest)
      next body _ => exact ((some <$> body).suffix rest).trans (List.suffix_cons c rest)

/-- Reads a production that has to start here; it is a fault if it does not. -/
def require (production : Production α) (fault : Fault) : Reader α := do
  match ← production.attempt with
  | none => Reader.fail fault
  | some value => return value

end Production

/-- What a loop does with the next character. -/
inductive Step (α : Type) where
  /-- The loop is over, and the character is left. -/
  | stop
  /-- The loop is over, and the character is read. -/
  | close
  /-- The character is a fault. -/
  | fail (fault : Fault)
  /-- The character is read and starts one more item. -/
  | item (body : Reader α)

/-- A step that needs a production to start here. -/
def Choice.orFail (choice : Choice α) (fault : Fault) : Step α :=
  match choice with
  | .pass => .fail fault
  | .refuse other => .fail other
  | .commit body => .item body

namespace Reader

/-- The loop behind `many`.  Items and names read so far are kept in reverse. -/
def manyFrom (step : Char → Step α) (ended : Option Fault) (text : List Char)
    (items : List α) (seen : List String) : Reply (List α) :=
  match text with
  | [] =>
      match ended with
      | none => ⟨.ok items.reverse, [], seen.reverse⟩
      | some fault => ⟨.error fault, [], seen.reverse⟩
  | c :: rest =>
      match step c with
      | .stop => ⟨.ok items.reverse, c :: rest, seen.reverse⟩
      | .close => ⟨.ok items.reverse, rest, seen.reverse⟩
      | .fail fault => ⟨.error fault, c :: rest, seen.reverse⟩
      | .item body =>
          let reply := body.run rest
          match reply.result with
          | .error fault => ⟨.error fault, reply.rest, seen.reverse ++ reply.names⟩
          | .ok value =>
              manyFrom step ended reply.rest (value :: items) (reply.names.reverseAux seen)
termination_by text.length
decreasing_by
  have shorter := body.length_rest_le rest
  simp only [List.length_cons]
  omega

theorem manyFrom_suffix (step : Char → Step α) (ended : Option Fault) (text : List Char)
    (items : List α) (seen : List String) :
    (manyFrom step ended text items seen).rest <:+ text := by
  fun_induction manyFrom step ended text items seen with
  | case1 => exact List.suffix_refl []
  | case2 => exact List.suffix_refl []
  | case3 => exact List.suffix_refl _
  | case4 => exact List.suffix_cons _ _
  | case5 => exact List.suffix_refl _
  | case6 _ _ c rest body _ reply fault failed =>
      simpa only [failed] using (body.suffix rest).trans (List.suffix_cons c rest)
  | case7 _ _ c rest body _ reply value found ih =>
      simpa only [found] using
        ih.trans ((body.suffix rest).trans (List.suffix_cons c rest))

/-- Reads items as long as the steps say so.  At the end of the text the loop is over, or it is
the fault `ended`. -/
def many (step : Char → Step α) (ended : Option Fault) : Reader (List α) where
  run text := manyFrom step ended text [] []
  suffix text := manyFrom_suffix step ended text [] []

/-- Reads items that each follow the given mark. -/
def marked (mark : Char) (item : Reader α) : Reader (List α) :=
  many (fun c => if c = mark then .item item else .stop) none

end Reader

/-- Reads a list between angle brackets, if one starts here; no brackets stand for no items.
A list in brackets has at least one item. -/
def bracketList (item : Production α) (unclosed missing empty : Fault) : Production (List α) :=
  Production.starting '<' do
    Reader.refuse (fun c => c == '>') empty
    Reader.many (fun c => if c = '>' then .close else (item c).orFail missing) (some unclosed)

/-- Reads a production that stands for a list, taking no list for an empty one. -/
def Production.attemptList (production : Production (List α)) : Reader (List α) := do
  return (← production.attempt).getD []

end GenericSignature.Grammar
