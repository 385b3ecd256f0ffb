import GenericSignature.Proofs.Language
import GenericSignature.Proofs.Reading

/-!
# Readers that cover a language

A production covers a language up to a length when it reads every text of the language that is not
longer, whatever comes after it, and stops where the text ends.

Readers of names and of lists stop at the first character that does not belong to them, so they
read a text of their language only where the text after it starts with another character.  `Starts`
keeps track of the characters that a text can start with.
-/

namespace GenericSignature.Grammar

variable {α β : Type}

/-- The production reads every text of the language up to a length, whatever follows it. -/
def Production.Covers (n : Nat) (production : Production α) (L : Language α) : Prop :=
  ∀ ⦃text : List Char⦄ ⦃value : α⦄ (rest : List Char), L text value → text.length ≤ n →
    production.Reads (text ++ rest) value rest

/-- The production reads every text of the language up to a length, where either the closing
character follows or, after a value of the open kind, another text of the language. -/
structure Production.CoversBefore (n : Nat) (production : Production α) (close : Char)
    (L : Language α) (Open : α → Prop) : Prop where
  starts : ∀ {text value}, L text value → text ≠ [] ∧ text.head? ≠ some close
  reads : ∀ {text value rest}, L text value → text.length ≤ n →
    (rest.head? = some close ∨ Open value ∧ ∃ next value' rest', rest = next ++ rest' ∧
      L next value') → production.Reads (text ++ rest) value rest

theorem Production.Covers.before {production : Production α} {n : Nat} {close : Char}
    {L : Language α} (covers : production.Covers n L)
    (other : ∀ {text value}, L text value → text ≠ [] ∧ text.head? ≠ some close) :
    production.CoversBefore n close L fun _ => True :=
  ⟨other, fun member short _ => covers _ member short⟩

/-! ## First characters -/

/-- The text starts with one of the given characters. -/
def Starts (allowed : List Char) (text : List Char) : Prop := ∃ c ∈ allowed, text.head? = some c

namespace Starts

variable {allowed : List Char} {text rest : List Char}

theorem cons {c : Char} (member : c ∈ allowed) : Starts allowed (c :: rest) := ⟨c, member, rfl⟩

theorem mono {more : List Char} (starts : Starts allowed text) (subset : allowed ⊆ more) :
    Starts more text := by
  obtain ⟨c, member, head⟩ := starts
  exact ⟨c, subset member, head⟩

theorem head_ne {c : Char} (starts : Starts allowed text) (other : c ∉ allowed) :
    text.head? ≠ some c := by
  rintro head
  obtain ⟨d, member, head'⟩ := starts
  obtain rfl := Option.some.inj (head'.symm.trans head)
  exact other member

theorem any_eq_false {accepts : Char → Bool} (starts : Starts allowed text)
    (refused : ∀ c ∈ allowed, accepts c = false) : text.head?.any accepts = false := by
  obtain ⟨c, member, head⟩ := starts
  rw [head]
  exact refused c member

theorem append (starts : Starts allowed text) (rest : List Char) :
    Starts allowed (text ++ rest) := by
  obtain ⟨c, member, head⟩ := starts
  refine ⟨c, member, ?_⟩
  rw [List.head?_append, head]
  rfl

theorem append_of_nil_or (front : text = [] ∨ Starts allowed text) (back : Starts allowed rest) :
    Starts allowed (text ++ rest) := by
  rcases front with rfl | starts
  · exact back
  · exact starts.append rest

end Starts

theorem Repeats.nil_or_starts {Item : Language α} {allowed text : List Char} {values : List α}
    (repeats : Repeats Item text values)
    (starts : ∀ {text value}, Item text value → Starts allowed text) :
    text = [] ∨ Starts allowed text := by
  cases repeats with
  | nil => exact .inl rfl
  | cons item _ => exact .inr ((starts item).append _)

theorem Bracketed.nil_or_starts {Item : Language α} {text : List Char} {values : List α}
    (bracketed : Bracketed Item text values) : text = [] ∨ Starts ['<'] text := by
  cases bracketed with
  | absent => exact .inl rfl
  | listed => exact .inr (.cons (by decide))

theorem Marked.starts {Item : Language α} {mark : Char} {text : List Char} {value : α}
    (marked : Marked mark Item text value) : Starts [mark] text := by
  obtain ⟨_⟩ := marked
  exact .cons (List.mem_singleton_self mark)

/-! ## Loops -/

namespace Reader

variable {rest : List Char} {values : List α}

theorem reads_many_nil {step : Char → Step α} : (many step none).Reads [] [] [] := by
  unfold Reads
  rw [run_many_nil]
  exact ⟨rfl, rfl⟩

theorem reads_many_item {step : Char → Step α} {ended : Option Fault} {c : Char}
    {tail between : List Char} {body : Reader α} {value : α} (chosen : step c = .item body)
    (item : body.Reads tail value between) (more : (many step ended).Reads between values rest) :
    (many step ended).Reads (c :: tail) (value :: values) rest := by
  unfold Reads
  rw [run_many_item chosen]
  exact reads_bind.mpr ⟨value, between, item, reads_bind.mpr ⟨values, rest, more,
    reads_pure.mpr ⟨rfl, rfl⟩⟩⟩

theorem faults_many_item {step : Char → Step α} {ended : Option Fault} {c : Char}
    {tail between : List Char} {body : Reader α} {value : α} {fault : Fault}
    (chosen : step c = .item body) (item : body.Reads tail value between)
    (more : (many step ended).Faults between fault rest) :
    (many step ended).Faults (c :: tail) fault rest := by
  unfold Faults
  rw [run_many_item chosen]
  exact faults_bind.mpr (.inr ⟨value, between, item, faults_bind.mpr (.inl more)⟩)

/-- Marked items are read up to a text that starts with no mark.  What has to follow an item holds
of the mark of the next one and of that text. -/
theorem marked_reads {item : Reader α} {mark : Char} {Item : Language α}
    (Follow : List Char → Prop) {n : Nat} {text : List Char}
    (reads : ∀ {text value rest}, Item text value → text.length ≤ n → Follow rest →
      item.Reads (text ++ rest) value rest)
    (next : ∀ tail, Follow (mark :: tail)) (repeats : Repeats (Marked mark Item) text values)
    (short : text.length ≤ n) (follow : Follow rest) (other : rest.head? ≠ some mark) :
    (marked mark item).Reads (text ++ rest) values rest := by
  induction repeats with
  | nil =>
      rcases rest with _ | ⟨c, rest⟩
      · exact reads_many_nil
      · have chosen : (if c = mark then Step.item item else .stop) = .stop :=
          if_neg fun same => other (congrArg some same)
        unfold Reads marked
        rw [List.nil_append, run_many_stop chosen]
        exact ⟨rfl, rfl⟩
  | cons first more ih =>
      obtain ⟨first⟩ := first
      simp only [List.cons_append, List.length_cons, List.length_append] at short
      rw [List.cons_append, List.cons_append, List.append_assoc]
      refine reads_many_item (if_pos rfl) (reads first (by omega) ?_) (ih (by omega))
      cases more with
      | nil => exact follow
      | cons second _ =>
          obtain ⟨_⟩ := second
          exact next _

/-- Items are read up to their closing character.  An item may have to be of the open kind to be
followed by another one. -/
theorem closedBy_reads {item : Production α} {close : Char} {missing unclosed : Fault}
    {Item : Language α} {Open : α → Prop} {n : Nat} {text : List Char}
    (covers : item.CoversBefore n close Item Open)
    (repeats : Repeats Item text values) (opens : ∀ value ∈ values.dropLast, Open value)
    (short : text.length ≤ n) :
    (closedBy close item missing unclosed).Reads (text ++ close :: rest) values rest := by
  induction repeats with
  | nil =>
      unfold Reads closedBy
      rw [List.nil_append, run_many_close (if_pos rfl)]
      exact ⟨rfl, rfl⟩
  | @cons front back value values first more ih =>
      rw [List.length_append] at short
      have goOn := ih (fun other member => opens other ?_) (by omega)
      · have here : item.Reads (front ++ (back ++ close :: rest)) value
            (back ++ close :: rest) := by
          refine covers.reads first (by omega) ?_
          cases more with
          | nil => exact .inl rfl
          | cons second later =>
              refine .inr ⟨opens value List.mem_cons_self, _, _, _, List.append_assoc .., second⟩
        obtain ⟨c, tail, body, split, committed, body_reads⟩ := here
        obtain ⟨nonempty, other⟩ := covers.starts first
        rw [List.append_assoc, split]
        refine reads_many_item ?_ body_reads goOn
        rw [if_neg, committed]
        · rfl
        · rintro rfl
          rcases front with _ | ⟨d, front⟩
          · exact nonempty rfl
          · exact other (congrArg some (List.cons.inj split).1)
      · rcases values with _ | ⟨next, values⟩
        · cases member
        · exact List.mem_cons_of_mem value member

theorem toEnd_reads {item : Production α} {extra : Fault} {Item : Language α} {n : Nat}
    {text : List Char} (covers : item.Covers n Item) (repeats : Repeats Item text values)
    (short : text.length ≤ n) : (toEnd item extra).Reads text values [] := by
  induction repeats with
  | nil => exact reads_many_nil
  | @cons front back value values first more ih =>
      rw [List.length_append] at short
      obtain ⟨c, tail, body, split, committed, reads⟩ := covers back first (by omega)
      rw [split]
      refine reads_many_item ?_ reads (ih (by omega))
      rw [committed]
      rfl

/-- Items are read as far as they go; a character that starts no item is the fault. -/
theorem toEnd_faults {item : Production α} {extra : Fault} {Item : Language α} {n : Nat}
    {text : List Char} {next : Char} (covers : item.Covers n Item)
    (repeats : Repeats Item text values) (short : text.length ≤ n) (passes : item next = .pass) :
    (toEnd item extra).Faults (text ++ next :: rest) extra (next :: rest) := by
  induction repeats with
  | nil =>
      have chosen : (item next).orFail extra = .fail extra := by
        rw [passes]
        rfl
      unfold Faults toEnd
      rw [List.nil_append, run_many_fail chosen]
      exact ⟨rfl, rfl⟩
  | @cons front back value values first more ih =>
      rw [List.length_append] at short
      obtain ⟨c, tail, body, split, committed, reads⟩ :=
        covers (back ++ next :: rest) first (by omega)
      rw [List.append_assoc, split]
      refine faults_many_item ?_ reads (ih (by omega))
      rw [committed]
      rfl

end Reader

/-- A list in brackets is read; where there is none, the text must not start with a bracket. -/
theorem attemptList_reads {item : Production α} {unclosed missing empty : Fault}
    {Item : Language α} {Open : α → Prop} {n : Nat} {text rest : List Char} {values : List α}
    (covers : item.CoversBefore n '>' Item Open)
    (bracketed : Bracketed Item text values) (opens : ∀ value ∈ values.dropLast, Open value)
    (short : text.length ≤ n) (stops : rest.head? ≠ some '<') :
    (bracketList item unclosed missing empty).attemptList.Reads (text ++ rest) values rest := by
  unfold Production.attemptList
  rw [Reader.reads_bind]
  cases bracketed with
  | absent =>
      refine ⟨none, rest, ?_, Reader.reads_pure.mpr ⟨rfl, rfl⟩⟩
      exact Production.reads_attempt_none.mpr ⟨Production.passes_starting.mpr stops, rfl⟩
  | @listed items _ repeats nonempty =>
      refine ⟨some values, rest, ?_, Reader.reads_pure.mpr ⟨rfl, rfl⟩⟩
      simp only [List.length_append, List.length_cons, List.length_nil] at short
      rw [Production.reads_attempt_some, bracketList, Production.reads_starting]
      refine ⟨items ++ '>' :: rest, by simp, ?_⟩
      refine Reader.reads_bind.mpr ⟨(), items ++ '>' :: rest, ?_, ?_⟩
      · -- the list is not empty, so it does not start with its closing bracket
        refine Reader.reads_refuse.mpr ⟨?_, rfl⟩
        cases repeats with
        | nil => exact absurd rfl nonempty
        | cons first _ =>
            obtain ⟨some, other⟩ := covers.starts first
            obtain ⟨c, tail, rfl⟩ := List.exists_cons_of_ne_nil some
            simpa using other
      · exact Reader.closedBy_reads covers repeats opens (by omega)

end GenericSignature.Grammar
