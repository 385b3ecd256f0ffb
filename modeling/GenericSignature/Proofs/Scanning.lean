import GenericSignature.Proofs.Productions
import GenericSignature.Proofs.TypeReaders

/-!
# Scanning by hand

What becomes of a cursor that is used by hand, whatever is asked of it and in whatever order.

1. A request is granted if the text goes on as it needs; if not, it is refused, and the cursor stays
   as it was (`Cursor.perform_cases`).
2. Between two states of a cursor lie the text that was consumed and the items that were taken out
   of the record and put into it (`Cursor.Passage`).  Each request makes such a passage, and so does
   each run of requests (`Cursor.passage_step`, `Cursor.passage_after`).
3. A cursor accounts for its text: what was consumed is the text before it
   (`scans_account_for_text`).
4. A cursor stays within its text unless the empty text is expected where the text has ended; then
   it does not (`position_beyond_text`).
-/

namespace GenericSignature

open Grammar

namespace Cursor

variable {ι : Type}

/-! ## Requests -/

/-- Something to ask of a cursor. -/
inductive Request (ι : Type) where
  | peek
  | hasMore
  | advance
  | expect (literal : String)
  | identifier
  | record (value : ι)
  | takeRecorded
  | error (fault : Fault)

/-- What a cursor answers to a request that it grants. -/
inductive Answer (ι : Type) where
  /-- Nothing: an expectation is met, or an item is recorded. -/
  | done
  /-- The next character, if there is one. -/
  | next (found : Option Char)
  /-- Whether there is a next character. -/
  | more (found : Bool)
  /-- The character that was read. -/
  | character (c : Char)
  /-- The identifier that was read. -/
  | name (name : String)
  /-- What was recorded. -/
  | items (recorded : List (Recorded ι))
  /-- An error at the place of the cursor. -/
  | error (error : GrammarError)

/-- Does what is asked. -/
def perform (cursor : Cursor ι) : Request ι → Except GrammarError (Answer ι) × Cursor ι
  | .peek => (.ok (.next cursor.peek), cursor)
  | .hasMore => (.ok (.more cursor.hasMore), cursor)
  | .advance => cursor.advance.map (Except.map .character) id
  | .expect literal => (cursor.expect literal).map (Except.map fun _ => .done) id
  | .identifier => cursor.identifier.map (Except.map .name) id
  | .record value => (.ok .done, cursor.record value)
  | .takeRecorded => cursor.takeRecorded.map (fun items => .ok (.items items)) id
  | .error fault => (.ok (.error (cursor.error fault)), cursor)

/-- A request with the cursor before and after it. -/
structure Step (ι : Type) where
  before : Cursor ι
  request : Request ι
  answer : Except GrammarError (Answer ι)
  after : Cursor ι

/-- The step that a request makes. -/
def step (cursor : Cursor ι) (request : Request ι) : Step ι :=
  ⟨cursor, request, (cursor.perform request).1, (cursor.perform request).2⟩

/-- The steps of a run of requests. -/
def steps (cursor : Cursor ι) : List (Request ι) → List (Step ι)
  | [] => []
  | request :: requests =>
      cursor.step request :: (cursor.step request).after.steps requests

/-- The cursor after a run of requests. -/
def after (cursor : Cursor ι) (requests : List (Request ι)) : Cursor ι :=
  requests.foldl (fun cursor request => (cursor.step request).after) cursor

/-- What a request puts into the record. -/
def Request.added : Request ι → List (Recorded ι)
  | .record value => [.item value]
  | _ => []

/-- The text has ended, or it goes on with a character that no identifier holds. -/
def EndsName (text : List Char) : Prop :=
  ∀ c ∈ text.head?, c ∈ ['.', ';', '[', '/', '<', '>', ':']

/-- Whether a text goes on in the way that a request needs. -/
def Request.Fits (text : List Char) : Request ι → Prop
  | .advance => text ≠ []
  | .expect literal => literal.toList = text.take 1
  | .identifier => ¬ EndsName text
  | _ => True

namespace Step

/-- The text that a step reads. -/
def consumed (step : Step ι) : List Char :=
  match step.request, step.answer with
  | .advance, .ok (.character c) => [c]
  | .expect literal, .ok _ => literal.toList
  | .identifier, .ok (.name name) => name.toList
  | _, _ => []

/-- What a step takes out of the record. -/
def taken (step : Step ι) : List (Recorded ι) :=
  match step.answer with
  | .ok (.items recorded) => recorded
  | _ => []

/-- Whether the empty text is expected where the text has ended. -/
def passesEnd (step : Step ι) : Bool :=
  match step.request with
  | .expect literal => literal == "" && !step.before.hasMore
  | _ => false

/-- The step answers an error, because it is refused or because it was asked for one. -/
def Reports (step : Step ι) (error : GrammarError) : Prop :=
  step.answer = .error error ∨ step.answer = .ok (.error error)

/-- What every answer is like, at a cursor on the given text. -/
structure Answered (step : Step ι) (text : String) : Prop where
  /-- A request is refused exactly if the text does not go on in the way that it needs. -/
  refused_iff : (∃ error, step.answer = .error error) ↔ ¬ step.request.Fits step.before.rest
  /-- An error is about the text and the place of the cursor, which stays as it was. -/
  error_in_place : ∀ error, step.Reports error →
    step.after = step.before ∧ error.text = text ∧ error.position = step.before.position
  /-- A request for an identifier that is not refused reads one, as far as it goes. -/
  name_whole : step.request = .identifier → (∃ error, step.answer = .error error) ∨
    ∃ name, step.answer = .ok (.name name) ∧ IsIdentifier name ∧
      step.before.rest = name.toList ++ step.after.rest ∧ EndsName step.after.rest

end Step

/-! ## One request -/

/-- The cursor some characters further on. -/
def forward (cursor : Cursor ι) (count : Nat) : Cursor ι :=
  { cursor with position := cursor.position + count }

theorem rest_forward (cursor : Cursor ι) (count : Nat) :
    (cursor.forward count).rest = cursor.rest.drop count :=
  (List.drop_drop ..).symm

theorem rest_forward_of_append {cursor : Cursor ι} {read rest : List Char}
    (split : cursor.rest = read ++ rest) : (cursor.forward read.length).rest = rest := by
  rw [rest_forward, split, List.drop_left]

/-- What granting a request can do. -/
inductive Grants (cursor : Cursor ι) : Request ι → Answer ι → Cursor ι → Prop
  | peek : Grants cursor .peek (.next cursor.peek) cursor
  | hasMore : Grants cursor .hasMore (.more cursor.hasMore) cursor
  | advance {c : Char} {rest : List Char} :
      cursor.rest = c :: rest → Grants cursor .advance (.character c) (cursor.forward 1)
  | expect {literal : String} :
      literal.toList = cursor.rest.take 1 →
      Grants cursor (.expect literal) .done (cursor.forward 1)
  | identifier {name : String} {rest : List Char} :
      cursor.rest = name.toList ++ rest → IsIdentifier name → EndsName rest →
      Grants cursor .identifier (.name name) (cursor.forward name.toList.length)
  | record {value : ι} : Grants cursor (.record value) .done (cursor.record value)
  | takeRecorded :
      Grants cursor .takeRecorded (.items cursor.recorded) { cursor with recorded := [] }
  | error {fault : Fault} : Grants cursor (.error fault) (.error (cursor.error fault)) cursor

theorem advance_refused {cursor : Cursor ι} (ended : cursor.rest = []) :
    cursor.advance = (.error (cursor.error .unexpectedEnd), cursor) := by
  unfold advance peek
  rw [ended]
  rfl

theorem advance_granted {cursor : Cursor ι} {c : Char} {rest : List Char}
    (split : cursor.rest = c :: rest) : cursor.advance = (.ok c, cursor.forward 1) := by
  unfold advance peek
  rw [split]
  rfl

/-- The next character as a text, which is empty at the end. -/
theorem next_eq_iff (cursor : Cursor ι) (literal : String) :
    (cursor.peek.map String.singleton).getD "" = literal ↔
      literal.toList = cursor.rest.take 1 := by
  have next : (cursor.peek.map String.singleton).getD "" = String.ofList (cursor.rest.take 1) := by
    unfold peek
    cases cursor.rest <;> rfl
  rw [next, ← String.toList_inj, String.toList_ofList]
  exact eq_comm

theorem expect_refused {cursor : Cursor ι} {literal : String}
    (differs : literal.toList ≠ cursor.rest.take 1) :
    cursor.expect literal = (.error (cursor.error (.expected literal cursor.peek)), cursor) :=
  if_neg (mt (cursor.next_eq_iff literal).mp differs)

theorem expect_granted {cursor : Cursor ι} {literal : String}
    (same : literal.toList = cursor.rest.take 1) :
    cursor.expect literal = (.ok (), cursor.forward 1) :=
  if_pos ((cursor.next_eq_iff literal).mpr same)

theorem endsName_iff {text : List Char} : EndsName text ↔ NoName text := by
  unfold EndsName NoName
  cases text with
  | nil => exact iff_of_true nofun rfl
  | cons c rest =>
      simp only [List.head?_cons, Option.mem_def, Option.some.injEq, forall_eq', Option.any_some]
      rw [← Bool.not_eq_true, isNameChar_iff, Decidable.not_not]

theorem identifier_faults_iff {text rest : List Char} {fault : Fault} :
    Grammar.identifier.Faults text fault rest ↔
      NoName text ∧ fault = .expectedIdentifier ∧ rest = text := by
  unfold Grammar.identifier
  simp only [Reader.faults_bind, Reader.faults_demand, Reader.faults_takeWhile,
    Reader.faults_pure, and_false, exists_false, or_false]
  exact Iff.rfl

theorem movedTo_of_append {cursor : Cursor ι} {read rest : List Char}
    (split : cursor.rest = read ++ rest) :
    cursor.movedTo rest [] = cursor.forward read.length := by
  unfold movedTo occurrences
  rw [split, List.length_append, Nat.add_sub_cancel, List.mapIdx_nil, List.append_nil]
  rfl

theorem identifier_refused {cursor : Cursor ι} (ended : EndsName cursor.rest) :
    cursor.identifier = (.error (cursor.error .expectedIdentifier), cursor) := by
  have refused : (Reader.demand isNameChar .expectedIdentifier).run cursor.rest =
      ⟨.error .expectedIdentifier, cursor.rest, []⟩ :=
    if_neg (Bool.eq_false_iff.mp (endsName_iff.mp ended))
  have run : Grammar.identifier.run cursor.rest = ⟨.error .expectedIdentifier, cursor.rest, []⟩ :=
    Reader.run_bind_error refused
  have read := read_eq run
  rw [movedTo_rest] at read
  exact read

theorem identifier_granted {cursor : Cursor ι} (starts : ¬ EndsName cursor.rest) :
    ∃ name rest, cursor.rest = name.toList ++ rest ∧ IsIdentifier name ∧ EndsName rest ∧
      cursor.identifier = (.ok name, cursor.forward name.toList.length) := by
  have silent : Reader.Notes [] Grammar.identifier fun _ => [] := Reader.notes_identifier
  rcases reply : Grammar.identifier.run cursor.rest with ⟨fault | name, rest, names⟩
  · have faults : Grammar.identifier.Faults cursor.rest fault rest :=
      ⟨congrArg Reply.result reply, congrArg Reply.rest reply⟩
    exact absurd (endsName_iff.mpr (identifier_faults_iff.mp faults).1) starts
  · have reads : Grammar.identifier.Reads cursor.rest name rest :=
      ⟨congrArg Reply.result reply, congrArg Reply.rest reply⟩
    obtain ⟨split, valid, ended⟩ := identifier_reads_iff.mp reads
    obtain rfl : names = [] := silent reply
    have read := read_eq reply
    rw [movedTo_of_append split] at read
    exact ⟨name, rest, split, valid, endsName_iff.mpr ended, read⟩

/-- What a request can do.  If the text goes on as it needs, it is granted; if not, it is refused,
and the cursor stays as it was. -/
theorem perform_cases (cursor : Cursor ι) (request : Request ι) :
    (¬ request.Fits cursor.rest ∧
      ∃ fault, cursor.perform request = (.error (cursor.error fault), cursor)) ∨
    (request.Fits cursor.rest ∧ ∃ answer after,
      cursor.perform request = (.ok answer, after) ∧ cursor.Grants request answer after) := by
  cases request with
  | peek => exact .inr ⟨trivial, _, _, rfl, .peek⟩
  | hasMore => exact .inr ⟨trivial, _, _, rfl, .hasMore⟩
  | advance =>
      rcases split : cursor.rest with _ | ⟨c, rest⟩
      · refine .inl ⟨fun more => more rfl, .unexpectedEnd, ?_⟩
        rw [perform, advance_refused split]
        rfl
      · refine .inr ⟨nofun, .character c, cursor.forward 1, ?_, .advance split⟩
        rw [perform, advance_granted split]
        rfl
  | expect literal =>
      by_cases same : literal.toList = cursor.rest.take 1
      · refine .inr ⟨same, .done, cursor.forward 1, ?_, .expect same⟩
        rw [perform, expect_granted same]
        rfl
      · refine .inl ⟨same, .expected literal cursor.peek, ?_⟩
        rw [perform, expect_refused same]
        rfl
  | identifier =>
      by_cases ended : EndsName cursor.rest
      · refine .inl ⟨not_not_intro ended, .expectedIdentifier, ?_⟩
        rw [perform, identifier_refused ended]
        rfl
      · obtain ⟨name, rest, split, valid, stops, granted⟩ := identifier_granted ended
        refine .inr ⟨ended, .name name, _, ?_, .identifier split valid stops⟩
        rw [perform, granted]
        rfl
  | record value => exact .inr ⟨trivial, _, _, rfl, .record⟩
  | takeRecorded => exact .inr ⟨trivial, _, _, rfl, .takeRecorded⟩
  | error fault => exact .inr ⟨trivial, _, _, rfl, .error⟩

theorem step_eq {cursor after : Cursor ι} {request : Request ι}
    {answer : Except GrammarError (Answer ι)}
    (performed : cursor.perform request = (answer, after)) :
    cursor.step request = ⟨cursor, request, answer, after⟩ := by
  unfold step
  rw [performed]

theorem answered_step (cursor : Cursor ι) (request : Request ι) :
    (cursor.step request).Answered cursor.text := by
  rcases cursor.perform_cases request with
    ⟨misfit, fault, performed⟩ | ⟨fits, answer, after, performed, grants⟩
  · rw [step_eq performed]
    refine ⟨iff_of_true ⟨_, rfl⟩ misfit, ?_, fun _ => .inl ⟨_, rfl⟩⟩
    rintro _ (⟨⟨⟩⟩ | ⟨⟨⟩⟩)
    exact ⟨rfl, rfl, rfl⟩
  · rw [step_eq performed]
    refine ⟨iff_of_false nofun (not_not_intro fits), ?_, ?_⟩
    · rintro error (⟨⟨⟩⟩ | ⟨⟨⟩⟩)
      cases grants
      exact ⟨rfl, rfl, rfl⟩
    · rintro ⟨⟩
      cases grants with
      | identifier split valid stops =>
          refine .inr ⟨_, rfl, valid, ?_⟩
          rw [rest_forward_of_append split]
          exact ⟨split, stops⟩

/-! ## Passages -/

/-- From one state of a cursor to a later one: the text that was consumed, how many steps went past
the end, what was taken out of the record and what was put into it. -/
structure Passage (before after : Cursor ι) (consumed : List Char) (beyond : Nat)
    (taken added : List (Recorded ι)) : Prop where
  text_eq : after.text = before.text
  rest_eq : before.rest = consumed ++ after.rest
  position_eq : after.position = before.position + consumed.length + beyond
  recorded_eq : taken ++ after.recorded = before.recorded ++ added

namespace Passage

variable {first middle last : Cursor ι} {consumed consumed' : List Char} {beyond beyond' : Nat}
  {taken taken' added added' : List (Recorded ι)}

theorem refl (cursor : Cursor ι) : Passage cursor cursor [] 0 [] [] where
  text_eq := rfl
  rest_eq := rfl
  position_eq := rfl
  recorded_eq := (List.append_nil _).symm

theorem trans (front : Passage first middle consumed beyond taken added)
    (back : Passage middle last consumed' beyond' taken' added') :
    Passage first last (consumed ++ consumed') (beyond + beyond') (taken ++ taken')
      (added ++ added') where
  text_eq := back.text_eq.trans front.text_eq
  rest_eq := by rw [front.rest_eq, back.rest_eq, List.append_assoc]
  position_eq := by
    rw [back.position_eq, front.position_eq, List.length_append]
    omega
  recorded_eq := by
    rw [List.append_assoc, back.recorded_eq, ← List.append_assoc, front.recorded_eq,
      List.append_assoc]

theorem forward {cursor : Cursor ι} {read rest : List Char} (split : cursor.rest = read ++ rest) :
    Passage cursor (cursor.forward read.length) read 0 [] [] where
  text_eq := rfl
  rest_eq := by rw [rest_forward_of_append split, split]
  position_eq := rfl
  recorded_eq := (List.append_nil _).symm

theorem le_position (passage : Passage first last consumed beyond taken added) :
    first.position ≤ last.position := by
  rw [passage.position_eq]
  omega

/-- A cursor stays within its text as long as no step goes past the end. -/
theorem within_iff (passage : Passage first last consumed beyond taken added)
    (within : first.position ≤ first.text.length) :
    last.position ≤ first.text.length ↔ beyond = 0 := by
  have sizes := congrArg List.length passage.rest_eq
  rw [List.length_append, length_rest, length_rest, passage.text_eq] at sizes
  have moved := passage.position_eq
  omega

end Passage

theorem passesEnd_expect_iff {cursor after : Cursor ι} {literal : String}
    {answer : Except GrammarError (Answer ι)} :
    (⟨cursor, .expect literal, answer, after⟩ : Step ι).passesEnd = true ↔
      literal = "" ∧ cursor.rest = [] := by
  show (literal == "" && !cursor.hasMore) = true ↔ _
  rw [Bool.and_eq_true, beq_iff_eq]
  unfold hasMore peek
  cases cursor.rest with
  | nil => exact and_congr_right' (iff_of_true rfl rfl)
  | cons c rest => exact and_congr_right' (iff_of_false nofun nofun)

/-- To expect what comes next moves a cursor over it; at the end nothing comes next, and the cursor
moves all the same. -/
theorem passage_expect {cursor : Cursor ι} {literal : String}
    (same : literal.toList = cursor.rest.take 1) :
    let step : Step ι := ⟨cursor, .expect literal, .ok .done, cursor.forward 1⟩
    Passage cursor step.after step.consumed (if step.passesEnd then 1 else 0) [] [] := by
  intro step
  show Passage cursor (cursor.forward 1) literal.toList (if step.passesEnd then 1 else 0) [] []
  rw [same]
  rcases split : cursor.rest with _ | ⟨c, rest⟩
  · rw [split] at same
    have passes : step.passesEnd = true :=
      passesEnd_expect_iff.mpr ⟨String.toList_eq_nil_iff.mp same, split⟩
    have nothing : (cursor.forward 1).rest = [] := by
      rw [rest_forward, split]
      rfl
    -- nothing is consumed here, but the cursor moves
    rw [passes]
    exact ⟨rfl, by rw [nothing, split, List.take_nil, List.append_nil], rfl,
      (List.append_nil _).symm⟩
  · have stays : step.passesEnd = false := by
      rw [Bool.eq_false_iff, Ne, passesEnd_expect_iff, split]
      exact fun passes => nomatch passes.2
    have one : cursor.rest = [c] ++ rest := split
    rw [stays]
    exact .forward one

theorem passage_of_grants {cursor after : Cursor ι} {request : Request ι} {answer : Answer ι}
    (grants : cursor.Grants request answer after) :
    let step : Step ι := ⟨cursor, request, .ok answer, after⟩
    Passage cursor after step.consumed (if step.passesEnd then 1 else 0) step.taken
      request.added := by
  intro step
  cases grants with
  | peek => exact .refl cursor
  | hasMore => exact .refl cursor
  | @advance c rest split =>
      have one : cursor.rest = [c] ++ rest := split
      exact .forward one
  | expect same => exact passage_expect same
  | identifier split valid stops => exact .forward split
  | record => exact ⟨rfl, rfl, rfl, rfl⟩
  | takeRecorded => exact ⟨rfl, rfl, rfl, rfl⟩
  | error => exact .refl cursor

theorem passage_of_misfit {cursor : Cursor ι} {request : Request ι}
    (misfit : ¬ request.Fits cursor.rest) (error : GrammarError) :
    let step : Step ι := ⟨cursor, request, .error error, cursor⟩
    Passage cursor cursor step.consumed (if step.passesEnd then 1 else 0) step.taken
      request.added := by
  intro step
  cases request with
  | advance => exact .refl cursor
  | identifier => exact .refl cursor
  | expect literal =>
      -- at the end the empty text fits, so it is not refused there
      have stays : step.passesEnd = false := by
        rw [Bool.eq_false_iff, Ne, passesEnd_expect_iff]
        rintro ⟨rfl, ended⟩
        refine misfit ?_
        rw [ended]
        rfl
      rw [stays]
      exact .refl cursor
  | peek => exact absurd trivial misfit
  | hasMore => exact absurd trivial misfit
  | record => exact absurd trivial misfit
  | takeRecorded => exact absurd trivial misfit
  | error => exact absurd trivial misfit

/-- Granted or refused, a request makes a passage. -/
theorem passage_step (cursor : Cursor ι) (request : Request ι) :
    Passage cursor (cursor.step request).after (cursor.step request).consumed
      (if (cursor.step request).passesEnd then 1 else 0) (cursor.step request).taken
      request.added := by
  rcases cursor.perform_cases request with
    ⟨misfit, fault, performed⟩ | ⟨_, answer, after, performed, grants⟩
  · rw [step_eq performed]
    exact passage_of_misfit misfit _
  · rw [step_eq performed]
    exact passage_of_grants grants

/-! ## Runs of requests -/

/-- A run of requests is a passage through those of its steps, from any cursor on. -/
theorem passage_after (cursor : Cursor ι) (requests : List (Request ι)) :
    Passage cursor (cursor.after requests) ((cursor.steps requests).flatMap Step.consumed)
      ((cursor.steps requests).countP Step.passesEnd) ((cursor.steps requests).flatMap Step.taken)
      (requests.flatMap Request.added) := by
  induction requests generalizing cursor with
  | nil => exact .refl cursor
  | cons request requests ih =>
      rw [steps, List.countP_cons, Nat.add_comm (List.countP ..)]
      exact (cursor.passage_step request).trans (ih (cursor.step request).after)

/-- The steps of a run are those that its requests make, each after the requests before it. -/
theorem mem_steps_iff {cursor : Cursor ι} {requests : List (Request ι)} {step : Step ι} :
    step ∈ cursor.steps requests ↔ ∃ front request back, requests = front ++ request :: back ∧
      step = (cursor.after front).step request := by
  induction requests generalizing cursor with
  | nil => exact iff_of_false List.not_mem_nil (by simp)
  | cons first requests ih =>
      rw [steps, List.mem_cons, ih]
      constructor
      · rintro (rfl | ⟨front, request, back, rfl, rfl⟩)
        · exact ⟨[], first, requests, rfl, rfl⟩
        · exact ⟨first :: front, request, back, rfl, rfl⟩
      · rintro ⟨_ | ⟨_, front⟩, request, back, split, rfl⟩
        · cases split
          exact .inl rfl
        · cases split
          exact .inr ⟨front, request, back, rfl, rfl⟩

theorem answered_of_mem_steps {cursor : Cursor ι} {requests : List (Request ι)} {step : Step ι}
    (member : step ∈ cursor.steps requests) : step.Answered cursor.text := by
  obtain ⟨front, request, _, _, rfl⟩ := mem_steps_iff.mp member
  rw [← (cursor.passage_after front).text_eq]
  exact answered_step (cursor.after front) request

/-- What was consumed since the start of a text is the text before the cursor. -/
theorem Passage.consumed_eq {owner : SigId} {text : String} {last : Cursor ι}
    {consumed : List Char} {beyond : Nat} {taken added : List (Recorded ι)}
    (passage : Passage (start owner text) last consumed beyond taken added) :
    consumed = text.toList.take last.position := by
  have split : text.toList = consumed ++ text.toList.drop last.position := by
    have rest : last.rest = text.toList.drop last.position := by
      unfold rest
      rw [passage.text_eq]
      rfl
    rw [← rest]
    exact passage.rest_eq
  exact List.append_cancel_right (split.symm.trans (List.take_append_drop ..).symm)

end Cursor

/-- Whatever is asked of a cursor at the start of a text: it never goes back; it stands after the
characters that were consumed, and one place further for every step past the end, so that it stays
within the text as long as there is no such step; what was consumed is the text before it; and what
was recorded was taken or is still there, in order and each item once. -/
theorem scans_account_for_text {ι : Type} (owner : SigId) (text : String)
    (requests : List (Cursor.Request ι)) :
    let opened : Cursor ι := .start owner text
    let steps := opened.steps requests
    let last := opened.after requests
    (∀ more, last.position ≤ (opened.after (requests ++ more)).position) ∧
    last.position = (steps.flatMap Cursor.Step.consumed).length +
      steps.countP Cursor.Step.passesEnd ∧
    (last.position ≤ text.length ↔ ∀ step ∈ steps, step.passesEnd = false) ∧
    steps.flatMap Cursor.Step.consumed = text.toList.take last.position ∧
    steps.flatMap Cursor.Step.taken ++ last.recorded = requests.flatMap Cursor.Request.added ∧
    ∀ step ∈ steps, step.Answered text := by
  intro opened steps last
  have passage := opened.passage_after requests
  refine ⟨fun more => ?_, ?_, ?_, passage.consumed_eq, passage.recorded_eq, ?_⟩
  · have continued : opened.after (requests ++ more) = last.after more := List.foldl_append
    rw [continued]
    exact (last.passage_after more).le_position
  · rw [passage.position_eq]
    exact congrArg (· + _) (Nat.zero_add _)
  · refine (passage.within_iff (Nat.zero_le _)).trans ?_
    rw [List.countP_eq_zero]
    exact forall₂_congr fun step _ => Bool.eq_false_iff.symm
  · exact fun step member => Cursor.answered_of_mem_steps member

theorem scans_account_for_text_past_end :
    let opened : Cursor Unit := .start ⟨0⟩ "ab;"
    let front : List (Cursor.Request Unit) := [.identifier, .record (), .expect ";", .expect ""]
    let step := (opened.after front).step .advance
    step ∈ opened.steps (front ++ [.advance]) ∧ step.before.position = 4 ∧
      ∃ error, step.answer = .error error ∧ step.after = step.before ∧ error.position = 4 := by
  intro opened front step
  have member : step ∈ opened.steps (front ++ [.advance]) :=
    Cursor.mem_steps_iff.mpr ⟨front, .advance, [], rfl, rfl⟩
  have position : step.before.position = 4 := by decide
  have ended : step.before.rest = [] := by decide
  obtain ⟨_, _, _, _, _, answered⟩ := scans_account_for_text ⟨0⟩ "ab;" (front ++ [.advance])
  obtain ⟨error, refused⟩ := (answered step member).refused_iff.mpr fun more => more ended
  obtain ⟨stays, _, place⟩ := (answered step member).error_in_place error (.inl refused)
  exact ⟨member, position, error, refused, stays, by rw [place, position]; rfl⟩

/-- At the end of a text the empty text is what comes next, and to expect it moves the cursor past
the end. -/
theorem position_beyond_text :
    ¬ ∀ (text : String) (requests : List (Cursor.Request Unit)),
      ((Cursor.start ⟨0⟩ text : Cursor Unit).after requests).position ≤ text.length :=
  fun within => absurd (within "" [.expect ""]) (by decide)

end GenericSignature
