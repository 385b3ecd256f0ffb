import GenericSignature.Proofs.BackLinks
import GenericSignature.Proofs.Canonical
import GenericSignature.Session.Batch

/-!
# Batches

What becomes of the lines of a batch.

1. `candidates` are the lines of a batch that hold a signature text, with their numbers.  Blanks
   around a method signature are not lost on it: the text of such a line is the signature
   (`strip_signature`).
2. `Session.Sorts` is the loop over the lines without its accumulators.  The batch that keeps going
   answers what it sorts (`Session.Sorts.keepGoing`); the one that ends at the first malformed line
   does the same until it meets one (`Session.Sorts.failFast_same`,
   `Session.Sorts.failFast_stops`).
3. Nothing is lost, doubled, moved or changed on the way (`batch_faithful`).
-/

namespace GenericSignature

open Grammar

/-! ## Candidates -/

/-- The text of a line without the blanks around it, if that is neither empty nor a comment. -/
def signatureText? (line : String) : Option String :=
  let text := Text.strip Text.isBlank line.toList
  if text ≠ [] ∧ text.head? ≠ some '#' then some (String.ofList text) else none

/-- The lines that hold a signature text, numbered from `first` on. -/
def candidatesFrom (first : Nat) (lines : List String) : List (Nat × String) :=
  (lines.zipIdx first).filterMap fun (line, number) => (signatureText? line).map (number, ·)

/-- The lines of a batch that hold a signature text.  The first line has the number one. -/
def candidates (lines : List String) : List (Nat × String) := candidatesFrom 1 lines

theorem candidate?_eq (line : String) : candidate? line = signatureText? line := by
  unfold candidate? signatureText?
  cases Text.strip Text.isBlank line.toList with
  | nil => rfl
  | cons c text => by_cases hash : c = '#' <;> simp [hash]

theorem candidatesFrom_cons (first : Nat) (line : String) (lines : List String) :
    candidatesFrom first (line :: lines) =
      ((candidate? line).map (first, ·)).toList ++ candidatesFrom (first + 1) lines := by
  unfold candidatesFrom
  rw [List.zipIdx_cons, List.filterMap_cons, candidate?_eq]
  dsimp only
  cases signatureText? line <;> rfl

theorem mem_candidatesFrom {first number : Nat} {text : String} {lines : List String} :
    (number, text) ∈ candidatesFrom first lines ↔
      ∃ index line, number = first + index ∧ lines[index]? = some line ∧
        candidate? line = some text := by
  induction lines generalizing first with
  | nil => simp [candidatesFrom]
  | cons line lines ih =>
      rw [candidatesFrom_cons, List.mem_append, ih]
      constructor
      · rintro (here | ⟨index, found, rfl, at_, is⟩)
        · obtain ⟨_, is, equal⟩ := Option.map_eq_some_iff.mp (Option.mem_toList.mp here)
          cases equal
          exact ⟨0, line, rfl, rfl, is⟩
        · exact ⟨index + 1, found, Nat.add_right_comm first 1 index, at_, is⟩
      · rintro ⟨_ | index, found, rfl, at_, is⟩
        · cases at_
          refine .inl ?_
          rw [is]
          exact List.mem_cons_self
        · exact .inr ⟨index, found, (Nat.add_right_comm first 1 index).symm, at_, is⟩

theorem le_of_mem_candidatesFrom {first number : Nat} {text : String} {lines : List String}
    (member : (number, text) ∈ candidatesFrom first lines) : first ≤ number := by
  obtain ⟨index, _, rfl, _⟩ := mem_candidatesFrom.mp member
  exact Nat.le_add_right first index

/-! ## Blanks around a signature -/

/-- The characters that a type can end with. -/
def typeEnds : List Char := ';' :: primitives.map Prod.fst

/-- The text ends with a character that a type can end with. -/
def EndsType (text : List Char) : Prop := ∃ c ∈ typeEnds, text.getLast? = some c

theorem EndsType.append {back : List Char} (ends : EndsType back) (front : List Char) :
    EndsType (front ++ back) := by
  obtain ⟨c, member, last⟩ := ends
  exact ⟨c, member, by rw [List.getLast?_append, last]; rfl⟩

theorem endsType_semicolon : EndsType [';'] := ⟨';', by decide, rfl⟩

theorem TypeSig.endsType_encode (tree : TypeSig) : EndsType tree.encode := by
  cases tree with
  | base type => exact ⟨type.code, by cases type <;> decide, by simp [TypeSig.encode]⟩
  | classRef name args suffixes suffixArgs =>
      rw [TypeSig.encode]
      exact endsType_semicolon.append _
  | typeVar name =>
      rw [TypeSig.encode]
      exact endsType_semicolon.append _
  | array dims elem =>
      rw [TypeSig.encode]
      exact elem.endsType_encode.append _

theorem MethodSig.endsType_encode (sig : MethodSig) : EndsType sig.encode := by
  have throws : ∀ (thrown : List TypeSig) (front : List Char), EndsType front →
      EndsType (front ++ thrown.flatMap fun type => '^' :: type.encode) := by
    intro thrown
    induction thrown with
    | nil =>
        intro front ends
        rwa [List.flatMap_nil, List.append_nil]
    | cons type thrown ih =>
        intro front ends
        rw [List.flatMap_cons, ← List.append_assoc]
        refine ih _ ?_
        exact (type.endsType_encode.append ['^']).append front
  exact throws sig.throws _ ((sig.result.endsType_encode.append [')']).append _)

theorem MethodSig.starts_encode (sig : MethodSig) : Starts ['<', '('] sig.encode := by
  unfold MethodSig.encode encodeParams bracketed
  split
  · exact .cons (by decide)
  · exact .cons (by decide)

theorem strip_signature {blank : Char → Bool} {left text right : List Char} {first last : Char}
    (before : ∀ c ∈ left, blank c = true) (after : ∀ c ∈ right, blank c = true)
    (head : text.head? = some first) (firstOk : blank first = false)
    (tail : text.getLast? = some last) (lastOk : blank last = false) :
    Text.strip blank (left ++ text ++ right) = text := by
  have front : (left ++ text ++ right).dropWhile blank = text ++ right := by
    rw [List.append_assoc, List.dropWhile_append_of_pos before]
    obtain ⟨rest, rfl⟩ := List.head?_eq_some_iff.mp head
    rw [List.cons_append, List.dropWhile_cons_of_neg (by simp [firstOk])]
  have back : (text ++ right).reverse.dropWhile blank = text.reverse := by
    rw [List.reverse_append, List.dropWhile_append_of_pos (by simpa using after)]
    rw [← List.head?_reverse] at tail
    obtain ⟨rest, reversed⟩ := List.head?_eq_some_iff.mp tail
    rw [reversed, List.dropWhile_cons_of_neg (by simp [lastOk])]
  unfold Text.strip Text.stripEnd
  rw [front, back, List.reverse_reverse]

/-- A line that holds a method signature and blanks has the signature for its text. -/
theorem candidate?_of_derives {text : String} {tree : MethodSig} {left right : String}
    (derives : DerivesMethod text.toList tree)
    (before : ∀ c ∈ left.toList, Text.isBlank c = true)
    (after : ∀ c ∈ right.toList, Text.isBlank c = true) :
    candidate? (left ++ text ++ right) = some text := by
  have written : text.toList = tree.encode := ((spelled_method tree _).mp derives).2
  obtain ⟨first, opening, head⟩ := tree.starts_encode
  obtain ⟨last, ending, tail⟩ := tree.endsType_encode
  rw [← written] at head tail
  have openings : ∀ c ∈ ['<', '('], Text.isBlank c = false ∧ c ≠ '#' :=
    List.forall_mem_cons.mpr ⟨by decide, List.forall_mem_singleton.mpr (by decide)⟩
  have endings : ∀ c ∈ typeEnds, Text.isBlank c = false := by
    have table : typeEnds.all (fun c => !Text.isBlank c) = true := by decide
    intro c member
    simpa using List.all_eq_true.mp table c member
  have stripped : Text.strip Text.isBlank (left ++ text ++ right).toList = text.toList := by
    rw [String.toList_append, String.toList_append]
    exact strip_signature before after head (openings first opening).1 tail (endings last ending)
  rw [candidate?_eq]
  unfold signatureText?
  rw [stripped, if_pos, String.ofList_toList]
  refine ⟨?_, ?_⟩
  · intro empty
    rw [empty] at head
    cases head
  · rw [head, ne_eq, Option.some.injEq]
    exact (openings first opening).2

/-! ## Lines, one after the other -/

/-- The session after a line was read in a context that is known. -/
def Session.lineRead (session : Session) (settings : Settings) (cls : Option SigId)
    (text : String) : Except GrammarError (Registered MethodSig) × Session :=
  (session.noted (.readingMethod text)).methodRead settings cls text

/-- What becomes of the lines from a number on, and of the session: lines without a signature are
passed over, the others are parsed or left out. -/
inductive Session.Sorts (settings : Settings) (cls : Option SigId) :
    Session → Nat → List String → List ParsedLine → List FailedLine → Session → Prop
  | done {session : Session} {number : Nat} : Sorts settings cls session number [] [] [] session
  | passed {session after : Session} {number : Nat} {line : String} {lines : List String}
      {parsed : List ParsedLine} {failures : List FailedLine} :
      candidate? line = none →
      Sorts settings cls session (number + 1) lines parsed failures after →
      Sorts settings cls session number (line :: lines) parsed failures after
  | parsed {session middle after : Session} {number : Nat} {line text : String}
      {lines : List String} {sig : Registered MethodSig} {parsed : List ParsedLine}
      {failures : List FailedLine} :
      candidate? line = some text →
      session.lineRead settings cls text = (.ok sig, middle) →
      Sorts settings cls middle (number + 1) lines parsed failures after →
      Sorts settings cls session number (line :: lines) (⟨number, text, sig⟩ :: parsed) failures
        after
  | failed {session middle after : Session} {number : Nat} {line text : String}
      {lines : List String} {error : GrammarError} {parsed : List ParsedLine}
      {failures : List FailedLine} :
      candidate? line = some text →
      session.lineRead settings cls text = (.error error, middle) →
      Sorts settings cls (middle.noted (.skipped number error)) (number + 1) lines parsed failures
        after →
      Sorts settings cls session number (line :: lines) parsed (⟨number, text, error⟩ :: failures)
        after

/-- The session knows its settings and the class that methods are read in the context of, so that
neither is looked up in vain. -/
structure Session.Ready (session : Session) (settings : Settings) (context : Option ClassId)
    (cls : Option (Registered ClassSig)) : Prop where
  fresh : session.Fresh
  valid : session.inForce = .valid settings
  settled : (SessionM.contextSignature context).Answers session cls session

namespace Session

variable {session after : Session} {settings : Settings} {context : Option ClassId}
  {cls : Option (Registered ClassSig)} {text : String}

theorem Ready.later (ready : session.Ready settings context cls) (quiet : Quiet session after) :
    after.Ready settings context cls :=
  ⟨quiet.fresh ready.fresh, quiet.inForce_eq.trans ready.valid,
    SessionM.contextSignature_again ready.fresh ready.settled quiet.classes_eq⟩

theorem quiet_lineRead {link : Option SigId} {read : Except GrammarError (Registered MethodSig)}
    (valid : session.inForce = .valid settings)
    (reads : session.lineRead settings link text = (read, after)) : Quiet session after := by
  have noted : (session.noted (.readingMethod text)).inForce = .valid settings := valid
  have quiet := (quiet_noted session rfl).trans (quiet_methodRead noted link text)
  have same : ((session.noted (.readingMethod text)).methodRead settings link text).2 = after :=
    congrArg Prod.snd reads
  rwa [same] at quiet

theorem quiet_skipped (session : Session) (number : Nat) (error : GrammarError) :
    Quiet session (session.noted (.skipped number error)) :=
  quiet_noted session rfl

theorem sorts_exists (settings : Settings) (cls : Option SigId) (session : Session) (number : Nat)
    (lines : List String) :
    ∃ parsed failures after, Sorts settings cls session number lines parsed failures after := by
  induction lines generalizing session number with
  | nil => exact ⟨[], [], session, .done⟩
  | cons line lines ih =>
      cases is : candidate? line with
      | none =>
          obtain ⟨parsed, failures, after, sorts⟩ := ih session (number + 1)
          exact ⟨parsed, failures, after, .passed is sorts⟩
      | some text =>
          rcases read : session.lineRead settings cls text with ⟨error | sig, middle⟩
          · obtain ⟨parsed, failures, after, sorts⟩ :=
              ih (middle.noted (.skipped number error)) (number + 1)
            exact ⟨parsed, _, after, .failed is read sorts⟩
          · obtain ⟨parsed, failures, after, sorts⟩ := ih middle (number + 1)
            exact ⟨_, failures, after, .parsed is read sorts⟩

end Session

namespace SessionM

variable {session : Session} {settings : Settings} {context : Option ClassId}
  {cls : Option (Registered ClassSig)} {text : String}

theorem outcome_tryLine (ready : session.Ready settings context cls) (text : String) :
    (tryGrammar (parseMethod text context)).outcome session =
      (.ok (session.lineRead settings (cls.map Registered.id) text).1,
        (session.lineRead settings (cls.map Registered.id) text).2) := by
  have noted := ready.later (Session.quiet_noted session (rfl : Event.isClassReading
    (.readingMethod text) = false))
  rw [outcome_tryGrammar, outcome_parseMethod_of_context ready.fresh noted.settled noted.valid]
  unfold Session.lineRead
  rcases (session.noted (.readingMethod text)).methodRead settings (cls.map Registered.id) text with
    ⟨error | sig, after⟩ <;> rfl

/-! ### One line -/

variable {failFast : Bool} {number : Nat} {line : String} {lines : List String}
  {parsed : List ParsedLine} {failures : List FailedLine} {middle : Session}

theorem runLines_passed {plan : BatchPlan} (is : candidate? line = none) :
    runLines plan number (line :: lines) parsed failures =
      runLines plan (number + 1) lines parsed failures := by
  rw [runLines, is]

theorem outcome_runLines_parsed {sig : Registered MethodSig}
    (ready : session.Ready settings context cls) (is : candidate? line = some text)
    (read : session.lineRead settings (cls.map Registered.id) text = (.ok sig, middle)) :
    (runLines ⟨context, failFast⟩ number (line :: lines) parsed failures).outcome session =
      (runLines ⟨context, failFast⟩ (number + 1) lines (⟨number, text, sig⟩ :: parsed)
        failures).outcome middle := by
  rw [runLines, is]
  simp only []
  rw [outcome_bind, outcome_tryLine ready, read]

theorem outcome_runLines_failed {error : GrammarError}
    (ready : session.Ready settings context cls) (is : candidate? line = some text)
    (read : session.lineRead settings (cls.map Registered.id) text = (.error error, middle)) :
    (runLines ⟨context, failFast⟩ number (line :: lines) parsed failures).outcome session =
      if failFast then (.error (.grammar error), middle)
      else (runLines ⟨context, failFast⟩ (number + 1) lines parsed
        (⟨number, text, error⟩ :: failures)).outcome (middle.noted (.skipped number error)) := by
  rw [runLines, is]
  simp only []
  rw [outcome_bind, outcome_tryLine ready, read]
  cases failFast <;> rfl

end SessionM

/-! ### All lines -/

namespace Session.Sorts

variable {session after : Session} {settings : Settings} {context : Option ClassId}
  {cls : Option (Registered ClassSig)} {link : Option SigId} {number : Nat} {lines : List String}
  {parsed : List ParsedLine} {failures : List FailedLine}

theorem quiet (sorts : Sorts settings link session number lines parsed failures after)
    (valid : session.inForce = .valid settings) : Quiet session after := by
  induction sorts with
  | done => exact .refl _
  | passed _ _ ih => exact ih valid
  | parsed _ read _ ih =>
      have first := quiet_lineRead valid read
      exact first.trans (ih (first.inForce_eq.trans valid))
  | @failed _ middle _ number _ _ _ error _ _ _ read _ ih =>
      have first := quiet_lineRead valid read
      have noted := first.trans (quiet_skipped middle number error)
      exact noted.trans (ih (noted.inForce_eq.trans valid))

/-- The batch that keeps going answers what the lines were sorted into. -/
theorem keepGoing
    (sorts : Sorts settings (cls.map Registered.id) session number lines parsed failures after)
    (ready : session.Ready settings context cls) (done : List ParsedLine)
    (missed : List FailedLine) :
    (SessionM.runLines ⟨context, false⟩ number lines done missed).outcome session =
      (.ok ⟨done.reverse ++ parsed, missed.reverse ++ failures⟩, after) := by
  -- the loop gathers in reverse, on top of what came before
  induction sorts generalizing done missed with
  | done =>
      rw [List.append_nil, List.append_nil]
      rfl
  | passed is _ ih =>
      rw [SessionM.runLines_passed is]
      exact ih ready done missed
  | parsed is read _ ih =>
      have first := quiet_lineRead ready.valid read
      rw [SessionM.outcome_runLines_parsed ready is read, ih (ready.later first),
        List.reverse_cons, List.append_assoc]
      rfl
  | failed is read _ ih =>
      have first := quiet_lineRead ready.valid read
      rw [SessionM.outcome_runLines_failed ready is read, if_neg Bool.false_ne_true,
        ih (ready.later (first.trans (quiet_skipped _ _ _))), List.reverse_cons, List.append_assoc]
      rfl

/-- If no line is malformed, it makes no difference whether the batch would end there. -/
theorem failFast_same
    (sorts : Sorts settings (cls.map Registered.id) session number lines parsed [] after)
    (ready : session.Ready settings context cls) (done : List ParsedLine)
    (missed : List FailedLine) :
    (SessionM.runLines ⟨context, true⟩ number lines done missed).outcome session =
      (.ok ⟨done.reverse ++ parsed, missed.reverse⟩, after) := by
  generalize none : ([] : List FailedLine) = failures at sorts
  induction sorts generalizing done missed with
  | done =>
      rw [List.append_nil]
      rfl
  | passed is _ ih =>
      rw [SessionM.runLines_passed is]
      exact ih ready done missed none
  | parsed is read _ ih =>
      have first := quiet_lineRead ready.valid read
      rw [SessionM.outcome_runLines_parsed ready is read, ih (ready.later first) _ _ none,
        List.reverse_cons, List.append_assoc]
      rfl
  | failed => cases none

/-- The batch that ends at the first malformed line ends with the error of that line. -/
theorem failFast_stops {failure : FailedLine}
    (sorts : Sorts settings (cls.map Registered.id) session number lines parsed
      (failure :: failures) after)
    (ready : session.Ready settings context cls) (done : List ParsedLine)
    (missed : List FailedLine) :
    ∃ stop, (SessionM.runLines ⟨context, true⟩ number lines done missed).Fails session
      (.grammar failure.error) stop ∧ Quiet session stop := by
  generalize some : failure :: failures = all at sorts
  induction sorts generalizing done missed with
  | done => cases some
  | passed is _ ih =>
      rw [SessionM.runLines_passed is]
      exact ih ready done missed some
  | parsed is read _ ih =>
      have first := quiet_lineRead ready.valid read
      obtain ⟨stop, fails, quiet⟩ := ih (ready.later first) (⟨_, _, _⟩ :: done) missed some
      refine ⟨stop, ?_, first.trans quiet⟩
      unfold SessionM.Fails at fails ⊢
      rw [SessionM.outcome_runLines_parsed ready is read, fails]
  | failed is read _ _ =>
      cases some
      have first := quiet_lineRead ready.valid read
      refine ⟨_, ?_, first⟩
      unfold SessionM.Fails
      rw [SessionM.outcome_runLines_failed ready is read, if_pos rfl]

theorem parsed_read (sorts : Sorts settings link session number lines parsed failures after) :
    ∀ entry ∈ parsed, ∃ names,
      MethodSig.parse settings.maxLength entry.text = .ok (entry.sig.tree, names) := by
  induction sorts with
  | done => nofun
  | passed _ _ ih => exact ih
  | parsed _ read _ ih => exact List.forall_mem_cons.mpr ⟨methodRead_ok read, ih⟩
  | failed _ _ _ ih => exact ih

theorem failures_read (sorts : Sorts settings link session number lines parsed failures after) :
    ∀ entry ∈ failures, MethodSig.parse settings.maxLength entry.text = .error entry.error := by
  induction sorts with
  | done => nofun
  | passed _ _ ih => exact ih
  | parsed _ _ _ ih => exact ih
  | failed _ read _ ih => exact List.forall_mem_cons.mpr ⟨methodRead_error read, ih⟩

/-- Every line with a signature is either parsed or left out. -/
theorem perm (sorts : Sorts settings link session number lines parsed failures after) :
    (parsed.map (fun entry => (entry.line, entry.text)) ++
      failures.map fun entry => (entry.line, entry.text)).Perm (candidatesFrom number lines) := by
  induction sorts with
  | done => exact .refl _
  | passed is _ ih =>
      rw [candidatesFrom_cons, is]
      exact ih
  | parsed is _ _ ih =>
      rw [candidatesFrom_cons, is]
      exact .cons _ ih
  | failed is _ _ ih =>
      rw [candidatesFrom_cons, is]
      exact List.perm_middle.trans (.cons _ ih)

theorem parsed_mem (sorts : Sorts settings link session number lines parsed failures after) :
    ∀ entry ∈ parsed, (entry.line, entry.text) ∈ candidatesFrom number lines := fun _ member =>
  sorts.perm.subset (List.mem_append_left _ (List.mem_map_of_mem member))

theorem failures_mem (sorts : Sorts settings link session number lines parsed failures after) :
    ∀ entry ∈ failures, (entry.line, entry.text) ∈ candidatesFrom number lines := fun _ member =>
  sorts.perm.subset (List.mem_append_right _ (List.mem_map_of_mem member))

/-- The numbers of the lines ascend, in both lists. -/
theorem ascending (sorts : Sorts settings link session number lines parsed failures after) :
    parsed.Pairwise (fun entry later => entry.line < later.line) ∧
      failures.Pairwise fun entry later => entry.line < later.line := by
  induction sorts with
  | done => exact ⟨.nil, .nil⟩
  | passed _ _ ih => exact ih
  | parsed _ _ more ih =>
      refine ⟨.cons (fun entry member => ?_) ih.1, ih.2⟩
      exact le_of_mem_candidatesFrom (more.parsed_mem entry member)
  | failed _ _ more ih =>
      refine ⟨ih.1, .cons (fun entry member => ?_) ih.2⟩
      exact le_of_mem_candidatesFrom (more.failures_mem entry member)

end Session.Sorts

/-! ## Whole batches -/

/-- The session after the context of a batch was opened. -/
def Session.contextNoted (session : Session) (context : Option ClassId)
    (cls : Option (Registered ClassSig)) : Session :=
  match context with
  | none => session
  | some _ => session.noted (.usingClass (cls.map fun sig => sig.tree.display))

theorem Session.quiet_contextNoted (session : Session) (context : Option ClassId)
    (cls : Option (Registered ClassSig)) : Quiet session (session.contextNoted context cls) := by
  cases context with
  | none => exact .refl session
  | some id => exact quiet_noted session rfl

namespace SessionM

variable {session middle after : Session} {settings : Settings} {context : Option ClassId}
  {cls : Option (Registered ClassSig)} {failFast : Bool} {lines : List String}
  {parsed : List ParsedLine} {failures : List FailedLine}

theorem planBatch_answers (valid : session.inForce = .valid settings) (context : Option ClassId)
    (failFast : Option Bool) :
    ∃ begun, (planBatch context failFast).Answers session
        ⟨context, failFast.getD settings.failFast⟩ begun ∧
      session.Quiet begun := by
  cases failFast with
  | some ends => exact ⟨session, rfl, .refl session⟩
  | none => exact ⟨_, outcome_settings_bind valid _, Session.quiet_loaded valid⟩

theorem outcome_openContext_bind {β : Type}
    (opened : (contextSignature context).Answers session cls middle)
    (next : PUnit → SessionM β) :
    (openContext ⟨context, failFast⟩ >>= next).outcome session =
      (next ⟨⟩).outcome (middle.contextNoted context cls) := by
  cases context with
  | none =>
      cases opened
      rfl
  | some id =>
      have answered : (classSignature id).outcome session = (.ok cls, middle) := opened
      unfold openContext
      rw [outcome_bind, outcome_bind, answered]
      rfl

theorem openContext_fails {failure : Failure}
    (fails : (contextSignature context).Fails session failure middle) :
    (openContext ⟨context, failFast⟩).Fails session failure middle := by
  cases context with
  | none => cases fails
  | some id =>
      have failed : (classSignature id).outcome session = (.error failure, middle) := fails
      unfold Fails openContext
      rw [outcome_bind, failed]

/-- Once its context is read, a session is ready for the lines. -/
theorem ready_contextNoted (fresh : session.Fresh)
    (opened : (contextSignature context).Answers session cls middle)
    (valid : middle.inForce = .valid settings) :
    (middle.contextNoted context cls).Ready settings context cls := by
  have ready : middle.Ready settings context cls :=
    ⟨(contextSignature_extends fresh opened).fresh fresh, valid,
      contextSignature_again fresh opened rfl⟩
  exact ready.later (Session.quiet_contextNoted middle context cls)

theorem finishBatch_keepGoing
    (sorts : Session.Sorts settings (cls.map Registered.id) session 1 lines parsed failures after)
    (ready : session.Ready settings context cls) :
    (finishBatch ⟨context, false⟩ lines).outcome session =
      (.ok ⟨parsed, failures⟩,
        after.noted (.finished parsed.length (parsed.length + failures.length))) := by
  unfold finishBatch
  rw [outcome_bind, sorts.keepGoing ready]
  rfl

theorem finishBatch_same
    (sorts : Session.Sorts settings (cls.map Registered.id) session 1 lines parsed [] after)
    (ready : session.Ready settings context cls) :
    (finishBatch ⟨context, true⟩ lines).outcome session =
      (finishBatch ⟨context, false⟩ lines).outcome session := by
  rw [finishBatch_keepGoing sorts ready]
  unfold finishBatch
  rw [outcome_bind, sorts.failFast_same ready]
  rfl

theorem finishBatch_stops {failure : FailedLine}
    (sorts : Session.Sorts settings (cls.map Registered.id) session 1 lines parsed
      (failure :: failures) after)
    (ready : session.Ready settings context cls) :
    ∃ stop, (finishBatch ⟨context, true⟩ lines).Fails session (.grammar failure.error) stop ∧
      Session.Quiet session stop := by
  obtain ⟨stop, fails, quiet⟩ := sorts.failFast_stops ready [] []
  refine ⟨stop, ?_, quiet⟩
  unfold Fails finishBatch at *
  rw [outcome_bind, fails]

end SessionM

/-- An error is about the text that was read, and its place lies within that text. -/
theorem place_of_parseWithin {α : Type} {reader : Reader α} {limit : Nat} {text : String}
    {error : GrammarError} (failed : parseWithin limit reader text = .error error) :
    error.text = text ∧ 0 ≤ error.position ∧ error.position ≤ text.length := by
  unfold parseWithin at failed
  split at failed
  · rcases reader.reads_or_faults text.toList with ⟨tree, rest, reads⟩ | ⟨fault, rest, faults⟩
    · obtain ⟨names, parsed⟩ := Reader.parse_of_reads reads
      cases failed.symm.trans parsed
    · have shorter := faults.suffix.length_le
      cases failed.symm.trans (Reader.parse_of_faults faults)
      rw [String.length_toList] at shorter ⊢
      refine ⟨rfl, ?_, ?_⟩
      · exact Int.sub_nonneg.mpr (Int.ofNat_le.mpr shorter)
      · exact Int.sub_le_self _ (Int.natCast_nonneg _)
  · next long =>
      cases failed
      exact ⟨rfl, Int.natCast_nonneg _, Int.ofNat_le.mpr (Nat.le_of_not_le long)⟩

/-- The result says of every line with a signature what became of it, and of no other line.
`Accepts` and `Rejects` say what becomes of a text when it is parsed alone. -/
structure BatchResult.Faithful (result : BatchResult) (lines : List String)
    (Accepts : String → MethodSig → Prop) (Rejects : String → GrammarError → Prop) : Prop where
  parsed_ascending : (result.parsed.map ParsedLine.line).Pairwise (· < ·)
  failures_ascending : (result.failures.map FailedLine.line).Pairwise (· < ·)
  exhaustive : (result.parsed.map (fun entry => (entry.line, entry.text)) ++
    result.failures.map fun entry => (entry.line, entry.text)).Perm (candidates lines)
  parsed_iff : ∀ number text tree, (∃ id, ⟨number, text, ⟨id, tree⟩⟩ ∈ result.parsed) ↔
    (number, text) ∈ candidates lines ∧ Accepts text tree
  failures_iff : ∀ number text error, ⟨number, text, error⟩ ∈ result.failures ↔
    (number, text) ∈ candidates lines ∧ Rejects text error
  position_within : ∀ entry ∈ result.failures,
    0 ≤ entry.error.position ∧ entry.error.position ≤ entry.text.length
  total_eq : result.total = (candidates lines).length
  success_iff : result.success = true ↔
    ∀ number text, (number, text) ∈ candidates lines → ∃ tree, Accepts text tree

namespace Session.Sorts

variable {session after : Session} {settings : Settings} {link : Option SigId}
  {lines : List String} {parsed : List ParsedLine} {failures : List FailedLine}

theorem mem_or_mem (sorts : Sorts settings link session 1 lines parsed failures after)
    {number : Nat} {text : String} (candidate : (number, text) ∈ candidates lines) :
    (∃ sig, ⟨number, text, sig⟩ ∈ parsed) ∨ ∃ error, ⟨number, text, error⟩ ∈ failures := by
  rcases List.mem_append.mp (sorts.perm.symm.subset candidate) with place | place
  · obtain ⟨⟨_, _, sig⟩, member, equal⟩ := List.mem_map.mp place
    cases equal
    exact .inl ⟨sig, member⟩
  · obtain ⟨⟨_, _, error⟩, member, equal⟩ := List.mem_map.mp place
    cases equal
    exact .inr ⟨error, member⟩

theorem parsed_iff (sorts : Sorts settings link session 1 lines parsed failures after)
    {number : Nat} {text : String} {tree : MethodSig} :
    (∃ id, ⟨number, text, ⟨id, tree⟩⟩ ∈ parsed) ↔ (number, text) ∈ candidates lines ∧
      ∃ names, MethodSig.parse settings.maxLength text = .ok (tree, names) := by
  constructor
  · rintro ⟨id, member⟩
    exact ⟨sorts.parsed_mem _ member, sorts.parsed_read ⟨number, text, id, tree⟩ member⟩
  · rintro ⟨candidate, names, accepted⟩
    rcases sorts.mem_or_mem candidate with ⟨⟨id, found⟩, member⟩ | ⟨error, member⟩
    · obtain ⟨names', read⟩ := sorts.parsed_read ⟨number, text, id, found⟩ member
      cases accepted.symm.trans read
      exact ⟨id, member⟩
    · cases accepted.symm.trans (sorts.failures_read ⟨number, text, error⟩ member)

theorem failures_iff (sorts : Sorts settings link session 1 lines parsed failures after)
    {number : Nat} {text : String} {error : GrammarError} :
    ⟨number, text, error⟩ ∈ failures ↔ (number, text) ∈ candidates lines ∧
      MethodSig.parse settings.maxLength text = .error error := by
  constructor
  · intro member
    exact ⟨sorts.failures_mem _ member, sorts.failures_read ⟨number, text, error⟩ member⟩
  · rintro ⟨candidate, rejected⟩
    rcases sorts.mem_or_mem candidate with ⟨sig, member⟩ | ⟨found, member⟩
    · obtain ⟨names, read⟩ := sorts.parsed_read ⟨number, text, sig⟩ member
      cases rejected.symm.trans read
    · cases rejected.symm.trans (sorts.failures_read ⟨number, text, found⟩ member)
      exact member

theorem failures_eq_nil_iff (sorts : Sorts settings link session 1 lines parsed failures after) :
    failures = [] ↔ ∀ number text, (number, text) ∈ candidates lines →
      ∃ tree names, MethodSig.parse settings.maxLength text = .ok (tree, names) := by
  constructor
  · rintro rfl number text candidate
    rcases sorts.mem_or_mem candidate with ⟨⟨id, tree⟩, member⟩ | ⟨error, member⟩
    · exact ⟨tree, sorts.parsed_read ⟨number, text, id, tree⟩ member⟩
    · cases member
  · intro accepted
    rw [List.eq_nil_iff_forall_not_mem]
    intro entry member
    obtain ⟨tree, names, read⟩ := accepted _ _ (sorts.failures_mem entry member)
    cases read.symm.trans (sorts.failures_read entry member)

/-- The first failure is that of the first malformed line. -/
theorem first_failure (sorts : Sorts settings link session 1 lines parsed failures after)
    {number : Nat} {text : String} {error : GrammarError}
    (candidate : (number, text) ∈ candidates lines)
    (rejected : MethodSig.parse settings.maxLength text = .error error)
    (lowest : ∀ number' text', (number', text') ∈ candidates lines → number' < number →
      ∃ tree names, MethodSig.parse settings.maxLength text' = .ok (tree, names)) :
    ∃ more, failures = ⟨number, text, error⟩ :: more := by
  have member := sorts.failures_iff.mpr ⟨candidate, rejected⟩
  have ascending := sorts.ascending.2
  cases failures with
  | nil => cases member
  | cons first more =>
      rcases List.mem_cons.mp member with same | later
      · exact ⟨more, by rw [same]⟩
      · -- an earlier failure would be an earlier line that is malformed
        have earlier : first.line < number := (List.pairwise_cons.mp ascending).1 _ later
        obtain ⟨tree, names, read⟩ :=
          lowest _ _ (sorts.failures_mem first List.mem_cons_self) earlier
        cases read.symm.trans (sorts.failures_read first List.mem_cons_self)

end Session.Sorts

/-- A batch says of every line with a signature what parsing the line alone gives, in the order of
the lines.  If it is to end at the first malformed line, it ends with the error of that line, and
otherwise it does the same.  A line with blanks around a signature is a line with that signature.
The context of a batch is a class of the session (`ClassInfo`) or none. -/
theorem batch_faithful {session : Session} {settings : Settings} {context : Option ClassId}
    (fresh : session.Fresh) (valid : session.inForce = .valid settings)
    (reads : session.ContextReads settings context) (lines : List String) :
    (∃ result after, (SessionM.runBatch ⟨context, false⟩ lines).Answers session result after ∧
      result.Faithful lines
        (fun text => (SessionM.parseMethod text context).Returns session)
        (fun text => (SessionM.parseMethod text context).Refuses session) ∧
      ∀ text tree, (SessionM.parseMethod text context).Returns session tree →
        ∀ left right : String, (∀ c ∈ left.toList, Text.isBlank c = true) →
        (∀ c ∈ right.toList, Text.isBlank c = true) →
        ∀ index, lines[index]? = some (left ++ text ++ right) →
          ∃ id, ⟨index + 1, text, ⟨id, tree⟩⟩ ∈ result.parsed) ∧
    ((∀ number text, (number, text) ∈ candidates lines →
        ∃ tree, (SessionM.parseMethod text context).Returns session tree) →
      (SessionM.runBatch ⟨context, true⟩ lines).outcome session =
        (SessionM.runBatch ⟨context, false⟩ lines).outcome session) ∧
    ∀ number text error, (number, text) ∈ candidates lines →
      (SessionM.parseMethod text context).Refuses session error →
      (∀ number' text', (number', text') ∈ candidates lines → number' < number →
        ∃ tree, (SessionM.parseMethod text' context).Returns session tree) →
      ∃ after, (SessionM.runBatch ⟨context, true⟩ lines).Fails session (.grammar error) after := by
  -- a line is parsed alone before the batch, and in a later session within it: both come to the
  -- text under the settings
  have returns : ∀ text tree, (SessionM.parseMethod text context).Returns session tree ↔
      ∃ names, MethodSig.parse settings.maxLength text = .ok (tree, names) := by
    intro text tree
    obtain ⟨id, after, given⟩ := SessionM.outcome_parseMethod fresh valid reads text
    exact SessionM.returns_iff_read given
  have refuses : ∀ text error, (SessionM.parseMethod text context).Refuses session error ↔
      MethodSig.parse settings.maxLength text = .error error := by
    intro text error
    obtain ⟨id, after, given⟩ := SessionM.outcome_parseMethod fresh valid reads text
    exact SessionM.refuses_iff_read given
  obtain ⟨cls, middle, opened, _, validMiddle⟩ :=
    SessionM.contextSignature_answers fresh valid reads
  have ready := SessionM.ready_contextNoted fresh opened validMiddle
  obtain ⟨parsed, failures, after, sorts⟩ := Session.sorts_exists settings
    (cls.map Registered.id) (middle.contextNoted context cls) 1 lines
  have runs : ∀ failFast, (SessionM.runBatch ⟨context, failFast⟩ lines).outcome session =
      (SessionM.finishBatch ⟨context, failFast⟩ lines).outcome (middle.contextNoted context cls) :=
    fun failFast => SessionM.outcome_openContext_bind opened _
  simp only [returns, refuses]
  refine ⟨⟨⟨parsed, failures⟩, _, (runs false).trans (SessionM.finishBatch_keepGoing sorts ready),
    ?_, ?_⟩, ?_, ?_⟩
  · refine ⟨List.pairwise_map.mpr sorts.ascending.1, List.pairwise_map.mpr sorts.ascending.2,
      sorts.perm, fun _ _ _ => ?_, fun _ _ _ => ?_, fun entry member => ?_, ?_, ?_⟩
    · rw [returns]
      exact sorts.parsed_iff
    · rw [refuses]
      exact sorts.failures_iff
    · exact (place_of_parseWithin (sorts.failures_read entry member)).2
    · have length := sorts.perm.length_eq
      rw [List.length_append, List.length_map, List.length_map] at length
      exact length
    · simp only [returns]
      exact List.isEmpty_iff.trans sorts.failures_eq_nil_iff
  · rintro text tree ⟨names, accepted⟩ left right before after index line
    have text_of_line := candidate?_of_derives (decides_methodOnly.derives accepted) before after
    have candidate : (index + 1, text) ∈ candidates lines :=
      mem_candidatesFrom.mpr ⟨index, _, Nat.add_comm index 1, line, text_of_line⟩
    exact sorts.parsed_iff.mpr ⟨candidate, names, accepted⟩
  · intro accepted
    obtain rfl := sorts.failures_eq_nil_iff.mpr accepted
    rw [runs, runs, SessionM.finishBatch_same sorts ready]
  · intro number text error candidate rejected lowest
    obtain ⟨more, rfl⟩ := sorts.first_failure candidate rejected lowest
    obtain ⟨stop, fails, _⟩ := SessionM.finishBatch_stops sorts ready
    exact ⟨stop, (runs true).trans fails⟩

theorem batch_faithful_at_start :
    ∃ result after, (SessionM.runBatch ⟨none, false⟩ ["# first", "\t()V "]).Answers
      (Session.start .empty) result after ∧
      ∃ id, ⟨2, "()V", ⟨id, ⟨[], [], .base .void, []⟩⟩⟩ ∈ result.parsed := by
  have fresh := Session.fresh_start .empty
  have short : "()V".length ≤ Settings.standard.maxLength := by decide
  have reads : (Session.start .empty).ContextReads .standard none := nofun
  have exact := exact_parseMethod fresh inForce_start short reads
  have void := (exact.returns_iff ⟨[], [], .base .void, []⟩).mpr
    (.mk (.mk .absent nofun) .nil (.primitive (by decide)) .nil)
  obtain ⟨⟨result, after, answers, _, margins⟩, _⟩ := batch_faithful fresh inForce_start reads
    ["# first", "\t()V "]
  have tab : ∀ c ∈ "\t".toList, Text.isBlank c = true := List.forall_mem_singleton.mpr rfl
  have space : ∀ c ∈ " ".toList, Text.isBlank c = true := List.forall_mem_singleton.mpr rfl
  exact ⟨result, after, answers, margins "()V" _ void "\t" " " tab space 1 rfl⟩

end GenericSignature
