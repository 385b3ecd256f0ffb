import GenericSignature.Proofs.Batches

/-!
# A class shared by many methods

What becomes of a class while it is used: its signature is read, methods are parsed in its context,
one by one and in batches, and some of this fails.

1. `ClassUse.Goes` says once what a use can do: it asks for the signature of the class, and fails
   with the class or goes on quietly (`ClassUse.goes_step`).
2. What every use keeps holds after any number of uses (`ClassUse.forall_history`), and no link
   that was set is ever changed (`ClassUse.pairwise_history`).
3. A class with a well-formed signature has it read once and shared by all; one with a malformed
   signature lets every use fail with the same error; one without a signature links nothing
   (`shared_class_stable`).
-/

namespace GenericSignature

open Grammar

/-! ## Uses -/

/-- A use of a class.  A batch may leave it to the settings whether it ends at the first malformed
line. -/
inductive ClassUse where
  | read
  | method (text : String)
  | batch (failFast : Option Bool) (lines : List String)
  | file (failFast : Option Bool) (bytes : ByteArray)

namespace ClassUse

/-- What a use answers. -/
inductive Answer where
  | signature (cls : Option (Registered ClassSig))
  | method (sig : Registered MethodSig)
  | batch (result : BatchResult)

/-- The method signatures in an answer. -/
def Answer.methods : Answer → List (Registered MethodSig)
  | signature _ => []
  | method sig => [sig]
  | batch result => result.parsed.map ParsedLine.sig

/-- Makes use of a class. -/
def perform (id : ClassId) : ClassUse → SessionM Answer
  | read => .signature <$> SessionM.classSignature id
  | method text => .method <$> SessionM.parseMethod text (some id)
  | batch failFast lines => .batch <$> do
      let plan ← SessionM.planBatch (some id) failFast
      SessionM.runBatch plan lines
  | file failFast bytes => .batch <$> do
      let plan ← SessionM.planBatch (some id) failFast
      SessionM.runFile plan bytes

/-- A use that was made: what it gave, and the session after it. -/
structure Step where
  use : ClassUse
  result : Except Failure Answer
  after : Session

/-- The method signatures that a step gave. -/
def Step.methods (step : Step) : List (Registered MethodSig) :=
  match step.result with
  | .ok answer => answer.methods
  | .error _ => []

/-- The step that a use makes in a session. -/
def step (id : ClassId) (session : Session) (use : ClassUse) : Step :=
  ⟨use, ((use.perform id).outcome session).1, ((use.perform id).outcome session).2⟩

/-- The steps that uses make, one after the other, whether they fail or not. -/
def history (id : ClassId) : Session → List ClassUse → List Step
  | _, [] => []
  | session, use :: uses => use.step id session :: history id (use.step id session).after uses

end ClassUse

/-! ## What a session holds -/

/-- The session has given the method out, with its type variables linked to it and to the class. -/
structure Session.HoldsMethod (session : Session) (cls : Option SigId)
    (sig : Registered MethodSig) : Prop where
  issued : sig.id.serial < session.issued
  linked : session.LinksOf sig.id sig.tree.typeVars.length ⟨some sig.id, cls⟩

/-- The session has read the signature of the class and keeps it, with its type variables linked to
it and to no method. -/
structure Session.HoldsClass (session : Session) (id : ClassId) (cls : Registered ClassSig) :
    Prop where
  told : (session.known id).text ≠ none
  kept : (session.known id).parsed = some cls
  issued : cls.id.serial < session.issued
  linked : session.LinksOf cls.id cls.tree.typeVars.length ⟨none, some cls.id⟩

/-- The session knows its settings, and the class has a signature text that is still to be read. -/
structure Session.Unread (session : Session) (settings : Settings) (id : ClassId) (text : String) :
    Prop where
  fresh : session.Fresh
  valid : session.inForce = .valid settings
  told : (session.known id).text = some text
  parsed : (session.known id).parsed = none

namespace Session

variable {session before after : Session} {settings : Settings} {id : ClassId}
  {link : Option SigId} {text : String}

theorem Unread.later (unread : before.Unread settings id text) (extended : Extends before after)
    (same : after.classes = before.classes) : after.Unread settings id text := by
  have known : after.known id = before.known id := by
    unfold Session.known
    rw [same]
  exact ⟨extended.fresh unread.fresh, extended.inForce_eq.trans unread.valid,
    known ▸ unread.told, known ▸ unread.parsed⟩

theorem Quiet.known_eq (quiet : Quiet before after) (id : ClassId) :
    after.known id = before.known id := by
  unfold known
  rw [quiet.classes_eq]

theorem HoldsMethod.later {sig : Registered MethodSig} (held : before.HoldsMethod link sig)
    (extended : Extends before after) : after.HoldsMethod link sig :=
  ⟨Nat.lt_of_lt_of_le held.issued extended.issued_le, held.linked.kept held.issued extended⟩

theorem HoldsClass.later {cls : Registered ClassSig} (held : before.HoldsClass id cls)
    (quiet : Quiet before after) : after.HoldsClass id cls where
  told := by rw [quiet.known_eq]; exact held.told
  kept := by rw [quiet.known_eq]; exact held.kept
  issued := Nat.lt_of_lt_of_le held.issued quiet.issued_le
  linked := held.linked.kept held.issued quiet.toExtends

theorem HoldsClass.answers {cls : Registered ClassSig} (held : session.HoldsClass id cls) :
    (SessionM.classSignature id).Answers session (some cls) session := by
  obtain ⟨text, told⟩ := Option.ne_none_iff_exists'.mp held.told
  exact SessionM.classSignature_read told held.kept

theorem Unread.outcome (unread : session.Unread settings id text) :
    (SessionM.classSignature id).outcome session =
      match ClassSig.parse settings.maxLength text with
      | .ok (tree, _) =>
          (.ok (some ⟨⟨session.issued⟩, tree⟩),
            session.classRead settings id text ⟨⟨session.issued⟩, tree⟩)
      | .error error =>
          (.error (.grammar error), (session.noted (.readingClass text)).loaded settings) :=
  SessionM.classSignature_unread unread.fresh unread.valid unread.told unread.parsed

theorem Unread.holdsClass (unread : session.Unread settings id text) (tree : ClassSig) :
    (session.classRead settings id text ⟨⟨session.issued⟩, tree⟩).HoldsClass id
      ⟨⟨session.issued⟩, tree⟩ where
  told := by
    rw [known_classRead unread.told]
    exact unread.told ▸ Option.some_ne_none text
  kept := by rw [known_classRead unread.told]
  issued := by
    rw [issued_classRead]
    exact Nat.lt_succ_self _
  linked := linksOf_classRead unread.fresh rfl

theorem holdsMethod_methodRead (fresh : session.Fresh) {sig : Registered MethodSig}
    (read : session.methodRead settings link text = (.ok sig, after)) :
    after.HoldsMethod link sig := by
  obtain ⟨_, issued, linked⟩ := linksOf_methodRead fresh (congrArg Prod.fst read)
  rw [read] at issued linked
  exact ⟨issued, linked⟩

/-- What was parsed on the way through the lines is held at their end. -/
theorem Sorts.held {number : Nat} {lines : List String} {parsed : List ParsedLine}
    {failures : List FailedLine}
    (sorts : Sorts settings link session number lines parsed failures after)
    (fresh : session.Fresh) (valid : session.inForce = .valid settings) :
    ∀ entry ∈ parsed, after.HoldsMethod link entry.sig := by
  induction sorts with
  | done => nofun
  | passed _ _ ih => exact ih fresh valid
  | @parsed session middle _ _ _ text _ sig _ _ _ read more ih =>
      -- the lines that come after it do not touch its links
      have noted : (session.noted (.readingMethod text)).Fresh := fresh
      have first := quiet_lineRead valid read
      have validMiddle := first.inForce_eq.trans valid
      refine List.forall_mem_cons.mpr ⟨?_, ih (first.fresh fresh) validMiddle⟩
      exact (holdsMethod_methodRead noted read).later (more.quiet validMiddle).toExtends
  | @failed _ middle _ number _ _ _ error _ _ _ read _ ih =>
      have first := (quiet_lineRead valid read).trans (quiet_skipped middle number error)
      exact ih (first.fresh fresh) (first.inForce_eq.trans valid)

end Session

/-! ## One use -/

namespace ClassUse

/-- The step answers the signature of the class if it was to read it, and holds the methods that it
parsed, linked to that signature. -/
structure Step.Serves (step : Step) (cls : Option (Registered ClassSig)) : Prop where
  read : step.use = .read → step.result = .ok (.signature cls)
  methods : ∀ sig ∈ step.methods, step.after.HoldsMethod (cls.map Registered.id) sig

/-- How a use of a class goes: first its signature is asked for.  If that fails, so does the use;
else it goes on and leaves the classes alone. -/
inductive Goes (id : ClassId) (session : Session) (step : Step) : Prop
  | refused {begun : Session} {failure : Failure} : session.Quiet begun →
      (SessionM.classSignature id).Fails begun failure step.after →
      step.result = .error failure → Goes id session step
  | served {begun middle : Session} {cls : Option (Registered ClassSig)} : session.Quiet begun →
      (SessionM.classSignature id).Answers begun cls middle → middle.Quiet step.after →
      step.Serves cls → Goes id session step

variable {session begun : Session} {settings : Settings} {id : ClassId}

/-- In a session that knows its class, the operation leaves the classes alone and holds in the end
what it parsed. -/
def Gathers (settings : Settings) (context : Option ClassId) (operation : SessionM BatchResult) :
    Prop :=
  ∀ ⦃session : Session⦄ ⦃cls : Option (Registered ClassSig)⦄, session.Ready settings context cls →
    ∃ result after, operation.outcome session = (result, after) ∧ session.Quiet after ∧
      ∀ answer, result = .ok answer →
        ∀ entry ∈ answer.parsed, after.HoldsMethod (cls.map Registered.id) entry.sig

theorem gathers_finishBatch (context : Option ClassId) (failFast : Bool) (lines : List String) :
    Gathers settings context (SessionM.finishBatch ⟨context, failFast⟩ lines) := by
  intro session cls ready
  obtain ⟨parsed, failures, after, sorts⟩ := Session.sorts_exists settings
    (cls.map Registered.id) session 1 lines
  let ended := after.noted (.finished parsed.length (parsed.length + failures.length))
  have noted : after.Quiet ended := Session.quiet_noted after rfl
  have quiet := (sorts.quiet ready.valid).trans noted
  have held : ∀ answer : BatchResult, (.ok ⟨parsed, failures⟩ : Except Failure _) = .ok answer →
      ∀ entry ∈ answer.parsed, ended.HoldsMethod (cls.map Registered.id) entry.sig := by
    intro answer same entry member
    cases same
    exact (sorts.held ready.fresh ready.valid entry member).later noted.toExtends
  cases failFast with
  | false => exact ⟨_, ended, SessionM.finishBatch_keepGoing sorts ready, quiet, held⟩
  | true =>
      cases failures with
      | nil =>
          have same := SessionM.finishBatch_same sorts ready
          exact ⟨_, ended, same.trans (SessionM.finishBatch_keepGoing sorts ready), quiet, held⟩
      | cons failure failures =>
          -- what was parsed before the malformed line is lost with the batch
          obtain ⟨stop, fails, stopped⟩ := SessionM.finishBatch_stops sorts ready
          exact ⟨_, stop, fails, stopped, nofun⟩

theorem gathers_decoded (context : Option ClassId) (failFast : Bool) (bytes : ByteArray) :
    Gathers settings context (do
      SessionM.finishBatch ⟨context, failFast⟩ (← SessionM.decodeLines bytes)) := by
  intro session cls ready
  unfold SessionM.decodeLines
  cases String.fromUTF8? bytes with
  | none => exact ⟨_, session, rfl, .refl session, nofun⟩
  | some text => exact gathers_finishBatch context failFast _ ready

/-- A use does what the operation behind it does. -/
theorem step_eq {α : Type} {use : ClassUse} {operation : SessionM α} {kind : α → Answer}
    {result : Except Failure α} {after : Session} (performed : use.perform id = kind <$> operation)
    (given : operation.outcome session = (result, after)) :
    use.step id session = ⟨use, result.map kind, after⟩ := by
  have outcome : (use.perform id).outcome session = (result.map kind, after) := by
    rw [performed, map_eq_pure_bind, SessionM.outcome_bind, given]
    cases result <;> rfl
  unfold step
  rw [outcome]

theorem goes_read (session : Session) : Goes id session (read.step id session) := by
  rcases asked : (SessionM.classSignature id).outcome session with ⟨failure | cls, middle⟩
  · rw [step_eq rfl asked]
    exact .refused (.refl session) asked rfl
  · rw [step_eq rfl asked]
    exact .served (.refl session) asked (.refl middle) ⟨fun _ => rfl, nofun⟩

theorem goes_method (fresh : session.Fresh) (valid : session.inForce = .valid settings)
    (text : String) : Goes id session ((method text).step id session) := by
  have noted := Session.quiet_noted session (rfl : Event.isClassReading
    (.readingMethod text) = false)
  rcases asked : (SessionM.contextSignature (some id)).outcome
    (session.noted (.readingMethod text)) with ⟨failure | cls, middle⟩
  · rw [step_eq rfl (SessionM.parseMethod_context_fails asked)]
    exact .refused noted asked rfl
  · have extended := SessionM.contextSignature_extends (noted.fresh fresh) asked
    have validMiddle := extended.inForce_eq.trans (noted.inForce_eq.trans valid)
    have quiet := Session.quiet_methodRead validMiddle (cls.map Registered.id) text
    have parsed := SessionM.outcome_parseMethod_of_context fresh asked validMiddle
    rw [step_eq rfl parsed]
    refine .served noted asked quiet ⟨nofun, ?_⟩
    rcases read : middle.methodRead settings (cls.map Registered.id) text with
      ⟨error | sig, after⟩
    · nofun
    · intro _ member
      cases List.mem_singleton.mp member
      exact Session.holdsMethod_methodRead (extended.fresh (noted.fresh fresh)) read

/-- Where the lines of a batch come from makes no difference: the class comes before them. -/
theorem goes_batch (fresh : session.Fresh) (valid : session.inForce = .valid settings)
    {use : ClassUse} (other : use ≠ .read) (failFast : Option Bool)
    (lines : BatchPlan → SessionM BatchResult)
    (gathers : ∀ ends, Gathers settings (some id) (lines ⟨some id, ends⟩))
    (performed : use.perform id = Answer.batch <$> do
      let plan ← SessionM.planBatch (some id) failFast
      SessionM.openContext plan
      lines plan) :
    Goes id session (use.step id session) := by
  obtain ⟨begun, planned, quiet⟩ := SessionM.planBatch_answers valid (some id) failFast
  unfold SessionM.Answers at planned
  rcases asked : (SessionM.contextSignature (some id)).outcome begun with ⟨failure | cls, middle⟩
  · have stopped : (SessionM.planBatch (some id) failFast >>= fun plan =>
        SessionM.openContext plan >>= fun _ => lines plan).Fails session failure middle :=
      SessionM.fails_bind.mpr (.inr ⟨_, begun, planned,
        SessionM.fails_bind.mpr (.inl (SessionM.openContext_fails asked))⟩)
    rw [step_eq performed stopped]
    exact .refused quiet asked rfl
  · have extended := SessionM.contextSignature_extends (quiet.fresh fresh) asked
    have validMiddle := extended.inForce_eq.trans (quiet.inForce_eq.trans valid)
    have ready := SessionM.ready_contextNoted (quiet.fresh fresh) asked validMiddle
    have opened := Session.quiet_contextNoted middle (some id) cls
    obtain ⟨result, after, given, onward, held⟩ := gathers (failFast.getD settings.failFast) ready
    have ended : (SessionM.planBatch (some id) failFast >>= fun plan =>
        SessionM.openContext plan >>= fun _ => lines plan).outcome session = (result, after) := by
      rw [SessionM.outcome_bind, planned]
      simp only []
      rw [SessionM.outcome_openContext_bind asked, given]
    rw [step_eq performed ended]
    refine .served quiet asked (opened.trans onward) ⟨fun same => absurd same other, ?_⟩
    cases result with
    | error failure => nofun
    | ok answer =>
        intro sig member
        obtain ⟨entry, parsed, rfl⟩ := List.mem_map.mp member
        exact held answer rfl entry parsed

theorem goes_step (fresh : session.Fresh) (valid : session.inForce = .valid settings)
    (use : ClassUse) : Goes id session (use.step id session) := by
  cases use with
  | read => exact goes_read session
  | method text => exact goes_method fresh valid text
  | batch failFast lines =>
      exact goes_batch fresh valid nofun failFast
        (fun plan => SessionM.finishBatch plan lines)
        (fun ends => gathers_finishBatch (some id) ends lines) rfl
  | file failFast bytes =>
      exact goes_batch fresh valid nofun failFast
        (fun plan => SessionM.decodeLines bytes >>= SessionM.finishBatch plan)
        (fun ends => gathers_decoded (some id) ends bytes) rfl

/-- Once the class is settled, a use leaves it as it is. -/
theorem Goes.settled {step : Step} {cls : Option (Registered ClassSig)}
    (goes : Goes id session step) (ready : session.Ready settings (some id) cls) :
    session.Quiet step.after ∧ step.Serves cls := by
  cases goes with
  | refused quiet fails _ =>
      cases fails.symm.trans (ready.later quiet).settled
  | served quiet asked onward serves =>
      cases asked.symm.trans (ready.later quiet).settled
      exact ⟨quiet.trans onward, serves⟩

/-- The first use of a class with a well-formed signature reads it. -/
theorem Goes.first_read {step : Step} {text : String} {tree : ClassSig} {names : List String}
    (goes : Goes id session step) (unread : session.Unread settings id text)
    (read : ClassSig.parse settings.maxLength text = .ok (tree, names)) :
    ∃ cls : Registered ClassSig, cls.tree = tree ∧ step.Serves (some cls) ∧
      step.after.HoldsClass id cls ∧
      step.after.classReadings = session.classReadings + 1 := by
  -- what a use does before it asks for the class leaves the class unread
  have reads : ∀ {begun : Session}, session.Quiet begun →
      (SessionM.classSignature id).outcome begun =
        (.ok (some ⟨⟨begun.issued⟩, tree⟩),
          begun.classRead settings id text ⟨⟨begun.issued⟩, tree⟩) := by
    intro begun quiet
    rw [(unread.later quiet.toExtends quiet.classes_eq).outcome, read]
  cases goes with
  | refused quiet fails _ => cases fails.symm.trans (reads quiet)
  | served quiet asked onward serves =>
      cases asked.symm.trans (reads quiet)
      have begun := unread.later quiet.toExtends quiet.classes_eq
      refine ⟨_, rfl, serves, (begun.holdsClass tree).later onward, ?_⟩
      rw [onward.readings_eq, Session.classReadings_classRead begun.valid, quiet.readings_eq]

/-- Every use of a class with a malformed signature fails with it, and the signature stays
unread. -/
theorem Goes.malformed {step : Step} {text : String} {error : GrammarError}
    (goes : Goes id session step) (unread : session.Unread settings id text)
    (failed : ClassSig.parse settings.maxLength text = .error error) :
    step.result = .error (.grammar error) ∧ step.after.classes = session.classes := by
  have fails : ∀ {begun : Session}, session.Quiet begun →
      (SessionM.classSignature id).outcome begun =
        (.error (.grammar error), (begun.noted (.readingClass text)).loaded settings) := by
    intro begun quiet
    rw [(unread.later quiet.toExtends quiet.classes_eq).outcome, failed]
  cases goes with
  | refused quiet refused given =>
      have same := refused.symm.trans (fails quiet)
      rw [Prod.mk.injEq, Except.error.injEq] at same
      rw [given, same.1, same.2, Session.loaded_classes]
      exact ⟨rfl, quiet.classes_eq⟩
  | served quiet asked _ _ => cases asked.symm.trans (fails quiet)

theorem classSignature_fails_extends {failure : Failure} {after : Session} (fresh : session.Fresh)
    (valid : session.inForce = .valid settings)
    (fails : (SessionM.classSignature id).Fails session failure after) : session.Extends after := by
  unfold SessionM.Fails at fails
  cases told : (session.known id).text with
  | none => cases fails.symm.trans (SessionM.classSignature_untold told)
  | some text =>
      cases read : (session.known id).parsed with
      | some sig => cases fails.symm.trans (SessionM.classSignature_read told read)
      | none =>
          rw [SessionM.classSignature_unread fresh valid told read] at fails
          split at fails
          · cases fails
          · have noted := Session.extends_noted session (.readingClass text)
            cases fails
            exact noted.trans (Session.quiet_loaded (noted.inForce_eq.trans valid)).toExtends

/-- Whatever a use gives, what had an identity before keeps its links. -/
theorem Goes.extends {step : Step} (goes : Goes id session step) (fresh : session.Fresh)
    (valid : session.inForce = .valid settings) : session.Extends step.after := by
  cases goes with
  | refused quiet fails _ =>
      exact quiet.toExtends.trans (classSignature_fails_extends (quiet.fresh fresh)
        (quiet.inForce_eq.trans valid) fails)
  | @served begun middle cls quiet asked onward _ =>
      have opened : (SessionM.contextSignature (some id)).Answers begun cls middle := asked
      exact (quiet.toExtends.trans
        (SessionM.contextSignature_extends (quiet.fresh fresh) opened)).trans onward.toExtends

end ClassUse

/-! ## Many uses -/

namespace ClassUse

variable {session : Session} {settings : Settings} {id : ClassId}

/-- What one use keeps and brings about holds for every use. -/
theorem forall_history {Inv : Session → Prop} {Good : Step → Prop}
    (one : ∀ (session : Session) (use : ClassUse), Inv session →
      Inv (use.step id session).after ∧ Good (use.step id session))
    (start : Inv session) (uses : List ClassUse) : ∀ step ∈ history id session uses, Good step := by
  induction uses generalizing session with
  | nil => exact fun _ member => absurd member List.not_mem_nil
  | cons use uses ih =>
      obtain ⟨kept, good⟩ := one session use start
      exact List.forall_mem_cons.mpr ⟨good, ih kept⟩

/-- Of any two moments of a history, the later one extends the earlier one. -/
theorem pairwise_history (fresh : session.Fresh) (valid : session.inForce = .valid settings)
    (uses : List ClassUse) :
    (session :: (history id session uses).map Step.after).Pairwise Session.Extends := by
  induction uses generalizing session with
  | nil => exact List.pairwise_singleton _ _
  | cons use uses ih =>
      have went : Goes id session (use.step id session) := goes_step fresh valid use
      have first := went.extends fresh valid
      have rest := ih (first.fresh fresh) (first.inForce_eq.trans valid)
      refine .cons (List.forall_mem_cons.mpr ⟨first, fun later member => ?_⟩) rest
      exact first.trans ((List.pairwise_cons.mp rest).1 later member)

theorem history_of_ready {cls : Option (Registered ClassSig)}
    (ready : session.Ready settings (some id) cls) (uses : List ClassUse) :
    ∀ step ∈ history id session uses, session.Quiet step.after ∧ step.Serves cls := by
  have one : ∀ (middle : Session) (use : ClassUse), session.Quiet middle →
      session.Quiet (use.step id middle).after ∧
        session.Quiet (use.step id middle).after ∧ (use.step id middle).Serves cls := by
    intro middle use quiet
    have readyMiddle := ready.later quiet
    have went := (goes_step readyMiddle.fresh readyMiddle.valid use).settled readyMiddle
    exact ⟨quiet.trans went.1, quiet.trans went.1, went.2⟩
  exact forall_history one (.refl session) uses

theorem history_of_malformed {text : String} {error : GrammarError}
    (unread : session.Unread settings id text)
    (failed : ClassSig.parse settings.maxLength text = .error error) (uses : List ClassUse) :
    ∀ step ∈ history id session uses,
      step.result = .error (.grammar error) ∧ step.after.classes = session.classes := by
  have one : ∀ (middle : Session) (use : ClassUse),
      session.Extends middle ∧ middle.classes = session.classes →
      (session.Extends (use.step id middle).after ∧
        (use.step id middle).after.classes = session.classes) ∧
      (use.step id middle).result = .error (.grammar error) ∧
        (use.step id middle).after.classes = session.classes := by
    intro middle use ⟨extended, same⟩
    have still := unread.later extended same
    have went : Goes id middle (use.step id middle) := goes_step still.fresh still.valid use
    have later := extended.trans (went.extends still.fresh still.valid)
    obtain ⟨refused, kept⟩ := went.malformed still failed
    exact ⟨⟨later, kept.trans same⟩, refused, kept.trans same⟩
  exact forall_history one ⟨.refl session, rfl⟩ uses

/-- A class with a well-formed signature has it read by the first use, and shared by all. -/
theorem history_of_wellFormed {text : String} {tree : ClassSig} {names : List String}
    (unread : session.Unread settings id text)
    (read : ClassSig.parse settings.maxLength text = .ok (tree, names)) (uses : List ClassUse) :
    ∃ cls : Registered ClassSig, cls.tree = tree ∧ ∀ step ∈ history id session uses,
      step.Serves (some cls) ∧ step.after.HoldsClass id cls ∧
        step.after.classReadings = session.classReadings + 1 := by
  cases uses with
  | nil => exact ⟨⟨⟨0⟩, tree⟩, rfl, fun _ member => absurd member List.not_mem_nil⟩
  | cons use uses =>
      have went : Goes id session (use.step id session) :=
        goes_step unread.fresh unread.valid use
      obtain ⟨cls, same, serves, held, counted⟩ := went.first_read unread read
      refine ⟨cls, same, List.forall_mem_cons.mpr ⟨⟨serves, held, counted⟩, ?_⟩⟩
      -- from here on the class is settled
      have extended := went.extends unread.fresh unread.valid
      have ready : (use.step id session).after.Ready settings (some id) (some cls) :=
        ⟨extended.fresh unread.fresh, extended.inForce_eq.trans unread.valid, held.answers⟩
      intro step member
      obtain ⟨quiet, serves⟩ := history_of_ready ready uses step member
      exact ⟨serves, held.later quiet, quiet.readings_eq.trans counted⟩

end ClassUse

/-- However often a class is used, what the uses gave stays linked as it was.  A well-formed
signature of the class is read once, and everything is linked to it; a malformed one lets every use
fail with its error, and is not kept; without a signature text there is none, and nothing is linked
to one. -/
theorem shared_class_stable {session : Session} {settings : Settings} {id : ClassId} {name : String}
    {text : Option String} (fresh : session.Fresh) (valid : session.inForce = .valid settings)
    (added : session.classes[id.serial]? = some ⟨name, text, none⟩) (uses : List ClassUse) :
    (session :: (ClassUse.history id session uses).map ClassUse.Step.after).Pairwise
      Session.Extends ∧
    (∀ given tree, text = some given → (SessionM.parseClass given).Returns session tree →
      ∃ cls : Registered ClassSig, cls.tree = tree ∧ ∀ step ∈ ClassUse.history id session uses,
        step.Serves (some cls) ∧ step.after.HoldsClass id cls ∧
          step.after.classReadings = session.classReadings + 1) ∧
    (∀ given error, text = some given → (SessionM.parseClass given).Refuses session error →
      error.text = given ∧ ∀ step ∈ ClassUse.history id session uses,
        step.result = .error (.grammar error) ∧ step.after.classes = session.classes) ∧
    (text = none → ∀ step ∈ ClassUse.history id session uses,
      step.Serves none ∧ step.after.classes = session.classes) := by
  have known : session.known id = ⟨name, text, none⟩ := by
    unfold Session.known
    rw [added]
    rfl
  have unread : ∀ given, text = some given → session.Unread settings id given := fun given told =>
    ⟨fresh, valid, by rw [known, told], by rw [known]⟩
  refine ⟨ClassUse.pairwise_history fresh valid uses, fun given tree told returns => ?_,
    fun given error told refuses => ?_, fun untold step member => ?_⟩
  · obtain ⟨after, parsed⟩ := answer_of_parseClass fresh valid given
    obtain ⟨names, read⟩ := (SessionM.returns_iff_read parsed).mp returns
    exact ClassUse.history_of_wellFormed (unread given told) read uses
  · obtain ⟨after, parsed⟩ := answer_of_parseClass fresh valid given
    have failed := (SessionM.refuses_iff_read parsed).mp refuses
    exact ⟨(place_of_parseWithin failed).1,
      ClassUse.history_of_malformed (unread given told) failed uses⟩
  · have untold : (session.known id).text = none := by rw [known, untold]
    have ready : session.Ready settings (some id) none :=
      ⟨fresh, valid, SessionM.classSignature_untold untold⟩
    obtain ⟨quiet, serves⟩ := ClassUse.history_of_ready ready uses step member
    exact ⟨serves, quiet.classes_eq⟩

theorem shared_class_stable_of_box :
    let box : Session := { Session.start .empty with classes := #[⟨"Box", some "LA;", none⟩] }
    ∃ cls : Registered ClassSig, cls.tree = ⟨[], .classRef "A" [] [] [], []⟩ ∧
      ∀ step ∈ ClassUse.history ⟨0⟩ box
        [.method "(TE;)V", .method "(", .batch none ["()TE;", "(X"], .read],
        step.Serves (some cls) ∧ step.after.HoldsClass ⟨0⟩ cls ∧ step.after.classReadings = 1 := by
  intro box
  have fresh : box.Fresh := (Session.fresh_start .empty).congr rfl rfl
  have valid : box.inForce = .valid .standard := rfl
  have name : DerivesIdentifier "A".toList "A" := .mk (by decide)
  have class_ : DerivesClass "LA;".toList ⟨[], .classRef "A" [] [] [], []⟩ :=
    .mk (.mk .absent nofun) (.mk name .nil .absent .nil) .nil
  have short : "LA;".length ≤ Settings.standard.maxLength := by decide
  have returns := ((exact_parseClass fresh valid short).returns_iff _).mpr class_
  exact (shared_class_stable fresh valid rfl _).2.1 "LA;" _ rfl returns

end GenericSignature
