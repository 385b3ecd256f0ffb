import GenericSignature.Proofs.BackLinks
import GenericSignature.Proofs.Canonical

/-!
# Methods in the context of a class

The class around a method is the only context that a method can have.  It decides what the type
variables of the method are linked to.  Beyond that it can do one thing: if its signature has yet to
be read and cannot be, then no method of the class is read (`Session.RefusesClass`).

1. `context_of_method`: in any state of the class, either every method fails with the error in the
   class signature, or every method gives what it gives without a class.
2. A signature that was read is kept.  It counts for the methods of the class even if the class has
   another text by then (`replaced_class_text_not_read`).
-/

namespace GenericSignature

open Grammar

/-- What there is to know about a parser in a session apart from identities and links: the tree that
it answers, or how it fails. -/
def SessionM.verdict {α : Type} (parser : SessionM (Registered α)) (session : Session) :
    Except Failure α :=
  (parser.outcome session).1.map Registered.tree

/-- The signature of the class was not read before, and reading it fails with the error. -/
def Session.RefusesClass (session : Session) (id : ClassId) (error : GrammarError) : Prop :=
  ∃ text, (session.known id).text = some text ∧ (session.known id).parsed = none ∧
    (SessionM.parseClass text).Refuses session error

namespace SessionM

variable {α : Type} {session : Session} {settings : Settings} {id : ClassId}
  {context : Option ClassId} {text : String} {error : GrammarError}

theorem verdict_of_answerOf {parser : SessionM (Registered α)} {after : Session} {id : SigId}
    {read : Except GrammarError (α × List String)}
    (given : parser.outcome session = (answerOf id read, after)) :
    parser.verdict session = (read.map Prod.fst).mapError .grammar := by
  unfold verdict
  rw [given]
  cases read <;> rfl

theorem verdict_eq_of_fails {parser : SessionM (Registered α)} {failure : Failure}
    {after : Session} (fails : parser.Fails session failure after) :
    parser.verdict session = .error failure := by
  unfold verdict
  rw [fails]
  rfl

/-! ## Settings that are not understood -/

section Unsettled

variable {issues : List Issue}

theorem settings_fails (invalid : session.inForce = .invalid issues) :
    ∃ after, SessionM.settings.Fails session (.settings issues) after := by
  unfold Fails
  rw [outcome_settings, invalid]
  exact ⟨_, rfl⟩

theorem parseClass_unsettled (invalid : session.inForce = .invalid issues) (text : String) :
    ∃ after, (parseClass text).Fails session (.settings issues) after := by
  have noted : (session.noted (.readingClass text)).inForce = .invalid issues := invalid
  obtain ⟨after, fails⟩ := settings_fails noted
  exact ⟨after, fails_bind.mpr (.inr ⟨⟨⟩, _, rfl, fails_bind.mpr (.inl fails)⟩)⟩

/-- A class signature that is known, or that there is none, is answered without settings. -/
theorem contextSignature_unsettled (invalid : session.inForce = .invalid issues)
    (context : Option ClassId) :
    (∃ cls, (contextSignature context).Answers session cls session) ∨
      ∃ after, (contextSignature context).Fails session (.settings issues) after := by
  cases context with
  | none => exact .inl ⟨none, rfl⟩
  | some id =>
      cases told : (session.known id).text with
      | none => exact .inl ⟨none, classSignature_untold told⟩
      | some text =>
          cases read : (session.known id).parsed with
          | some sig => exact .inl ⟨some sig, classSignature_read told read⟩
          | none =>
              obtain ⟨after, fails⟩ := parseClass_unsettled invalid text
              refine .inr ⟨after, ?_⟩
              show (classSignature id).outcome session = _
              rw [outcome_classSignature, told, read]
              exact fails_bind.mpr (.inl fails)

theorem parseMethod_unsettled (invalid : session.inForce = .invalid issues) (text : String)
    (context : Option ClassId) :
    (parseMethod text context).verdict session = .error (.settings issues) := by
  have noted : (session.noted (.readingMethod text)).inForce = .invalid issues := invalid
  obtain ⟨after, fails⟩ : ∃ after,
      (parseMethod text context).Fails session (.settings issues) after := by
    rcases contextSignature_unsettled noted context with ⟨cls, opened⟩ | ⟨after, fails⟩
    · obtain ⟨after, fails⟩ := settings_fails noted
      exact ⟨after, fails_bind.mpr (.inr ⟨⟨⟩, _, rfl,
        fails_bind.mpr (.inr ⟨cls, _, opened, fails_bind.mpr (.inl fails)⟩)⟩)⟩
    · exact ⟨after, parseMethod_context_fails fails⟩
  exact verdict_eq_of_fails fails

end Unsettled

/-! ## Classes -/

/-- A class signature was refused by the grammar, not for the settings. -/
theorem parse_of_refuses (fresh : session.Fresh)
    (refuses : (parseClass text).Refuses session error) :
    ∃ settings, session.inForce = .valid settings ∧
      ClassSig.parse settings.maxLength text = .error error := by
  cases found : session.inForce with
  | invalid issues =>
      obtain ⟨_, refused⟩ := refuses
      obtain ⟨_, fails⟩ := parseClass_unsettled found text
      cases refused.symm.trans fails
  | valid settings =>
      obtain ⟨_, given⟩ := answer_of_parseClass fresh found text
      exact ⟨settings, rfl, (refuses_iff_read given).mp refuses⟩

/-- Methods of a class that is refused are refused for the same reason. -/
theorem parseMethod_of_refusesClass (fresh : session.Fresh)
    (refuses : session.RefusesClass id error) (text : String) :
    (parseMethod text (some id)).verdict session = .error (.grammar error) := by
  obtain ⟨given, told, unread, refused⟩ := refuses
  obtain ⟨settings, valid, failed⟩ := parse_of_refuses fresh refused
  let noted := session.noted (.readingMethod text)
  have fails : (contextSignature (some id)).Fails noted (.grammar error)
      ((noted.noted (.readingClass given)).loaded settings) := by
    have outcome : (classSignature id).outcome noted = _ :=
      classSignature_unread fresh valid told unread
    rw [failed] at outcome
    exact outcome
  exact verdict_eq_of_fails (parseMethod_context_fails fails)

theorem contextReads_of_known
    (reads : ∀ text, (session.known id).text = some text → (session.known id).parsed = none →
      ∃ read, ClassSig.parse settings.maxLength text = .ok read) :
    session.ContextReads settings (some id) := by
  rintro _ ⟨⟩ info found text told unread
  have known : session.known id = info := by
    unfold Session.known
    rw [Option.mem_def.mp found]
    rfl
  subst known
  exact reads text told unread

/-- Methods of any other class are read as without a class. -/
theorem parseMethod_of_accepted (fresh : session.Fresh)
    (accepted : ∀ error, ¬ session.RefusesClass id error) (text : String) :
    (parseMethod text (some id)).verdict session = (parseMethod text none).verdict session := by
  cases found : session.inForce with
  | invalid issues => rw [parseMethod_unsettled found, parseMethod_unsettled found]
  | valid settings =>
      have reads : session.ContextReads settings (some id) := by
        refine contextReads_of_known fun given told unread => ?_
        cases parsed : ClassSig.parse settings.maxLength given with
        | ok read => exact ⟨read, rfl⟩
        | error error =>
            obtain ⟨_, answered⟩ := answer_of_parseClass fresh found given
            have refuses := (refuses_iff_read answered).mpr parsed
            exact absurd ⟨given, told, unread, refuses⟩ (accepted error)
      obtain ⟨_, _, inside⟩ := outcome_parseMethod fresh found reads text
      have alone : session.ContextReads settings none := nofun
      obtain ⟨_, _, alone⟩ := outcome_parseMethod fresh found alone text
      rw [verdict_of_answerOf inside, verdict_of_answerOf alone]

/-- A method signature and its text determine each other, whatever the sessions and the classes. -/
theorem method_eq_iff_text_eq {other : Session} {text' : String} {context' : Option ClassId}
    {tree tree' : MethodSig} (returns : (parseMethod text context).Returns session tree)
    (returns' : (parseMethod text' context').Returns other tree') :
    tree = tree' ↔ text = text' := by
  obtain ⟨_, _, answers⟩ := returns
  obtain ⟨_, _, answers'⟩ := returns'
  obtain ⟨_, _, read⟩ := read_of_parseMethod answers
  obtain ⟨_, _, read'⟩ := read_of_parseMethod answers'
  have derives := decides_methodOnly.derives read
  have derives' := decides_methodOnly.derives read'
  constructor
  · rintro rfl
    rw [← (spelled_method tree).written derives, (spelled_method tree).written derives']
  · rintro rfl
    exact decides_methodOnly.unambiguous derives derives'

end SessionM

/-- If the signature of a class has yet to be read and is refused, every method of the class fails
with that error, whatever its text; otherwise every method gives the tree or the failure that it
gives without a class.  The trees of two methods are equal exactly if their texts are, in whatever
sessions and classes they were read.  The classes are those of `ClassInfo`: a context that supplies
a signature in another way is not modelled. -/
theorem context_of_method {session : Session} (fresh : session.Fresh) :
    (∀ text id error, session.RefusesClass id error →
      (SessionM.parseMethod text (some id)).verdict session = .error (.grammar error)) ∧
    (∀ text id, (∀ error, ¬ session.RefusesClass id error) →
      (SessionM.parseMethod text (some id)).verdict session =
        (SessionM.parseMethod text none).verdict session) ∧
    ∀ earlier later text text' context context' tree tree',
      (SessionM.parseMethod text context).Returns earlier tree →
      (SessionM.parseMethod text' context').Returns later tree' →
      (tree = tree' ↔ text = text') := by
  refine ⟨?_, ?_, ?_⟩
  · intro text id error refuses
    exact SessionM.parseMethod_of_refusesClass fresh refuses text
  · intro text id accepted
    exact SessionM.parseMethod_of_accepted fresh accepted text
  · intro earlier later text text' context context' tree tree' returns returns'
    exact SessionM.method_eq_iff_text_eq returns returns'

theorem context_of_method_in_refused_class :
    let box : Session := { Session.start .empty with classes := #[⟨"Box", some "V", none⟩] }
    box.RefusesClass ⟨0⟩ ⟨.missingSuperclass, "V", 0⟩ ∧
      (SessionM.parseMethod "(" (some ⟨0⟩)).verdict box =
        .error (.grammar ⟨.missingSuperclass, "V", 0⟩) := by
  intro box
  have fresh : box.Fresh := (Session.fresh_start .empty).congr rfl rfl
  have refuses : box.RefusesClass ⟨0⟩ ⟨.missingSuperclass, "V", 0⟩ := ⟨"V", rfl, rfl, _, rfl⟩
  exact ⟨refuses, (context_of_method fresh).1 "(" ⟨0⟩ _ refuses⟩

/-- A class gets another text after its signature was read.  The new text cannot be read, but a
method of the class can. -/
theorem replaced_class_text_not_read :
    let history : SessionM Unit := do
      let box ← SessionM.addClass "Box" (some "LX;")
      let _ ← SessionM.classSignature box
      SessionM.setClassText box (some "V")
    let session := (history.outcome (Session.start .empty)).2
    (session.known ⟨0⟩).text = some "V" ∧
      (SessionM.parseClass "V").Refuses session ⟨.missingSuperclass, "V", 0⟩ ∧
      (SessionM.parseMethod "()V" (some ⟨0⟩)).Returns session ⟨[], [], .base .void, []⟩ := by
  intro history session
  let box : Session := { Session.start .empty with classes := #[⟨"Box", some "LX;", none⟩] }
  let sig : Registered ClassSig := ⟨⟨0⟩, ⟨[], .classRef "X" [] [] [], []⟩⟩
  let read := box.classRead .standard ⟨0⟩ "LX;" sig
  have name : DerivesIdentifier "X".toList "X" := .mk (by decide)
  have cls : DerivesClass "LX;".toList sig.tree :=
    .mk (.mk .absent nofun) (.mk name .nil .absent .nil) .nil
  have fresh : box.Fresh := (Session.fresh_start .empty).congr rfl rfl
  have opened : (SessionM.classSignature ⟨0⟩).outcome box = (.ok (some sig), read) := by
    have parsed : ∃ names, ClassSig.parse Settings.standard.maxLength "LX;" =
        .ok (sig.tree, names) := decides_classOnly.parse_eq_ok.mpr cls
    obtain ⟨names, parsed⟩ := parsed
    have unread : (SessionM.classSignature ⟨0⟩).outcome box = _ :=
      SessionM.classSignature_unread fresh inForce_start rfl rfl
    rw [parsed] at unread
    exact unread
  have replaced : session = ((SessionM.setClassText ⟨0⟩ (some "V")).outcome read).2 := by
    have step : history.outcome (Session.start .empty) =
        (SessionM.classSignature ⟨0⟩ >>= fun _ =>
          SessionM.setClassText ⟨0⟩ (some "V")).outcome box := rfl
    show (history.outcome (Session.start .empty)).2 = _
    rw [step, SessionM.outcome_bind, opened]
  have valid : session.inForce = .valid .standard := by
    rw [replaced]
    rfl
  have freshNow : session.Fresh := by
    have extended : box.Extends read := Session.extends_classRead inForce_start
    rw [replaced]
    exact SessionM.keeps_modifyClass _ _ (extended.fresh fresh)
  have known : session.known ⟨0⟩ = ⟨"Box", some "V", some sig⟩ := by
    rw [replaced]
    rfl
  refine ⟨congrArg ClassInfo.text known, ?_, ?_⟩
  · rw [replaced]
    exact ⟨_, rfl⟩
  · have reads : session.ContextReads .standard (some ⟨0⟩) := by
      refine SessionM.contextReads_of_known fun _ _ unread => ?_
      rw [known] at unread
      cases unread
    have short : "()V".length ≤ Settings.standard.maxLength := by decide
    exact ((exact_parseMethod freshNow valid short reads).returns_iff _).mpr
      (.mk (.mk .absent nofun) .nil (.primitive (by decide)) .nil)

end GenericSignature
