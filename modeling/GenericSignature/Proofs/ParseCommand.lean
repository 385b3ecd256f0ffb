import GenericSignature.Proofs.BatchReports
import GenericSignature.Proofs.Contexts

/-!
# The command for one method

The command that shows a method signature against the library call that it stands for: parsing the
method in a class whose signature is given.

1. What the call makes of the two texts depends on the settings alone (`SessionM.verdict_inClass`).
2. The command answers with the tree of the call and the signature of the class, and fails with the
   failure of the call; a class signature that is empty does not count for the command
   (`runParse_answers`, `runParse_fails`).
3. So at a terminal that is as documented, the exit code, the output and the report of an error
   agree with the call (`parse_command_agrees`).
4. Two things can get lost: an empty class signature that is given
   (`empty_class_signature_ignored`), and a backslash before a bracket (`backslash_not_shown`).
-/

namespace GenericSignature

open CommandLine Grammar

/-! ## The library call -/

/-- What the text of a method is parsed into if the signature of its class is given.  The signature
of the class comes first. -/
def methodInClass (limit : Nat) (text : String) (cls : Option String) :
    Except GrammarError MethodSig :=
  match cls.map (ClassSig.parse limit) with
  | some (.error error) => .error error
  | _ => (MethodSig.parse limit text).map Prod.fst

/-- What a method is parsed into in a session, or why it is not. -/
def Session.methodVerdict (session : Session) (text : String) (cls : Option String) :
    Except Failure MethodSig :=
  match session.inForce with
  | .valid settings => (methodInClass settings.maxLength text cls).mapError .grammar
  | .invalid issues => .error (.settings issues)

theorem Session.methodVerdict_congr {session other : Session}
    (same : session.inForce = other.inForce) (text : String) (cls : Option String) :
    session.methodVerdict text cls = other.methodVerdict text cls := by
  unfold methodVerdict
  rw [same]

namespace SessionM

/-- Parses a method in a class with the given signature. -/
def parseInClass (text : String) (cls : Option String) : SessionM (Registered MethodSig) := do
  let id ← addClass contextName cls
  parseMethod text (some id)

variable {α : Type} {session : Session} {text : String} {cls : Option String}

theorem verdict_eq_ok {parser : SessionM (Registered α)} {tree : α} :
    parser.verdict session = .ok tree ↔ parser.Returns session tree := by
  unfold verdict Returns Answers
  rcases parser.outcome session with ⟨failure | ⟨id, found⟩, after⟩
  · simp [Except.map]
  · simp [Except.map]

theorem verdict_eq_error {parser : SessionM (Registered α)} {failure : Failure} :
    parser.verdict session = .error failure ↔ ∃ after, parser.Fails session failure after := by
  unfold verdict Fails
  rcases parser.outcome session with ⟨other | sig, after⟩
  · simp [Except.map]
  · simp [Except.map]

theorem verdict_read {settings : Settings} (fresh : session.Fresh)
    (valid : session.inForce = .valid settings) (text : String) :
    (parseMethod text none).verdict session =
      ((MethodSig.parse settings.maxLength text).map Prod.fst).mapError .grammar := by
  have alone : session.ContextReads settings none := nofun
  obtain ⟨_, _, given⟩ := outcome_parseMethod fresh valid alone text
  exact verdict_of_answerOf given

/-- Without a class, a method is parsed into what its text is parsed into. -/
theorem verdict_alone (fresh : session.Fresh) (text : String) :
    (parseMethod text none).verdict session = session.methodVerdict text none := by
  unfold Session.methodVerdict
  cases found : session.inForce with
  | invalid issues => exact parseMethod_unsettled found text none
  | valid settings => exact verdict_read fresh found text

end SessionM

/-- The session with one more class, whose signature was not read yet. -/
def Session.withClass (session : Session) (name : String) (text : Option String) : Session :=
  { session with classes := session.classes.push ⟨name, text, none⟩ }

theorem Session.known_withClass (session : Session) (name : String) (text : Option String) :
    (session.withClass name text).known ⟨session.classes.size⟩ = ⟨name, text, none⟩ := by
  show ((session.classes.push ⟨name, text, none⟩)[session.classes.size]?).getD _ = _
  rw [Array.getElem?_push_size]
  rfl

/-- The class that a method is parsed in has this text for a signature, if any, and it was not read
yet; or there is no class. -/
inductive Session.Opened (session : Session) : Option ClassId → Option String → Prop
  | alone : session.Opened none none
  | inside {id : ClassId} {cls : Option String} :
      session.known id = ⟨contextName, cls, none⟩ → session.Opened (some id) cls

theorem Session.opened_withClass (session : Session) (cls : Option String) :
    (session.withClass contextName cls).Opened (some ⟨session.classes.size⟩) cls :=
  .inside (session.known_withClass contextName cls)

namespace SessionM

variable {session : Session} {context : Option ClassId} {cls : Option String}

/-- In a class that was not read yet, a method is parsed into what the two texts come to. -/
theorem verdict_opened (fresh : session.Fresh) (opened : session.Opened context cls)
    (text : String) :
    (parseMethod text context).verdict session = session.methodVerdict text cls := by
  cases opened with
  | alone => exact verdict_alone fresh text
  | @inside id cls known =>
      unfold Session.methodVerdict
      cases valid : session.inForce with
      | invalid issues => exact parseMethod_unsettled valid text _
      | valid settings =>
          simp only []
          unfold methodInClass
          split
          · next error failed =>
              obtain ⟨sig, rfl, malformed⟩ := Option.map_eq_some_iff.mp failed
              obtain ⟨_, given⟩ := answer_of_parseClass fresh valid sig
              have refuses : session.RefusesClass id error :=
                ⟨sig, by rw [known], by rw [known], (refuses_iff_read given).mpr malformed⟩
              exact parseMethod_of_refusesClass fresh refuses text
          · next reads =>
              have accepted : ∀ error, ¬ session.RefusesClass id error := by
                rintro error ⟨sig, told, _, refuses⟩
                obtain ⟨_, valid', failed⟩ := parse_of_refuses fresh refuses
                cases valid.symm.trans valid'
                rw [known] at told
                exact reads error (Option.map_eq_some_iff.mpr ⟨sig, told, failed⟩)
              exact (parseMethod_of_accepted fresh accepted text).trans
                (verdict_read fresh valid text)

theorem verdict_inClass (fresh : session.Fresh) (text : String) (cls : Option String) :
    (parseInClass text cls).verdict session = session.methodVerdict text cls := by
  have freshInside : (session.withClass contextName cls).Fresh := fresh.congr rfl rfl
  exact verdict_opened freshInside (session.opened_withClass cls) text

end SessionM

/-- The signature of the class, if it has one, is what its text is parsed into. -/
def ReadsClass (limit : Nat) (cls : Option String) (found : Option ClassSig) : Prop :=
  cls.Rel (fun sig tree => ∃ names, ClassSig.parse limit sig = .ok (tree, names)) found

theorem ReadsClass.canonical {limit : Nat} {cls : Option String} {found : Option ClassSig}
    (reads : ReadsClass limit cls found) : ∀ tree ∈ found, tree.Canonical := by
  cases reads with
  | none => nofun
  | some read =>
      obtain ⟨_, read⟩ := read
      rintro _ ⟨⟩
      exact ClassSig.canonical_of_parse read

theorem ReadsClass.returns {session : Session} {settings : Settings} {cls : Option String}
    {found : Option ClassSig} (reads : ReadsClass settings.maxLength cls found)
    (fresh : session.Fresh) (valid : session.inForce = .valid settings) :
    cls.Rel (fun sig tree => (SessionM.parseClass sig).Returns session tree) found := by
  cases reads with
  | none => exact .none
  | @some sig _ read =>
      obtain ⟨_, given⟩ := answer_of_parseClass fresh valid sig
      exact .some ((SessionM.returns_iff_read given).mpr read)

/-- The text of a class is read when the class is opened. -/
theorem SessionM.contextSignature_opened {session after : Session} {settings : Settings}
    {context : Option ClassId} {cls : Option String} {found : Option (Registered ClassSig)}
    (fresh : session.Fresh) (valid : session.inForce = .valid settings)
    (opened : session.Opened context cls)
    (answers : (contextSignature context).Answers session found after) :
    ReadsClass settings.maxLength cls (found.map Registered.tree) := by
  cases opened with
  | alone =>
      cases answers
      exact .none
  | @inside id cls known =>
      have answers : (classSignature id).outcome session = (.ok found, after) := answers
      cases cls with
      | none =>
          rw [classSignature_untold (by rw [known])] at answers
          cases answers
          exact .none
      | some sig =>
          have told : (session.known id).text = some sig := by rw [known]
          rw [classSignature_unread fresh valid told (by rw [known])] at answers
          cases read : ClassSig.parse settings.maxLength sig with
          | error error =>
              rw [read] at answers
              cases answers
          | ok parsed =>
              rw [read] at answers
              cases answers
              exact .some ⟨parsed.2, read⟩

/-! ## The command -/

/-- The class signature that counts for the command: an empty one is taken for none. -/
def counted (cls : Option String) : Option String := cls.filter fun sig => !sig.isEmpty

/-- The class of the command. -/
def openClass (cls : Option String) : SessionM (Option ClassId) :=
  match cls with
  | none => pure none
  | some sig =>
      if sig.isEmpty then pure none else some <$> SessionM.addClass contextName (some sig)

/-- What the command prints of a method and of the class around it. -/
def parsePrints (tree : MethodSig) (found : Option ClassSig) (json : Bool) : List Print :=
  if json then [.line tree.toDocument] else methodPrints tree found

/-- What the command reports of a method. -/
def showMethod (context : Option ClassId) (json : Bool) (sig : Registered MethodSig) :
    SessionM Report := do
  if json then return ⟨[.line sig.tree.toDocument], 0⟩
  let cls ← SessionM.contextSignature context
  return ⟨methodPrints sig.tree (cls.map Registered.tree), 0⟩

theorem openClass_of_empty {sig : String} (empty : sig.isEmpty = true) :
    openClass (some sig) = pure none ∧ counted (some sig) = none :=
  ⟨if_pos empty, by simp [counted, Option.filter, empty]⟩

theorem openClass_of_told {sig : String} (told : ¬ sig.isEmpty = true) :
    openClass (some sig) = some <$> SessionM.addClass contextName (some sig) ∧
      counted (some sig) = some sig :=
  ⟨if_neg told, by simp [counted, Option.filter, told]⟩

theorem runParse_eq (text : String) (cls : Option String) (json : Bool) :
    runParse text cls json = (openClass cls >>= fun context =>
      SessionM.parseMethod text context >>= showMethod context json) := by
  cases cls with
  | none => rfl
  | some sig =>
      by_cases empty : sig.isEmpty = true
      · rw [(openClass_of_empty empty).1]
        exact if_pos empty
      · rw [(openClass_of_told empty).1]
        exact if_neg empty

theorem openClass_answers {session : Session} (fresh : session.Fresh) (cls : Option String) :
    ∃ context inside, (openClass cls).Answers session context inside ∧ inside.Fresh ∧
      inside.inForce = session.inForce ∧ inside.Opened context (counted cls) := by
  -- the settings are not touched, so the parser will read the texts as it does in the session
  cases cls with
  | none => exact ⟨none, session, rfl, fresh, rfl, .alone⟩
  | some sig =>
      by_cases empty : sig.isEmpty = true
      · obtain ⟨opens, counts⟩ := openClass_of_empty empty
        rw [opens, counts]
        exact ⟨none, session, rfl, fresh, rfl, .alone⟩
      · obtain ⟨opens, counts⟩ := openClass_of_told empty
        rw [opens, counts]
        exact ⟨some ⟨session.classes.size⟩, session.withClass contextName (some sig), rfl,
          fresh.congr rfl rfl, rfl, session.opened_withClass (some sig)⟩

section Runs

variable {session : Session} {settings : Settings} {text : String} {cls : Option String}

/-- The signature of the class was parsed with the method, so it is known when it is shown. -/
theorem showMethod_answers {after : Session} {context : Option ClassId}
    {sig : Registered MethodSig} (fresh : session.Fresh) (valid : session.inForce = .valid settings)
    (opened : session.Opened context cls)
    (answers : (SessionM.parseMethod text context).Answers session sig after) (json : Bool) :
    ∃ found, ReadsClass settings.maxLength cls found ∧
      (showMethod context json sig).Answers after ⟨parsePrints sig.tree found json, 0⟩ after := by
  let noted := session.noted (.readingMethod text)
  have freshNoted : noted.Fresh := fresh
  have validNoted : noted.inForce = .valid settings := valid
  have openedNoted : noted.Opened context cls := by
    cases opened with
    | alone => exact .alone
    | inside known => exact .inside known
  obtain ⟨settings', found, middle, first, valid', read⟩ :=
    SessionM.parseMethod_cases fresh answers
  have quiet := Session.quiet_methodRead valid' (found.map Registered.id) text
  rw [read] at quiet
  have again := SessionM.contextSignature_again freshNoted first quiet.classes_eq
  refine ⟨found.map Registered.tree,
    SessionM.contextSignature_opened freshNoted validNoted openedNoted first, ?_⟩
  cases json with
  | true => rfl
  | false =>
      unfold SessionM.Answers at again
      unfold showMethod SessionM.Answers
      simp only [Bool.false_eq_true, if_false]
      rw [SessionM.outcome_bind, again]
      rfl

theorem runParse_answers {tree : MethodSig} (fresh : session.Fresh)
    (valid : session.inForce = .valid settings)
    (verdict : session.methodVerdict text (counted cls) = .ok tree) (json : Bool) :
    ∃ found after, ReadsClass settings.maxLength (counted cls) found ∧
      (runParse text cls json).Answers session ⟨parsePrints tree found json, 0⟩ after := by
  obtain ⟨context, inside, opens, freshInside, same, opened⟩ := openClass_answers fresh cls
  have parsed := SessionM.verdict_opened freshInside opened text
  rw [Session.methodVerdict_congr same, verdict] at parsed
  obtain ⟨id, after, answers⟩ := SessionM.verdict_eq_ok.mp parsed
  obtain ⟨found, reads, shows⟩ :=
    showMethod_answers freshInside (same.trans valid) opened answers json
  refine ⟨found, after, reads, ?_⟩
  rw [runParse_eq]
  exact SessionM.answers_bind.mpr ⟨context, inside, opens,
    SessionM.answers_bind.mpr ⟨_, after, answers, shows⟩⟩

theorem runParse_fails {failure : Failure} (fresh : session.Fresh)
    (verdict : session.methodVerdict text (counted cls) = .error failure) (json : Bool) :
    ∃ after, (runParse text cls json).Fails session failure after := by
  obtain ⟨context, inside, opens, freshInside, same, opened⟩ := openClass_answers fresh cls
  have refused := SessionM.verdict_opened freshInside opened text
  rw [Session.methodVerdict_congr same, verdict] at refused
  obtain ⟨after, fails⟩ := SessionM.verdict_eq_error.mp refused
  refine ⟨after, ?_⟩
  rw [runParse_eq]
  exact SessionM.fails_bind.mpr (.inr ⟨context, inside, opens,
    SessionM.fails_bind.mpr (.inl fails)⟩)

end Runs

/-! ## What the two texts come to -/

/-- An error is about one of the two texts, and it points into that text. -/
theorem place_of_methodInClass {limit : Nat} {text : String} {cls : Option String}
    {error : GrammarError} (failed : methodInClass limit text cls = .error error) :
    (error.text = text ∨ cls = some error.text) ∧ error.fault.IsOwn ∧ 0 ≤ error.position ∧
      error.position ≤ error.text.length := by
  unfold methodInClass at failed
  split at failed
  · next other malformed =>
      cases failed
      obtain ⟨sig, rfl, read⟩ := Option.map_eq_some_iff.mp malformed
      have own := own_of_parseClass read
      obtain ⟨rfl, place⟩ := place_of_parseWithin read
      exact ⟨.inr rfl, own, place⟩
  · cases read : MethodSig.parse limit text with
    | ok found =>
        rw [read] at failed
        cases failed
    | error other =>
        rw [read] at failed
        cases failed
        have own := own_of_parseMethod read
        obtain ⟨rfl, place⟩ := place_of_parseWithin read
        exact ⟨.inl rfl, own, place⟩

namespace Session

variable {session : Session} {text : String} {cls : Option String}

/-- A method that is parsed in a class is what its text is read as under the settings in force. -/
theorem read_of_methodVerdict {tree : MethodSig}
    (verdict : session.methodVerdict text cls = .ok tree) :
    ∃ settings names, session.inForce = .valid settings ∧
      MethodSig.parse settings.maxLength text = .ok (tree, names) := by
  unfold methodVerdict at verdict
  split at verdict
  · next settings valid =>
      refine ⟨settings, ?_⟩
      unfold methodInClass at verdict
      split at verdict
      · cases verdict
      · cases read : MethodSig.parse settings.maxLength text with
        | error error =>
            rw [read] at verdict
            cases verdict
        | ok found =>
            rw [read] at verdict
            cases verdict
            exact ⟨found.2, valid, rfl⟩
  · cases verdict

/-- A method that is not parsed in a class has an error in one of the two texts, or the settings are
not understood. -/
theorem error_of_methodVerdict {failure : Failure}
    (verdict : session.methodVerdict text cls = .error failure) :
    (∃ error, failure = .grammar error ∧ (error.text = text ∨ cls = some error.text) ∧
      error.fault.IsOwn ∧ 0 ≤ error.position ∧ error.position ≤ error.text.length) ∨
    ∃ issues, session.inForce = .invalid issues := by
  unfold methodVerdict at verdict
  split at verdict
  · next settings _ =>
      cases read : methodInClass settings.maxLength text cls with
      | ok tree =>
          rw [read] at verdict
          cases verdict
      | error error =>
          rw [read] at verdict
          cases verdict
          exact .inl ⟨error, rfl, place_of_methodInClass read⟩
  · next issues invalid => exact .inr ⟨issues, invalid⟩

end Session

/-! ## Calls -/

/-- The command line is understood as a request for one method. -/
def AsksParse (arguments : List String) (verbose : Bool) (text : String) (cls : Option String)
    (json : Bool) : Prop :=
  ∃ call, Call.ofArguments? arguments = some call ∧ call.verbose = verbose ∧
    call.command? = some (.parse text cls json)

/-- The options of the command. -/
def parseOptions (cls : Option String) (json : Bool) : List String :=
  (cls.map fun sig => ["--class-signature", sig]).getD [] ++ if json then ["--json"] else []

section Scan

variable {specs : List OptionSpec} {argument name : String} {given more : List Given}
  {others : List String}

/-- An option takes the next argument as its value, whatever that is. -/
theorem scanFrom_pending (dashed : argument.toList.head? = some '-' ∧ 1 < argument.toList.length)
    (known : matchOption specs argument.toList = .pending more name) (other : argument ≠ "--")
    (mixed : Bool) (value : String) (rest : List String) :
    scanFrom specs mixed (argument :: value :: rest) given others =
      scanFrom specs mixed rest (given ++ more ++ [⟨name, some value⟩]) others := by
  rw [scanFrom, if_neg other, if_pos dashed, known]

theorem scanFrom_end (mixed : Bool) (rest : List String) :
    scanFrom specs mixed ("--" :: rest) given others = some ⟨given, others ++ rest⟩ := by
  rw [scanFrom, if_pos rfl]

end Scan

/-- Any two texts can be asked for. -/
theorem asksParse_options (verbose : Bool) (text : String) (cls : Option String) (json : Bool) :
    AsksParse ((if verbose then ["-v"] else []) ++ "parse" :: parseOptions cls json ++ ["--", text])
      verbose text cls json := by
  have asJson (given : List Given) :
      scanFrom CommandName.parse.options true ["--json", "--", text] given [] =
        some ⟨given ++ [⟨"--json", none⟩], [text]⟩ := by
    have known : matchOption CommandName.parse.options "--json".toList =
        .complete [⟨"--json", none⟩] := rfl
    rw [scanFrom_option (by decide) known (by decide), scanFrom_end]
    rfl
  have inClass (sig : String) (rest : List String) :
      scanFrom CommandName.parse.options true ("--class-signature" :: sig :: rest) [] [] =
        scanFrom CommandName.parse.options true rest [⟨"--class-signature", some sig⟩] [] := by
    have known : matchOption CommandName.parse.options "--class-signature".toList =
        .pending [] "--class-signature" := rfl
    exact scanFrom_pending (by decide) known (by decide) true sig rest
  have scanned : scan CommandName.parse.options true (parseOptions cls json ++ ["--", text]) =
      some ⟨(cls.map fun sig => ⟨"--class-signature", some sig⟩).toList ++
        if json then [⟨"--json", none⟩] else [], [text]⟩ := by
    unfold scan
    cases cls <;> cases json <;> simp [parseOptions, inClass, asJson, scanFrom_end]
  refine ⟨⟨verbose, .parse, parseOptions cls json ++ ["--", text]⟩, ?_, rfl, ?_⟩
  · have name (given : List Given) : scanFrom programOptions false
        ("parse" :: (parseOptions cls json ++ ["--", text])) given [] =
          some ⟨given, "parse" :: (parseOptions cls json ++ ["--", text])⟩ :=
      scanFrom_plain (by decide) false _
    have known : matchOption programOptions "-v".toList = .complete [⟨"--verbose", none⟩] := rfl
    unfold Call.ofArguments? scan
    rw [List.append_assoc, List.cons_append]
    cases verbose with
    | false =>
        simp only [Bool.false_eq_true, if_false, List.nil_append, name]
        rfl
    | true =>
        simp only [if_true, List.cons_append, List.nil_append,
          scanFrom_option (by decide) known (by decide), name]
        rfl
  · unfold Call.command?
    simp only [scanned]
    cases cls <;> cases json <;> rfl

section Calls

variable {terminal : Terminal} {sources : Sources} {arguments : List String} {text : String}
  {cls : Option String} {verbose json : Bool}

/-- A call for a method is the command in a session in which nothing happened, or ends before
because of the settings. -/
theorem run_parse (asks : AsksParse arguments verbose text cls json) (terminal : Terminal)
    (sources : Sources) (files : String → FileEntry) :
    (∃ (session : Session) (threshold : LogLevel) (log : String), session.Fresh ∧
      session.inForce = Settings.load sources ∧
      let answer := (runParse text cls json).outcome session
      let ended := finish terminal verbose threshold answer.1 answer.2
      runAt terminal sources files arguments = { ended with stderr := log ++ ended.stderr }) ∨
    ∃ issues log, Settings.load sources = .invalid issues ∧
      runAt terminal sources files arguments = ⟨1, "", log, "", some (.settings issues)⟩ := by
  obtain ⟨call, understood, rfl, asked⟩ := asks
  have operation : runCommand files (.parse text cls json) = some (runParse text cls json) := rfl
  exact run_command terminal understood asked operation sources

/-- The output for a method: a document, or what is shown of the method and its class. -/
def IsOutput (console : Console) (tree : MethodSig) (found : Option ClassSig) (json : Bool)
    (output : String) : Prop :=
  if json then output = tree.toDocument ++ "\n" else console.Shows tree found output

theorem printAll_parsePrints {console : Console} (documented : console.Documented)
    {tree : MethodSig} {found : Option ClassSig} (canonical : tree.Canonical)
    (canonicalCls : ∀ cls ∈ found, cls.Canonical) (json : Bool) :
    ∃ output, console.printAll (parsePrints tree found json) = (output, true) ∧
      IsOutput console tree found json output := by
  cases json with
  | true => exact ⟨_, rfl, String.append_empty⟩
  | false => exact documented.shows_methodPrints canonical canonicalCls

/-- A call for a method that can be parsed shows it. -/
theorem run_parse_ok (documented : terminal.Documented)
    (asks : AsksParse arguments verbose text cls json) {settings : Settings}
    (valid : Settings.load sources = .valid settings) {tree : MethodSig}
    (verdict : (Session.start sources).methodVerdict text (counted cls) = .ok tree)
    (files : String → FileEntry) :
    let outcome := runAt terminal sources files arguments
    outcome.exitCode = 0 ∧ ∃ found, ReadsClass settings.maxLength (counted cls) found ∧
      IsOutput terminal.out tree found json outcome.stdout := by
  intro outcome
  rcases run_parse asks terminal sources files with
    ⟨session, threshold, log, fresh, inForce, ended⟩ | ⟨issues, log, invalid, _⟩
  · have given : session.methodVerdict text (counted cls) = .ok tree :=
      (Session.methodVerdict_congr inForce _ _).trans verdict
    obtain ⟨found, after, reads, answers⟩ :=
      runParse_answers fresh (inForce.trans valid) given json
    obtain ⟨_, _, _, read⟩ := Session.read_of_methodVerdict verdict
    obtain ⟨output, complete, shows⟩ := printAll_parsePrints documented.out
      (MethodSig.canonical_of_parse read) reads.canonical json
    unfold SessionM.Answers at answers
    have is : outcome = ⟨0, output, log ++ shownLog threshold after, "", none⟩ := by
      refine ended.trans ?_
      rw [answers]
      simp only [finish, complete]
      rfl
    rw [is]
    exact ⟨rfl, found, reads, shows⟩
  · cases invalid.symm.trans valid

/-- A call for a method that cannot be parsed shows nothing of it. -/
theorem run_parse_error (asks : AsksParse arguments verbose text cls json) {failure : Failure}
    (verdict : (Session.start sources).methodVerdict text (counted cls) = .error failure)
    (terminal : Terminal) (files : String → FileEntry) :
    (runAt terminal sources files arguments).exitCode = 1 ∧
      (runAt terminal sources files arguments).stdout = "" := by
  rcases run_parse asks terminal sources files with
    ⟨session, threshold, log, fresh, inForce, ended⟩ | ⟨issues, log, _, ended⟩
  · have given : session.methodVerdict text (counted cls) = .error failure :=
      (Session.methodVerdict_congr inForce _ _).trans verdict
    obtain ⟨after, fails⟩ := runParse_fails fresh given json
    unfold SessionM.Fails at fails
    rw [ended, fails]
    cases failure <;> exact ⟨rfl, rfl⟩
  · rw [ended]
    exact ⟨rfl, rfl⟩

/-- A grammar error is reported after the log.  A verbose call adds to the report. -/
theorem run_parse_reports (documented : terminal.Documented)
    (asks : AsksParse arguments verbose text cls json) {error : GrammarError} {position : Nat}
    (verdict : (Session.start sources).methodVerdict text (counted cls) = .error (.grammar error))
    (own : error.fault.IsOwn) (is : error.position = position)
    (within : position ≤ error.text.length) (files : String → FileEntry) :
    ∃ log report details,
      (runAt terminal sources files arguments).allErrors = log ++ report ++ details ∧
      (verbose = false → details = "") ∧ terminal.err.Reports error position report := by
  obtain ⟨report, complete, reports⟩ := documented.err.reports_errorPrints own is within
  rcases run_parse asks terminal sources files with
    ⟨session, threshold, log, fresh, inForce, ended⟩ | ⟨issues, _, invalid, _⟩
  · have given : session.methodVerdict text (counted cls) = .error (.grammar error) :=
      (Session.methodVerdict_congr inForce _ _).trans verdict
    obtain ⟨after, fails⟩ := runParse_fails fresh given json
    unfold SessionM.Fails at fails
    let more := (terminal.err.printAll (tracePrints (terminal.trace error))).1
    refine ⟨log ++ shownLog threshold after, report, if verbose then more else "", ?_, ?_, reports⟩
    · rw [ended, fails]
      simp only [finish, complete, Outcome.allErrors, Bool.and_true, String.append_assoc]
      rfl
    · rintro rfl
      rfl
  · have inForce : (Session.start sources).inForce = .invalid issues := invalid
    unfold Session.methodVerdict at verdict
    rw [inForce] at verdict
    cases verdict

end Calls

/-! ## Agreement -/

/-- A document may end with the end of its line. -/
theorem SessionM.importText_line (tree : MethodSig) :
    importText (tree.toDocument ++ "\n") = importJson (MethodSummary.ofMethod tree).toJson := by
  have newLine : Json.Ends "\n".toList := Json.ends_newLine 0 []
  unfold importText MethodSig.toDocument
  rw [Json.parse_render_append (MethodSummary.ofMethod tree).readable_toJson newLine rfl]
  rfl

/-- The command agrees with the library call that parses the method in a class with the given
signature, which counts unless it is empty.  The exit code is 0 if the call returns a tree and 1
otherwise.  A tree is shown by its display, in which backslashes before brackets are left out, or by
a document that is imported as the tree.  An error is reported with its message, its position and
its text, and a caret stands below the position; verbose calls add to the report.  Settings that are
not understood are the only other reason to fail. -/
theorem parse_command_agrees {terminal : Terminal} (documented : terminal.Documented)
    {arguments : List String} {text : String} {cls : Option String} {verbose json : Bool}
    (asks : AsksParse arguments verbose text cls json) (sources : Sources)
    (files : String → FileEntry) :
    let start := Session.start sources
    let library := SessionM.parseInClass text (counted cls)
    let outcome := runAt terminal sources files arguments
    (outcome.exitCode = 0 ↔ ∃ tree, library.Returns start tree) ∧
    (∀ tree, library.Returns start tree →
      (json = false → ∃ found, terminal.out.Shows tree found outcome.stdout ∧
        (counted cls).Rel (fun sig cls => (SessionM.parseClass sig).Returns start cls) found) ∧
      (json = true → ∀ later : Session, later.Fresh → later.inForce = start.inForce →
        (SessionM.importText outcome.stdout).Returns later tree)) ∧
    ((∀ tree, ¬ library.Returns start tree) → outcome.exitCode = 1 ∧ outcome.stdout = "" ∧
      ((∃ error position log report details, library.Refuses start error ∧
        (error.text = text ∨ cls = some error.text) ∧
        outcome.allErrors = log ++ report ++ details ∧ (verbose = false → details = "") ∧
        terminal.err.Reports error position report) ∨
      ∃ issues, Settings.load sources = .invalid issues)) := by
  intro start library outcome
  have fresh : start.Fresh := Session.fresh_start sources
  have same : library.verdict start = start.methodVerdict text (counted cls) :=
    SessionM.verdict_inClass fresh text (counted cls)
  have shows (tree : MethodSig) (returns : library.Returns start tree) :
      start.methodVerdict text (counted cls) = .ok tree :=
    same.symm.trans (SessionM.verdict_eq_ok.mpr returns)
  refine ⟨⟨fun fine => ?_, ?_⟩, fun tree returns => ?_, fun never => ?_⟩
  · cases verdict : start.methodVerdict text (counted cls) with
    | ok tree => exact ⟨tree, SessionM.verdict_eq_ok.mp (same.trans verdict)⟩
    | error failure => cases fine.symm.trans (run_parse_error asks verdict terminal files).1
  · rintro ⟨tree, returns⟩
    obtain ⟨settings, _, valid, _⟩ := Session.read_of_methodVerdict (shows tree returns)
    exact (run_parse_ok documented asks valid (shows tree returns) files).1
  · obtain ⟨settings, names, valid, read⟩ := Session.read_of_methodVerdict (shows tree returns)
    obtain ⟨_, found, reads, output⟩ :=
      run_parse_ok documented asks valid (shows tree returns) files
    refine ⟨?_, ?_⟩
    · rintro rfl
      exact ⟨found, output, reads.returns fresh valid⟩
    · rintro rfl later freshLater inForce
      have output : outcome.stdout = tree.toDocument ++ "\n" := output
      rw [output, SessionM.importText_line]
      exact SessionM.importJson_ofMethod freshLater (inForce.trans valid) read
  · cases verdict : start.methodVerdict text (counted cls) with
    | ok tree => exact absurd (SessionM.verdict_eq_ok.mp (same.trans verdict)) (never tree)
    | error failure =>
        obtain ⟨code, silent⟩ := run_parse_error asks verdict terminal files
        refine ⟨code, silent, ?_⟩
        rcases Session.error_of_methodVerdict verdict with
          ⟨error, rfl, about, own, low, high⟩ | invalid
        · obtain ⟨position, is⟩ := Int.eq_ofNat_of_zero_le low
          rw [is] at high
          obtain ⟨log, report, details, printed, quiet, reports⟩ :=
            run_parse_reports documented asks verdict own is (Int.ofNat_le.mp high) files
          refine .inl ⟨error, position, log, report, details,
            SessionM.verdict_eq_error.mp (same.trans verdict), ?_, printed, quiet, reports⟩
          exact about.imp_right fun counts => (Option.filter_eq_some_iff.mp counts).1
        · exact .inr invalid

/-- Texts that are signatures and not too long are parsed. -/
theorem methodVerdict_of_derives {session : Session} {settings : Settings} {text : String}
    {cls : Option String} {tree : MethodSig} (valid : session.inForce = .valid settings)
    (method : DerivesMethod text.toList tree) (short : text.length ≤ settings.maxLength)
    (around : ∀ sig ∈ cls, sig.length ≤ settings.maxLength ∧ ∃ cls, DerivesClass sig.toList cls) :
    session.methodVerdict text cls = .ok tree := by
  obtain ⟨names, read⟩ := decides_methodOnly.parse_eq_ok.mpr method
  have parsed : MethodSig.parse settings.maxLength text = .ok (tree, names) :=
    (parseWithin_of_le short).trans read
  unfold Session.methodVerdict methodInClass
  rw [valid]
  simp only [parsed]
  cases cls with
  | none => rfl
  | some sig =>
      obtain ⟨shortAround, found, derives⟩ := around sig rfl
      obtain ⟨others, readAround⟩ := decides_classOnly.parse_eq_ok.mpr derives
      have parsedAround : ClassSig.parse settings.maxLength sig = .ok (found, others) :=
        (parseWithin_of_le shortAround).trans readAround
      simp only [Option.map_some, parsedAround]
      rfl

theorem derivesClass_A : DerivesClass "LA;".toList ⟨[], .classRef "A" [] [] [], []⟩ := by
  have name : DerivesIdentifier "A".toList "A" := .mk (by decide)
  exact .mk (.mk .absent nofun) (.mk name .nil .absent .nil) .nil

theorem derivesMethod_void : DerivesMethod "()V".toList ⟨[], [], .base .void, []⟩ :=
  .mk (.mk .absent nofun) .nil (.primitive (by decide)) .nil

/-- A method in the class `LA;` is parsed. -/
theorem parseInClass_A {text : String} {tree : MethodSig} (method : DerivesMethod text.toList tree)
    (short : text.length ≤ Settings.standard.maxLength) :
    (Session.start .empty).methodVerdict text (some "LA;") = .ok tree ∧
      (SessionM.parseInClass text (some "LA;")).Returns (Session.start .empty) tree := by
  have around : ∀ sig ∈ some "LA;", sig.length ≤ Settings.standard.maxLength ∧
      ∃ cls, DerivesClass sig.toList cls := by
    rintro _ ⟨⟩
    exact ⟨by decide, _, derivesClass_A⟩
  have verdict := methodVerdict_of_derives inForce_start method short around
  have same := SessionM.verdict_inClass (Session.fresh_start .empty) text (some "LA;")
  exact ⟨verdict, SessionM.verdict_eq_ok.mp (same.trans verdict)⟩

theorem parse_command_agrees_in_class :
    let arguments := ["-v", "parse", "--class-signature", "LA;", "--", "()V"]
    Terminal.wide.Documented ∧ AsksParse arguments true "()V" (some "LA;") false ∧
      (runAt .wide .empty (fun _ => .missing) arguments).exitCode = 0 := by
  intro arguments
  have documented := Terminal.wide_documented
  have asks := asksParse_options true "()V" (some "LA;") false
  have returns := (parseInClass_A derivesMethod_void (by decide)).2
  exact ⟨documented, asks,
    (parse_command_agrees documented asks .empty fun _ => .missing).1.mpr ⟨_, returns⟩⟩

/-- The class signature that is given is empty, so no method can be parsed in the class.  The
command parses the method all the same. -/
theorem empty_class_signature_ignored {terminal : Terminal} (documented : terminal.Documented) :
    let arguments := ["parse", "--class-signature", "", "--", "()V"]
    AsksParse arguments false "()V" (some "") false ∧
      (SessionM.parseInClass "()V" (some "")).Refuses (Session.start .empty)
        ⟨.missingSuperclass, "", 0⟩ ∧
      (runAt terminal .empty (fun _ => .missing) arguments).exitCode = 0 := by
  intro arguments
  have asks := asksParse_options false "()V" (some "") false
  have fresh := Session.fresh_start .empty
  have refused : (Session.start .empty).methodVerdict "()V" (some "") =
      .error (.grammar ⟨.missingSuperclass, "", 0⟩) := rfl
  have verdict : (Session.start .empty).methodVerdict "()V" (counted (some "")) =
      .ok ⟨[], [], .base .void, []⟩ :=
    methodVerdict_of_derives inForce_start derivesMethod_void (by decide) nofun
  have same := SessionM.verdict_inClass fresh "()V" (some "")
  exact ⟨asks, SessionM.verdict_eq_error.mp (same.trans refused),
    (run_parse_ok documented asks inForce_start verdict _).1⟩

/-- The name of a class ends with a backslash, which is not shown before the brackets of an
array. -/
theorem backslash_not_shown {terminal : Terminal} (documented : terminal.Documented) :
    let arguments := ["parse", "--class-signature", "LA;", "--", "([La\\;)V"]
    AsksParse arguments false "([La\\;)V" (some "LA;") false ∧ ∃ tree table rest,
      (SessionM.parseInClass "([La\\;)V" (some "LA;")).Returns (Session.start .empty) tree ∧
      tree.display = "void (a\\[])" ∧
      (runAt terminal .empty (fun _ => .missing) arguments).stdout =
        terminal.out.layOut "Signature: void (a[])" ++ table ++ rest := by
  intro arguments
  have asks := asksParse_options false "([La\\;)V" (some "LA;") false
  let tree : MethodSig := ⟨[], [.array 1 (.classRef "a\\" [] [] [])], .base .void, []⟩
  have name : DerivesIdentifier "a\\".toList "a\\" := .mk (by decide)
  have element : DerivesType "La\\;".toList (.classRef "a\\" [] [] []) :=
    .reference (.classRef (.mk name .nil .absent .nil))
  have param : DerivesType "[La\\;".toList (.array 1 (.classRef "a\\" [] [] [])) :=
    .reference (.array Nat.one_pos element (by decide))
  have method : DerivesMethod "([La\\;)V".toList tree :=
    .mk (.mk .absent nofun) (.cons param .nil) (.primitive (by decide)) .nil
  obtain ⟨verdict, returns⟩ := parseInClass_A method (by decide)
  have display : tree.display = "void (a\\[])" := by decide
  obtain ⟨_, found, _, output⟩ :=
    run_parse_ok documented asks inForce_start verdict fun _ => .missing
  obtain ⟨table, _, printed⟩ := Console.Shows.printed output
  have hidden : "Signature: " ++ bracketsShown "void (a\\[])" = "Signature: void (a[])" := by decide
  rw [display, hidden] at printed
  exact ⟨asks, tree, table, _, returns, display, printed⟩

end GenericSignature
