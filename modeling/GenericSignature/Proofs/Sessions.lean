import GenericSignature.Session.Basic

/-!
# Operations in a session

What an operation answers and what it leaves of the session, operation by operation.

1. `Session.inForce` says which settings an operation finds.
2. `Session.Fresh` is the invariant of sessions: an identity that was not handed out yet has no
   links.  It holds at the start and after every call, successful or not
   (`Session.Reachable.fresh`), and it is why the links of a new signature are never refused
   (`SessionM.outcome_enroll`).
3. The parsers answer what the grammar makes of the text (`SessionM.outcome_parseType`,
   `SessionM.outcome_parseMethod`, `SessionM.outcome_parseClass`).
-/

namespace GenericSignature

variable {α β : Type}

namespace SessionM

/-! ## Answers and failures -/

/-- What an operation gives: its answer or failure, and the session afterwards. -/
def outcome (operation : SessionM α) (session : Session) : Except Failure α × Session :=
  operation.run session

/-- The operation answers the value and leaves the session as `after`. -/
def Answers (operation : SessionM α) (session : Session) (value : α) (after : Session) : Prop :=
  operation.outcome session = (.ok value, after)

/-- The operation fails and leaves the session as `after`. -/
def Fails (operation : SessionM α) (session : Session) (failure : Failure) (after : Session) :
    Prop :=
  operation.outcome session = (.error failure, after)

variable {session after : Session} {value : α} {failure : Failure}

@[simp]
theorem answers_pure {given : α} :
    (pure given : SessionM α).Answers session value after ↔ value = given ∧ after = session := by
  show ((Except.ok given, session) = (Except.ok value, after)) ↔ _
  rw [Prod.mk.injEq, Except.ok.injEq, eq_comm, eq_comm (a := session)]

@[simp]
theorem fails_pure {given : α} : ¬ (pure given : SessionM α).Fails session failure after :=
  fun fails => nomatch fails

@[simp]
theorem answers_throw {given : Failure} :
    ¬ (throw given : SessionM α).Answers session value after :=
  fun answers => nomatch answers

@[simp]
theorem fails_throw {given : Failure} :
    (throw given : SessionM α).Fails session failure after ↔
      failure = given ∧ after = session := by
  show ((Except.error given, session) = (Except.error failure, after)) ↔ _
  rw [Prod.mk.injEq, Except.error.injEq, eq_comm, eq_comm (a := session)]

theorem outcome_bind (operation : SessionM α) (next : α → SessionM β) (session : Session) :
    (operation >>= next).outcome session =
      match operation.outcome session with
      | (.ok value, middle) => (next value).outcome middle
      | (.error failure, middle) => (.error failure, middle) := by
  show ExceptT.run (ExceptT.bind operation next) session = _
  unfold outcome ExceptT.run ExceptT.bind ExceptT.mk
  show StateT.bind operation _ session = _
  unfold StateT.bind
  rcases operation session with ⟨failure | value, middle⟩ <;> rfl

@[simp]
theorem answers_bind {operation : SessionM α} {next : α → SessionM β} {value : β} :
    (operation >>= next).Answers session value after ↔
      ∃ given middle, operation.Answers session given middle ∧
        (next given).Answers middle value after := by
  unfold Answers
  rw [outcome_bind]
  rcases operation.outcome session with ⟨failure | given, middle⟩
  · simp
  · simp [and_assoc]

@[simp]
theorem fails_bind {operation : SessionM α} {next : α → SessionM β} :
    (operation >>= next).Fails session failure after ↔
      operation.Fails session failure after ∨
        ∃ given middle, operation.Answers session given middle ∧
          (next given).Fails middle failure after := by
  unfold Answers Fails
  rw [outcome_bind]
  rcases operation.outcome session with ⟨other | given, middle⟩
  · simp
  · simp [and_assoc]

@[simp]
theorem outcome_get_bind (next : Session → SessionM β) (session : Session) :
    (get >>= next).outcome session = (next session).outcome session := rfl

@[simp]
theorem outcome_modify_bind (change : Session → Session) (next : PUnit → SessionM β)
    (session : Session) :
    ((modify change : SessionM PUnit) >>= next).outcome session =
      (next ⟨⟩).outcome (change session) := rfl

theorem outcome_tryCatch (operation : SessionM α) (handler : Failure → SessionM α)
    (session : Session) :
    (tryCatch operation handler).outcome session =
      match operation.outcome session with
      | (.ok value, after) => (.ok value, after)
      | (.error failure, after) => (handler failure).outcome after := by
  show ExceptT.run (ExceptT.tryCatch operation handler) session = _
  unfold outcome ExceptT.run ExceptT.tryCatch ExceptT.mk
  show StateT.bind operation _ session = _
  unfold StateT.bind
  rcases operation session with ⟨failure | value, after⟩ <;> rfl

theorem outcome_tryGrammar (operation : SessionM α) (session : Session) :
    (tryGrammar operation).outcome session =
      match operation.outcome session with
      | (.ok value, after) => (.ok (.ok value), after)
      | (.error (.grammar error), after) => (.ok (.error error), after)
      | (.error failure, after) => (.error failure, after) := by
  unfold tryGrammar
  rw [outcome_tryCatch, outcome_bind]
  rcases operation.outcome session with ⟨failure | value, after⟩
  · cases failure <;> rfl
  · rfl

end SessionM

/-! ## Settings -/

/-- The settings that an operation finds: those that were loaded, or else those that the sources
give. -/
def Session.inForce (session : Session) : Validated Settings :=
  match session.settings with
  | some settings => .valid settings
  | none => Settings.load session.sources

/-- The session after the settings were asked for. -/
def Session.loaded (session : Session) (settings : Settings) : Session :=
  match session.settings with
  | some _ => session
  | none =>
      { session with
        log := (session.sources.unreadableLines.map Event.unreadable).reverse ++ session.log
        settings := some settings }

namespace Session

variable (session : Session) (settings : Settings)

@[simp]
theorem loaded_issued : (session.loaded settings).issued = session.issued := by
  unfold loaded
  split <;> rfl

@[simp]
theorem loaded_links : (session.loaded settings).links = session.links := by
  unfold loaded
  split <;> rfl

theorem inForce_loaded (valid : session.inForce = .valid settings) :
    (session.loaded settings).inForce = .valid settings := by
  unfold loaded
  split
  · exact valid
  · rfl

end Session

namespace SessionM

variable {session after : Session} {failure : Failure}

theorem outcome_settings (session : Session) :
    SessionM.settings.outcome session =
      match session.inForce with
      | .valid settings => (.ok settings, session.loaded settings)
      | .invalid issues =>
          (.error (.settings issues), { session with
            log := (session.sources.unreadableLines.map Event.unreadable).reverse ++
              session.log }) := by
  unfold SessionM.settings Session.inForce Session.loaded
  rw [outcome_get_bind]
  rcases session with ⟨sources, known, log, issued, links, classes⟩
  cases known with
  | some settings => rfl
  | none =>
      simp only [loadSettings, noteAll, outcome_get_bind, outcome_modify_bind]
      cases Settings.load sources with
      | invalid issues => rfl
      | valid settings => rfl

end SessionM

/-! ## Links -/

theorem occurrences_cons {ι : Type} (owner : SigId) (first : Nat) (name : String)
    (names : List String) :
    (occurrences owner first (name :: names) : List (Recorded ι)) =
      .typeVar ⟨owner, first⟩ name :: occurrences owner (first + 1) names := by
  unfold occurrences
  rw [List.mapIdx_cons]
  simp only [Nat.add_zero, Nat.add_comm, Nat.add_left_comm]

namespace LinkTable

variable {ι : Type}

theorem link_get_of_ne {occurrence other : Occurrence} (different : other ≠ occurrence)
    (table : LinkTable) (name : String) (method cls : Option SigId) :
    (table.link other name method cls).1.get occurrence = table.get occurrence := by
  unfold link
  split <;> rw [get_set, if_neg different]

/-- An occurrence whose links are unset can be linked. -/
theorem link_of_unset {table : LinkTable} {occurrence : Occurrence}
    (unset : table.get occurrence = .unset) (name : String) (method cls : Option SigId) :
    (table.link occurrence name method cls).2 = none := by
  have accepted : (Links.unset.bind method cls).2 = none := by
    cases method <;> cases cls <;> rfl
  unfold link
  rw [unset]
  split
  · rfl
  · next refused =>
      rw [refused] at accepted
      cases accepted

/-- What is not recorded keeps its links, also if the linking fails on the way. -/
theorem resolveFrom_get_of_not_recorded {occurrence : Occurrence} {recorded : List (Recorded ι)}
    {method cls : Option SigId} (absent : ∀ name, Recorded.typeVar occurrence name ∉ recorded)
    (table : LinkTable) (count : Nat) :
    (table.resolveFrom method cls count recorded).1.get occurrence = table.get occurrence := by
  induction recorded generalizing table count with
  | nil => rfl
  | cons item recorded ih =>
      have later : ∀ name, Recorded.typeVar occurrence name ∉ recorded :=
        fun name member => absent name (List.mem_cons_of_mem item member)
      cases item with
      | item value => exact ih later table count
      | typeVar other name =>
          have different : other ≠ occurrence := by
            rintro rfl
            exact absent name List.mem_cons_self
          have kept := link_get_of_ne different table name method cls
          unfold resolveFrom
          split
          · next linked equal =>
              rw [equal] at kept
              exact (ih later linked (count + 1)).trans kept
          · next linked error equal =>
              rw [equal] at kept
              exact kept

/-- The occurrences of a new signature can all be linked. -/
theorem resolveFrom_occurrences {owner : SigId} {table : LinkTable} {first : Nat}
    (unset : ∀ index ≥ first, table.get ⟨owner, index⟩ = .unset) (names : List String)
    (method cls : Option SigId) (count : Nat) :
    (table.resolveFrom method cls count (occurrences owner first names : List (Recorded ι))).2 =
      .ok (count + names.length) := by
  induction names generalizing table first count with
  | nil => rfl
  | cons name names ih =>
      rw [occurrences_cons]
      unfold resolveFrom
      have accepted := link_of_unset (unset first (Nat.le_refl first)) name method cls
      split
      · next linked equal =>
          rw [ih]
          · rw [List.length_cons, Nat.add_assoc, Nat.add_comm 1]
          · -- the occurrence that was linked is none of those that are left
            intro index later
            have different : (⟨owner, first⟩ : Occurrence) ≠ ⟨owner, index⟩ := by
              intro same
              have equal_index : first = index := congrArg Occurrence.index same
              omega
            have kept := link_get_of_ne different table name method cls
            rw [equal] at kept
            exact kept.trans (unset index (by omega))
      · next linked error equal =>
          rw [equal] at accepted
          cases accepted

end LinkTable

/-! ## The invariant -/

/-- Identities that were not handed out yet have no links. -/
def Session.Fresh (session : Session) : Prop :=
  ∀ occurrence : Occurrence, session.issued ≤ occurrence.owner.serial →
    session.links.get occurrence = .unset

/-- The session with one more event in the log. -/
def Session.noted (session : Session) (event : Event) : Session :=
  { session with log := event :: session.log }

/-- The session after a new signature got its identity, and its type variables the links that come
with the identity. -/
def Session.enrolled (session : Session) (names : List String)
    (method cls : SigId → Option SigId) : Session :=
  let id : SigId := ⟨session.issued⟩
  let recorded : List (Recorded Empty) := occurrences id 0 names
  { session with
    issued := session.issued + 1
    links := (session.links.resolve recorded (method id) (cls id)).1 }

namespace Session

variable {session : Session}

theorem fresh_start (sources : Sources) : (start sources).Fresh :=
  fun occurrence _ => LinkTable.get_empty occurrence

/-- The invariant looks at the identities and the links only. -/
theorem Fresh.congr {other : Session} (fresh : session.Fresh)
    (issued : other.issued = session.issued) (links : other.links = session.links) :
    other.Fresh := by
  unfold Fresh at *
  rwa [issued, links]

theorem Fresh.loaded (fresh : session.Fresh) (settings : Settings) :
    (session.loaded settings).Fresh :=
  fresh.congr (loaded_issued ..) (loaded_links ..)

/-- Occurrences of identities that were handed out can be linked in any way. -/
theorem Fresh.resolved {ι : Type} (fresh : session.Fresh) {recorded : List (Recorded ι)}
    (known : ∀ occurrence name, Recorded.typeVar occurrence name ∈ recorded →
      occurrence.owner.serial < session.issued) (method cls : Option SigId) :
    { session with links := (session.links.resolve recorded method cls).1 }.Fresh := by
  intro occurrence unknown
  have absent : ∀ name, Recorded.typeVar occurrence name ∉ recorded :=
    fun name member => Nat.not_lt.mpr unknown (known occurrence name member)
  exact (LinkTable.resolveFrom_get_of_not_recorded absent session.links 0).trans
    (fresh occurrence unknown)

theorem Fresh.linked (fresh : session.Fresh) {occurrence : Occurrence}
    (known : occurrence.owner.serial < session.issued) (name : String) (method cls : Option SigId) :
    { session with links := (session.links.link occurrence name method cls).1 }.Fresh := by
  intro other unknown
  have different : occurrence ≠ other := by
    rintro rfl
    exact Nat.not_lt.mpr unknown known
  exact (LinkTable.link_get_of_ne different session.links name method cls).trans
    (fresh other unknown)

theorem Fresh.enrolled (fresh : session.Fresh) (names : List String)
    (method cls : SigId → Option SigId) : (session.enrolled names method cls).Fresh := by
  have issued : { session with issued := session.issued + 1 }.Fresh :=
    fun occurrence unknown => fresh occurrence (Nat.le_of_succ_le unknown)
  let id : SigId := ⟨session.issued⟩
  let recorded : List (Recorded Empty) := occurrences id 0 names
  have known : ∀ occurrence name, Recorded.typeVar occurrence name ∈ recorded →
      occurrence.owner.serial < session.issued + 1 := by
    intro occurrence name member
    obtain ⟨index, _, equal⟩ := List.mem_mapIdx.mp member
    obtain ⟨rfl, _⟩ := Recorded.typeVar.inj equal
    exact Nat.lt_succ_self _
  exact issued.resolved known (method id) (cls id)

end Session

namespace SessionM

variable {session : Session}

@[simp]
theorem outcome_note_bind (event : Event) (next : PUnit → SessionM β) (session : Session) :
    (note event >>= next).outcome session = (next ⟨⟩).outcome (session.noted event) := rfl

theorem outcome_resolve {ι : Type} (recorded : List (Recorded ι)) (method cls : Option SigId)
    (session : Session) :
    (resolve recorded method cls).outcome session =
      ((session.links.resolve recorded method cls).2.mapError .scope,
        { session with links := (session.links.resolve recorded method cls).1 }) := by
  unfold resolve
  rw [outcome_get_bind]
  rcases session.links.resolve recorded method cls with ⟨links, error | count⟩ <;> rfl

theorem outcome_link (occurrence : Occurrence) (name : String) (method cls : Option SigId)
    (session : Session) :
    (link occurrence name method cls).outcome session =
      (match (session.links.link occurrence name method cls).2 with
        | none => .ok ()
        | some error => .error (.scope error),
        { session with links := (session.links.link occurrence name method cls).1 }) := by
  unfold link
  rw [outcome_get_bind]
  rcases session.links.link occurrence name method cls with ⟨links, _ | error⟩ <;> rfl

/-- A new signature gets the next identity, and its links are never refused. -/
theorem outcome_enroll (fresh : session.Fresh) (tree : α) (names : List String)
    (method cls : SigId → Option SigId) (next : Registered α → Nat → SessionM β) :
    (do
      let sig ← register tree
      let count ← resolveNames sig.id names (method sig.id) (cls sig.id)
      next sig count : SessionM β).outcome session =
      (next ⟨⟨session.issued⟩, tree⟩ names.length).outcome
        (session.enrolled names method cls) := by
  let id : SigId := ⟨session.issued⟩
  have unset : ∀ index ≥ 0, session.links.get ⟨id, index⟩ = .unset :=
    fun index _ => fresh ⟨id, index⟩ (Nat.le_refl _)
  have accepted := LinkTable.resolveFrom_occurrences (ι := Empty) unset names (method id) (cls id) 0
  rw [Nat.zero_add] at accepted
  have linked : (resolveNames id names (method id) (cls id)).outcome
      { session with issued := session.issued + 1 } =
      (.ok names.length, session.enrolled names method cls) := by
    unfold resolveNames
    rw [outcome_resolve]
    unfold LinkTable.resolve
    rw [accepted]
    rfl
  show (resolveNames id names (method id) (cls id) >>= fun count =>
    next ⟨id, tree⟩ count).outcome { session with issued := session.issued + 1 } = _
  rw [outcome_bind, linked]

/-! ## Parsers -/

/-- What a parser answers for a new identity, from what the grammar makes of the text. -/
def answerOf (id : SigId) (read : Except GrammarError (α × List String)) :
    Except Failure (Registered α) :=
  match read with
  | .ok (tree, _) => .ok ⟨id, tree⟩
  | .error error => .error (.grammar error)

variable {settings : Settings} {text : String}

theorem outcome_settings_bind (valid : session.inForce = .valid settings)
    (next : Settings → SessionM β) :
    (SessionM.settings >>= next).outcome session =
      (next settings).outcome (session.loaded settings) := by
  rw [outcome_bind, outcome_settings, valid]

theorem outcome_ofGrammar_bind (read : Except GrammarError α) (next : α → SessionM β)
    (session : Session) :
    (ofGrammar read >>= next).outcome session =
      match read with
      | .ok value => (next value).outcome session
      | .error error => (.error (.grammar error), session) := by
  cases read <;> rfl

theorem outcome_register (tree : α) (session : Session) :
    (register tree).outcome session =
      (.ok ⟨⟨session.issued⟩, tree⟩, { session with issued := session.issued + 1 }) := rfl

theorem outcome_parseType (valid : session.inForce = .valid settings) (text : String) :
    ∃ after, (parseType text).outcome session =
      (answerOf ⟨session.issued⟩ (TypeSig.parse settings.maxLength text), after) := by
  have noted : (session.noted (.readingType text)).inForce = .valid settings := valid
  unfold parseType
  rw [outcome_note_bind, outcome_settings_bind noted, outcome_ofGrammar_bind]
  cases TypeSig.parse settings.maxLength text with
  | error error => exact ⟨_, rfl⟩
  | ok read =>
      simp only [outcome_register, Session.loaded_issued]
      exact ⟨_, rfl⟩

theorem outcome_parseClass (fresh : session.Fresh) (valid : session.inForce = .valid settings)
    (text : String) :
    (parseClass text).outcome session =
      match ClassSig.parse settings.maxLength text with
      | .ok (tree, names) =>
          (.ok ⟨⟨session.issued⟩, tree⟩,
            ((session.noted (.readingClass text)).loaded settings).enrolled names
              (fun _ => none) some)
      | .error error =>
          (.error (.grammar error), (session.noted (.readingClass text)).loaded settings) := by
  have noted : (session.noted (.readingClass text)).inForce = .valid settings := valid
  have fresh' : (session.noted (.readingClass text)).Fresh := fresh
  unfold parseClass
  rw [outcome_note_bind, outcome_settings_bind noted, outcome_ofGrammar_bind]
  cases ClassSig.parse settings.maxLength text with
  | error error => rfl
  | ok read =>
      have enrolled := outcome_enroll (fresh'.loaded settings) read.1 read.2 (fun _ => none) some
        fun sig _ => pure sig
      rw [Session.loaded_issued] at enrolled
      exact enrolled

end SessionM

/-- The class around a method stands in the way of no method: it has no signature text, its
signature was parsed before, or the text is a class signature that is not too long. -/
def Session.ContextReads (session : Session) (settings : Settings) (context : Option ClassId) :
    Prop :=
  ∀ id ∈ context, ∀ info ∈ session.classes[id.serial]?, ∀ text ∈ info.text, info.parsed = none →
    ∃ read, ClassSig.parse settings.maxLength text = .ok read

namespace SessionM

variable {session : Session} {settings : Settings} {text : String}

theorem outcome_classInfo_bind (id : ClassId) (next : ClassInfo → SessionM β) (session : Session) :
    (classInfo id >>= next).outcome session =
      (next ((session.classes[id.serial]?).getD ⟨"", none, none⟩)).outcome session := rfl

theorem contextSignature_answers {context : Option ClassId} (fresh : session.Fresh)
    (valid : session.inForce = .valid settings)
    (reads : session.ContextReads settings context) :
    ∃ cls after, (contextSignature context).Answers session cls after ∧ after.Fresh ∧
      after.inForce = .valid settings := by
  cases context with
  | none => exact ⟨none, session, rfl, fresh, valid⟩
  | some id =>
      have parses := reads id rfl
      unfold Answers contextSignature classSignature
      simp only [outcome_classInfo_bind]
      generalize session.classes[id.serial]? = found at parses
      rcases found with _ | ⟨name, _ | text, _ | sig⟩
      · exact ⟨none, session, rfl, fresh, valid⟩
      · exact ⟨none, session, rfl, fresh, valid⟩
      · exact ⟨none, session, rfl, fresh, valid⟩
      · -- the text is parsed now, and the signature is kept with the class
        obtain ⟨⟨tree, names⟩, read⟩ := parses _ rfl text rfl rfl
        have parsed := outcome_parseClass fresh valid text
        rw [read] at parsed
        have noted : (session.noted (.readingClass text)).inForce = .valid settings := valid
        have fresh' : (session.noted (.readingClass text)).Fresh := fresh
        have enrolled := (fresh'.loaded settings).enrolled names (fun _ => none) some
        let sig : Registered ClassSig := ⟨⟨session.issued⟩, tree⟩
        let middle :=
          ((session.noted (.readingClass text)).loaded settings).enrolled names (fun _ => none) some
        refine ⟨some sig, { middle with
          classes := middle.classes.modify id.serial fun info =>
            { info with parsed := some sig } }, ?_, ?_, ?_⟩
        · show (parseClass text >>= fun sig => modifyClass id _ >>= fun _ =>
            pure (some sig)).outcome session = _
          rw [outcome_bind, parsed]
          rfl
        · exact enrolled.congr rfl rfl
        · exact Session.inForce_loaded _ _ noted
      · exact ⟨some sig, session, rfl, fresh, valid⟩

theorem outcome_parseMethod {context : Option ClassId} (fresh : session.Fresh)
    (valid : session.inForce = .valid settings) (reads : session.ContextReads settings context)
    (text : String) : ∃ id after, (parseMethod text context).outcome session =
      (answerOf id (MethodSig.parse settings.maxLength text), after) := by
  have fresh' : (session.noted (.readingMethod text)).Fresh := fresh
  have noted : (session.noted (.readingMethod text)).inForce = .valid settings := valid
  have readsNoted : (session.noted (.readingMethod text)).ContextReads settings context := reads
  obtain ⟨cls, middle, found, freshMiddle, validMiddle⟩ :=
    contextSignature_answers fresh' noted readsNoted
  unfold Answers at found
  unfold parseMethod
  rw [outcome_note_bind, outcome_bind, found]
  simp only []
  rw [outcome_settings_bind validMiddle, outcome_ofGrammar_bind]
  cases MethodSig.parse settings.maxLength text with
  | error error => exact ⟨⟨0⟩, _, rfl⟩
  | ok read =>
      have enrolled := outcome_enroll (freshMiddle.loaded settings) read.1 read.2 some
        (fun _ => cls.map Registered.id) fun sig count => do
          note (.linked count read.1.display)
          return sig
      exact ⟨_, _, enrolled⟩

/-! ## What was read -/

theorem ofGrammar_answers {read : Except GrammarError α} {value : α} {after : Session} :
    (ofGrammar read).Answers session value after ↔ read = .ok value ∧ after = session := by
  cases read with
  | ok given => simp [ofGrammar, eq_comm]
  | error error => simp [ofGrammar]

theorem tree_of_register {tree : α} {sig : Registered α} {after : Session}
    (answers : (register tree).Answers session sig after) : sig.tree = tree := by
  cases answers
  rfl

/-- A type that was answered was read from the text. -/
theorem read_of_parseType {sig : Registered TypeSig} {after : Session}
    (answers : (parseType text).Answers session sig after) :
    ∃ limit names, TypeSig.parse limit text = .ok (sig.tree, names) := by
  obtain ⟨_, _, _, afterNote⟩ := answers_bind.mp answers
  obtain ⟨settings, _, _, afterSettings⟩ := answers_bind.mp afterNote
  obtain ⟨⟨tree, names⟩, _, read, afterReading⟩ := answers_bind.mp afterSettings
  rw [tree_of_register afterReading]
  exact ⟨_, names, (ofGrammar_answers.mp read).1⟩

theorem read_of_parseClass {sig : Registered ClassSig} {after : Session}
    (answers : (parseClass text).Answers session sig after) :
    ∃ limit names, ClassSig.parse limit text = .ok (sig.tree, names) := by
  obtain ⟨_, _, _, afterNote⟩ := answers_bind.mp answers
  obtain ⟨settings, _, _, afterSettings⟩ := answers_bind.mp afterNote
  obtain ⟨⟨tree, names⟩, _, read, afterReading⟩ := answers_bind.mp afterSettings
  obtain ⟨_, _, registered, afterRegister⟩ := answers_bind.mp afterReading
  obtain ⟨_, _, _, afterLinking⟩ := answers_bind.mp afterRegister
  rw [(answers_pure.mp afterLinking).1, tree_of_register registered]
  exact ⟨_, names, (ofGrammar_answers.mp read).1⟩

theorem read_of_parseMethod {context : Option ClassId} {sig : Registered MethodSig}
    {after : Session} (answers : (parseMethod text context).Answers session sig after) :
    ∃ limit names, MethodSig.parse limit text = .ok (sig.tree, names) := by
  obtain ⟨_, _, _, afterNote⟩ := answers_bind.mp answers
  obtain ⟨cls, _, _, afterContext⟩ := answers_bind.mp afterNote
  obtain ⟨settings, _, _, afterSettings⟩ := answers_bind.mp afterContext
  obtain ⟨⟨tree, names⟩, _, read, afterReading⟩ := answers_bind.mp afterSettings
  obtain ⟨_, _, registered, afterRegister⟩ := answers_bind.mp afterReading
  obtain ⟨_, _, _, afterLinking⟩ := answers_bind.mp afterRegister
  obtain ⟨_, _, _, afterNote'⟩ := answers_bind.mp afterLinking
  rw [(answers_pure.mp afterNote').1, tree_of_register registered]
  exact ⟨_, names, (ofGrammar_answers.mp read).1⟩

/-! ## Runs -/

/-- The operation keeps the invariant, whether it answers or fails. -/
def Keeps (operation : SessionM α) : Prop :=
  ∀ ⦃session : Session⦄, session.Fresh → (operation.outcome session).2.Fresh

theorem keeps_pure (value : α) : (pure value : SessionM α).Keeps := fun _ fresh => fresh

theorem keeps_throw (failure : Failure) : (throw failure : SessionM α).Keeps :=
  fun _ fresh => fresh

theorem keeps_modify {change : Session → Session}
    (issued : ∀ session, (change session).issued = session.issued)
    (links : ∀ session, (change session).links = session.links) :
    (modify change : SessionM PUnit).Keeps :=
  fun session fresh => fresh.congr (issued session) (links session)

theorem Keeps.bind {operation : SessionM α} {next : α → SessionM β} (first : operation.Keeps)
    (go : ∀ value, (next value).Keeps) : (operation >>= next).Keeps := by
  intro session fresh
  have middle := first fresh
  rw [outcome_bind]
  generalize operation.outcome session = reached at middle
  rcases reached with ⟨failure | value, after⟩
  · exact middle
  · exact go value middle

theorem keeps_note (event : Event) : (note event).Keeps :=
  keeps_modify (fun _ => rfl) fun _ => rfl

theorem keeps_settings : SessionM.settings.Keeps := by
  intro session fresh
  rw [outcome_settings]
  cases session.inForce with
  | valid settings => exact fresh.loaded settings
  | invalid issues => exact fresh.congr rfl rfl

theorem keeps_reloadSettings : reloadSettings.Keeps := by
  have forgets : (modify fun session => { session with settings := none } : SessionM Unit).Keeps :=
    keeps_modify (fun _ => rfl) fun _ => rfl
  exact forgets.bind fun _ => keeps_settings

theorem keeps_ofGrammar (read : Except GrammarError α) : (ofGrammar read).Keeps := by
  cases read with
  | ok value => exact keeps_pure value
  | error error => exact keeps_throw _

theorem keeps_register (tree : α) : (register tree).Keeps :=
  fun _ fresh occurrence unknown => fresh occurrence (Nat.le_of_succ_le unknown)

theorem keeps_enroll (tree : α) (names : List String) (method cls : SigId → Option SigId)
    {next : Registered α → Nat → SessionM β} (go : ∀ sig count, (next sig count).Keeps) :
    (do
      let sig ← register tree
      let count ← resolveNames sig.id names (method sig.id) (cls sig.id)
      next sig count : SessionM β).Keeps := by
  intro session fresh
  rw [outcome_enroll fresh tree names method cls next]
  exact go _ _ (fresh.enrolled names method cls)

theorem keeps_parseType (text : String) : (parseType text).Keeps :=
  (keeps_note _).bind fun _ => keeps_settings.bind fun _ => (keeps_ofGrammar _).bind
    fun read => keeps_register read.1

theorem keeps_parseClass (text : String) : (parseClass text).Keeps :=
  (keeps_note _).bind fun _ => keeps_settings.bind fun _ => (keeps_ofGrammar _).bind
    fun read => keeps_enroll read.1 read.2 (fun _ => none) some fun sig _ => keeps_pure sig

theorem keeps_modifyClass (id : ClassId) (change : ClassInfo → ClassInfo) :
    (modifyClass id change).Keeps :=
  keeps_modify (fun _ => rfl) fun _ => rfl

theorem keeps_classSignature (id : ClassId) : (classSignature id).Keeps := by
  intro session fresh
  unfold classSignature
  rw [outcome_classInfo_bind]
  rcases (session.classes[id.serial]?).getD ⟨"", none, none⟩ with ⟨name, _ | text, _ | sig⟩
  · exact fresh
  · exact fresh
  · exact (keeps_parseClass text).bind (fun sig => (keeps_modifyClass id _).bind fun _ =>
      keeps_pure (some sig)) fresh
  · exact fresh

theorem keeps_contextSignature : (context : Option ClassId) → (contextSignature context).Keeps
  | none => keeps_pure none
  | some id => keeps_classSignature id

theorem keeps_parseMethod (text : String) (context : Option ClassId) :
    (parseMethod text context).Keeps :=
  (keeps_note _).bind fun _ => (keeps_contextSignature context).bind fun cls =>
    keeps_settings.bind fun _ => (keeps_ofGrammar _).bind fun read =>
      keeps_enroll read.1 read.2 some (fun _ => cls.map Registered.id) fun sig _ =>
        (keeps_note _).bind fun _ => keeps_pure sig

end SessionM

/-- A call of the library: settings, classes, parsers, trees built by hand, and links set by hand.
A batch is a run of such calls. -/
inductive Call where
  | settings
  | reloadSettings
  | addClass (name : String) (text : Option String)
  | setClassText (id : ClassId) (text : Option String)
  | classSignature (id : ClassId)
  | parseType (text : String)
  | parseClass (text : String)
  | parseMethod (text : String) (context : Option ClassId)
  | build (node : Node)
  | link (occurrence : Occurrence) (name : String) (method cls : Option SigId)
  | resolve (recorded : List (Recorded Unit)) (method cls : Option SigId)

namespace Call

/-- The session after a call. -/
def after (session : Session) : Call → Session
  | settings => (SessionM.settings.outcome session).2
  | reloadSettings => (SessionM.reloadSettings.outcome session).2
  | addClass name text => ((SessionM.addClass name text).outcome session).2
  | setClassText id text => ((SessionM.setClassText id text).outcome session).2
  | classSignature id => ((SessionM.classSignature id).outcome session).2
  | parseType text => ((SessionM.parseType text).outcome session).2
  | parseClass text => ((SessionM.parseClass text).outcome session).2
  | parseMethod text context => ((SessionM.parseMethod text context).outcome session).2
  | build node => ((SessionM.register node).outcome session).2
  | link occurrence name method cls =>
      ((SessionM.link occurrence name method cls).outcome session).2
  | resolve recorded method cls => ((SessionM.resolve recorded method cls).outcome session).2

/-- Links are set by hand only in trees that exist. -/
def Possible (session : Session) : Call → Prop
  | link occurrence _ _ _ => occurrence.owner.serial < session.issued
  | resolve recorded _ _ => ∀ occurrence name, Recorded.typeVar occurrence name ∈ recorded →
      occurrence.owner.serial < session.issued
  | _ => True

theorem fresh_after {session : Session} (fresh : session.Fresh) (call : Call)
    (possible : call.Possible session) : (call.after session).Fresh := by
  cases call with
  | settings => exact SessionM.keeps_settings fresh
  | reloadSettings => exact SessionM.keeps_reloadSettings fresh
  | addClass name text => exact fresh.congr rfl rfl
  | setClassText id text => exact SessionM.keeps_modifyClass id _ fresh
  | classSignature id => exact SessionM.keeps_classSignature id fresh
  | parseType text => exact SessionM.keeps_parseType text fresh
  | parseClass text => exact SessionM.keeps_parseClass text fresh
  | parseMethod text context => exact SessionM.keeps_parseMethod text context fresh
  | build node => exact SessionM.keeps_register node fresh
  | link occurrence name method cls =>
      have linked := fresh.linked possible name method cls
      show ((SessionM.link occurrence name method cls).outcome session).2.Fresh
      rwa [SessionM.outcome_link]
  | resolve recorded method cls =>
      have resolved := fresh.resolved possible method cls
      show ((SessionM.resolve recorded method cls).outcome session).2.Fresh
      rwa [SessionM.outcome_resolve]

end Call

/-- The sessions that calls lead to, from the start and whatever the calls answer. -/
inductive Session.Reachable : Session → Prop
  | start (sources : Sources) : Reachable (Session.start sources)
  | call {session : Session} (call : Call) :
      Reachable session → call.Possible session → Reachable (call.after session)

theorem Session.Reachable.fresh {session : Session} (reachable : session.Reachable) :
    session.Fresh := by
  induction reachable with
  | start sources => exact Session.fresh_start sources
  | call call _ possible ih => exact call.fresh_after ih possible

end GenericSignature
