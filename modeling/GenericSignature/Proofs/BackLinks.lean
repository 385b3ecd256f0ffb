import GenericSignature.Proofs.Recording

/-!
# Back-links

Where the type variables of a signature are linked to after it was parsed, and what the parse
leaves alone.

1. `Session.Extends` and `Session.Quiet` say what an operation keeps: the settings, the links of
   everything that has an identity already and, if it is quiet, the classes.
2. `Session.LinksOf` says what links the type variables of one signature have.  The names recorded
   while reading are the type variables of the tree, so linking the record links every variable of
   the tree and nothing else (`Session.linksOf_enrolled`).
3. The variables of a method are linked to it and to the signature of its class, those of a class
   to it, and those of a type to nothing; no link is ever refused (`back_links_of_parsed`).
-/

namespace GenericSignature

open Grammar

variable {α β : Type}

/-! ## What is kept -/

/-- Whether an event is the start of reading a class signature. -/
def Event.isClassReading : Event → Bool
  | .readingClass _ => true
  | _ => false

namespace Session

/-- How often a class signature was read. -/
def classReadings (session : Session) : Nat := session.log.countP Event.isClassReading

/-- What is known of a class. -/
def known (session : Session) (id : ClassId) : ClassInfo :=
  (session.classes[id.serial]?).getD ⟨"", none, none⟩

/-- The later session has the same settings in force and may have new identities; what had an
identity before has the links that it had. -/
structure Extends (before after : Session) : Prop where
  fresh : before.Fresh → after.Fresh
  inForce_eq : after.inForce = before.inForce
  issued_le : before.issued ≤ after.issued
  links_eq : ∀ occurrence : Occurrence, occurrence.owner.serial < before.issued →
    after.links.get occurrence = before.links.get occurrence

/-- The later session also knows the same of every class, and no class signature was read. -/
structure Quiet (before after : Session) : Prop extends Extends before after where
  classes_eq : after.classes = before.classes
  readings_eq : after.classReadings = before.classReadings

variable {session before middle after : Session}

theorem Extends.refl (session : Session) : Extends session session :=
  ⟨id, rfl, Nat.le_refl _, fun _ _ => rfl⟩

theorem Extends.trans (first : Extends before middle) (second : Extends middle after) :
    Extends before after where
  fresh := second.fresh ∘ first.fresh
  inForce_eq := second.inForce_eq.trans first.inForce_eq
  issued_le := Nat.le_trans first.issued_le second.issued_le
  links_eq occurrence known :=
    (second.links_eq occurrence (Nat.lt_of_lt_of_le known first.issued_le)).trans
      (first.links_eq occurrence known)

theorem Quiet.refl (session : Session) : Quiet session session := ⟨.refl session, rfl, rfl⟩

theorem Quiet.trans (first : Quiet before middle) (second : Quiet middle after) :
    Quiet before after :=
  ⟨first.toExtends.trans second.toExtends, second.classes_eq.trans first.classes_eq,
    second.readings_eq.trans first.readings_eq⟩

theorem extends_noted (session : Session) (event : Event) :
    Extends session (session.noted event) :=
  ⟨id, rfl, Nat.le_refl _, fun _ _ => rfl⟩

theorem quiet_noted (session : Session) {event : Event} (other : event.isClassReading = false) :
    Quiet session (session.noted event) := by
  refine ⟨extends_noted session event, rfl, ?_⟩
  unfold classReadings noted
  rw [List.countP_cons, other]
  rfl

theorem quiet_loaded {settings : Settings} (valid : session.inForce = .valid settings) :
    Quiet session (session.loaded settings) := by
  refine ⟨⟨fun fresh => fresh.loaded settings, ?_, ?_, fun _ _ => ?_⟩, ?_, ?_⟩
  · rw [inForce_loaded session settings valid, valid]
  · exact Nat.le_of_eq (loaded_issued ..).symm
  · rw [loaded_links]
  · unfold loaded
    split <;> rfl
  · unfold loaded classReadings
    split
    · rfl
    · -- the lines of the settings file that are noted are no class signatures
      have none : (session.sources.unreadableLines.map Event.unreadable).countP
          Event.isClassReading = 0 := by
        rw [List.countP_map, List.countP_eq_zero]
        intro line _
        exact Bool.false_ne_true
      rw [List.countP_append, List.countP_reverse, none, Nat.zero_add]

theorem quiet_enrolled (session : Session) (names : List String)
    (method cls : SigId → Option SigId) : Quiet session (session.enrolled names method cls) := by
  refine ⟨⟨fun fresh => fresh.enrolled names method cls, rfl, Nat.le_succ _, ?_⟩, rfl, rfl⟩
  intro occurrence known
  refine LinkTable.resolveFrom_get_of_not_recorded ?_ session.links 0
  intro name member
  obtain ⟨index, _, equal⟩ := List.mem_mapIdx.mp member
  obtain ⟨rfl, _⟩ := Recorded.typeVar.inj equal
  exact Nat.lt_irrefl _ known

theorem extends_withClasses (session : Session) (classes : Array ClassInfo) :
    Extends session { session with classes := classes } :=
  ⟨fun fresh => fresh.congr rfl rfl, rfl, Nat.le_refl _, fun _ _ => rfl⟩

end Session

/-! ## Links of a signature -/

theorem Links.bind_unset (method cls : Option SigId) :
    Links.unset.bind method cls = (⟨method, cls⟩, none) := by
  cases method <;> cases cls <;> rfl

namespace LinkTable

theorem link_unset {table : LinkTable} {occurrence : Occurrence}
    (unset : table.get occurrence = .unset) (name : String) (method cls : Option SigId) :
    table.link occurrence name method cls = (table.set occurrence ⟨method, cls⟩, none) := by
  unfold link
  rw [unset, Links.bind_unset]

/-- Linking the record of a new signature links the recorded occurrences and no others. -/
theorem resolveFrom_occurrences_get {ι : Type} {owner : SigId} {table : LinkTable} {first : Nat}
    (unset : ∀ index ≥ first, table.get ⟨owner, index⟩ = .unset) (names : List String)
    (method cls : Option SigId) (count index : Nat) (later : first ≤ index) :
    (table.resolveFrom method cls count
      (occurrences owner first names : List (Recorded ι))).1.get ⟨owner, index⟩ =
      if index < first + names.length then ⟨method, cls⟩ else .unset := by
  induction names generalizing table first count with
  | nil =>
      rw [List.length_nil, Nat.add_zero, if_neg (Nat.not_lt.mpr later)]
      exact unset index later
  | cons name names ih =>
      rw [occurrences_cons]
      unfold resolveFrom
      rw [link_unset (unset first (Nat.le_refl first))]
      simp only []
      have different : ∀ other, first ≠ other →
          (⟨owner, first⟩ : Occurrence) ≠ ⟨owner, other⟩ :=
        fun other apart same => apart (congrArg Occurrence.index same)
      rcases Nat.eq_or_lt_of_le later with rfl | after
      · -- the occurrence that was linked first is not recorded again
        rw [resolveFrom_get_of_not_recorded, get_set, if_pos rfl, if_pos]
        · exact Nat.lt_add_of_pos_right (Nat.succ_pos _)
        · intro other member
          obtain ⟨place, _, equal⟩ := List.mem_mapIdx.mp member
          have same := congrArg Occurrence.index (Recorded.typeVar.inj equal).1
          simp only at same
          omega
      · have rest : ∀ other ≥ first + 1,
            (table.set ⟨owner, first⟩ ⟨method, cls⟩).get ⟨owner, other⟩ = .unset := by
          intro other beyond
          rw [get_set, if_neg (different other (Nat.ne_of_lt beyond))]
          exact unset other (Nat.le_of_succ_le beyond)
        rw [ih rest (count + 1) after, List.length_cons, Nat.add_right_comm, Nat.add_assoc]

end LinkTable

namespace Session

/-- The first `count` type variables of the signature have the links, and it has no other type
variable with a link. -/
def LinksOf (session : Session) (id : SigId) (count : Nat) (links : Links) : Prop :=
  ∀ index, session.links.get ⟨id, index⟩ = if index < count then links else .unset

variable {session before after : Session} {id : SigId} {count : Nat} {links : Links}

theorem LinksOf.kept (tied : before.LinksOf id count links) (known : id.serial < before.issued)
    (later : Extends before after) : after.LinksOf id count links :=
  fun index => (later.links_eq ⟨id, index⟩ known).trans (tied index)

theorem linksOf_enrolled (fresh : session.Fresh) (names : List String)
    (method cls : SigId → Option SigId) :
    (session.enrolled names method cls).LinksOf ⟨session.issued⟩ names.length
      ⟨method ⟨session.issued⟩, cls ⟨session.issued⟩⟩ := by
  intro index
  have unset : ∀ index ≥ 0, session.links.get ⟨⟨session.issued⟩, index⟩ = .unset :=
    fun index _ => fresh _ (Nat.le_refl _)
  have linked := LinkTable.resolveFrom_occurrences_get (ι := Empty) unset names
    (method ⟨session.issued⟩) (cls ⟨session.issued⟩) 0 index (Nat.zero_le index)
  rw [Nat.zero_add] at linked
  exact linked

end Session

/-! ## Classes -/

/-- The session after the signature of a class was read for the first time: its type variables are
linked to it, and it is kept with the class. -/
def Session.classRead (session : Session) (settings : Settings) (id : ClassId) (text : String)
    (sig : Registered ClassSig) : Session :=
  let linked := ((session.noted (.readingClass text)).loaded settings).enrolled sig.tree.typeVars
    (fun _ => none) some
  { linked with
    classes := linked.classes.modify id.serial fun info => { info with parsed := some sig } }

namespace Session

variable {session : Session} {settings : Settings} {id : ClassId} {text : String}
  {sig : Registered ClassSig}

theorem classes_of_known_text (given : (session.known id).text = some text) :
    session.classes[id.serial]? = some (session.known id) := by
  unfold known at given ⊢
  cases found : session.classes[id.serial]? with
  | none =>
      rw [found] at given
      cases given
  | some info => rfl

theorem extends_classRead (valid : session.inForce = .valid settings) :
    Extends session (session.classRead settings id text sig) := by
  have noted := extends_noted session (.readingClass text)
  have loaded := (quiet_loaded (noted.inForce_eq.trans valid)).toExtends
  have enrolled := (quiet_enrolled ((session.noted (.readingClass text)).loaded settings)
    sig.tree.typeVars (fun _ => none) some).toExtends
  exact ((noted.trans loaded).trans enrolled).trans (extends_withClasses _ _)

theorem loaded_classes (session : Session) (settings : Settings) :
    (session.loaded settings).classes = session.classes := by
  unfold loaded
  split <;> rfl

theorem known_classRead (given : (session.known id).text = some text) :
    (session.classRead settings id text sig).known id =
      { session.known id with parsed := some sig } := by
  have found := classes_of_known_text given
  have same : ((session.noted (.readingClass text)).loaded settings).classes = session.classes :=
    loaded_classes (session.noted (.readingClass text)) settings
  show ((Array.modify ((session.noted (.readingClass text)).loaded settings).classes id.serial
    fun info => { info with parsed := some sig })[id.serial]?).getD ⟨"", none, none⟩ = _
  rw [same, Array.getElem?_modify, if_pos rfl, found]
  rfl

theorem classReadings_classRead (valid : session.inForce = .valid settings) :
    (session.classRead settings id text sig).classReadings = session.classReadings + 1 := by
  have noted : (session.noted (.readingClass text)).inForce = .valid settings := valid
  have counted : (session.noted (.readingClass text)).classReadings =
      session.classReadings + 1 := List.countP_cons_of_pos rfl
  exact (quiet_loaded noted).readings_eq.trans counted

theorem linksOf_classRead (fresh : session.Fresh) (new : sig.id = ⟨session.issued⟩) :
    (session.classRead settings id text sig).LinksOf sig.id sig.tree.typeVars.length
      ⟨none, some sig.id⟩ := by
  have noted : (session.noted (.readingClass text)).Fresh := fresh
  have linked := linksOf_enrolled (noted.loaded settings) sig.tree.typeVars (fun _ => none) some
  rw [loaded_issued] at linked
  rw [new]
  exact linked

theorem issued_classRead :
    (session.classRead settings id text sig).issued = session.issued + 1 := by
  show ((session.noted (.readingClass text)).loaded settings).issued + 1 = _
  rw [loaded_issued]
  rfl

end Session

/-! ## What the parsers do -/

namespace SessionM

variable {session after : Session} {settings : Settings} {text : String} {id : ClassId}

theorem answers_settings :
    SessionM.settings.Answers session settings after ↔
      session.inForce = .valid settings ∧ after = session.loaded settings := by
  unfold Answers
  rw [outcome_settings]
  cases session.inForce with
  | valid found =>
      simp only [Prod.mk.injEq, Except.ok.injEq, Validated.valid.injEq]
      constructor
      · rintro ⟨rfl, rfl⟩
        exact ⟨rfl, rfl⟩
      · rintro ⟨rfl, rfl⟩
        exact ⟨rfl, rfl⟩
  | invalid issues => simp

theorem answers_note_bind {event : Event} {next : PUnit → SessionM β} {value : β} :
    (note event >>= next).Answers session value after ↔
      (next ⟨⟩).Answers (session.noted event) value after := Iff.rfl

/-- The settings were in force if a class signature was answered. -/
theorem inForce_of_parseClass {sig : Registered ClassSig}
    (answers : (parseClass text).Answers session sig after) :
    ∃ settings, session.inForce = .valid settings := by
  obtain ⟨settings, _, found, _⟩ := answers_bind.mp (answers_note_bind.mp answers)
  exact ⟨settings, (answers_settings.mp found).1⟩

theorem outcome_classSignature (id : ClassId) (session : Session) :
    (classSignature id).outcome session =
      match (session.known id).text, (session.known id).parsed with
      | none, _ => (.ok none, session)
      | some _, some sig => (.ok (some sig), session)
      | some text, none =>
          (do
            let sig ← parseClass text
            modifyClass id fun info => { info with parsed := some sig }
            return some sig : SessionM (Option (Registered ClassSig))).outcome session := by
  unfold classSignature Session.known
  rw [outcome_classInfo_bind]
  generalize (session.classes[id.serial]?).getD ⟨"", none, none⟩ = info
  rcases info with ⟨name, _ | text, _ | sig⟩ <;> rfl

/-- A class without a signature text has no signature. -/
theorem classSignature_untold (untold : (session.known id).text = none) :
    (classSignature id).outcome session = (.ok none, session) := by
  rw [outcome_classSignature, untold]

/-- A signature that was read before is answered again. -/
theorem classSignature_read {sig : Registered ClassSig}
    (given : (session.known id).text = some text)
    (read : (session.known id).parsed = some sig) :
    (classSignature id).outcome session = (.ok (some sig), session) := by
  rw [outcome_classSignature, given, read]

/-- A signature that was not read yet is read now.  It is kept with the class only if it is well
formed. -/
theorem classSignature_unread (fresh : session.Fresh) (valid : session.inForce = .valid settings)
    (given : (session.known id).text = some text) (unread : (session.known id).parsed = none) :
    (classSignature id).outcome session =
      match ClassSig.parse settings.maxLength text with
      | .ok (tree, _) =>
          (.ok (some ⟨⟨session.issued⟩, tree⟩),
            session.classRead settings id text ⟨⟨session.issued⟩, tree⟩)
      | .error error =>
          (.error (.grammar error), (session.noted (.readingClass text)).loaded settings) := by
  rw [outcome_classSignature, given, unread]
  simp only []
  rw [outcome_bind, outcome_parseClass fresh valid]
  cases parsed : ClassSig.parse settings.maxLength text with
  | error error => rfl
  | ok read =>
      obtain ⟨tree, names⟩ := read
      obtain rfl := names_of_parseClass parsed
      rfl

/-- What reading the signature of a class can do: nothing, if there is no text or if it was read
before, and else read it. -/
theorem classSignature_cases {cls : Option (Registered ClassSig)} (fresh : session.Fresh)
    (answers : (classSignature id).Answers session cls after) :
    (session.known id).text = none ∧ cls = none ∧ after = session ∨
    (∃ text sig, (session.known id).text = some text ∧ (session.known id).parsed = some sig ∧
      cls = some sig ∧ after = session) ∨
    ∃ text settings sig, (session.known id).text = some text ∧
      (session.known id).parsed = none ∧ session.inForce = .valid settings ∧
      sig.id = ⟨session.issued⟩ ∧ cls = some sig ∧
      after = session.classRead settings id text sig := by
  unfold Answers at answers
  cases told : (session.known id).text with
  | none =>
      rw [classSignature_untold told] at answers
      cases answers
      exact .inl ⟨rfl, rfl, rfl⟩
  | some text =>
      cases read : (session.known id).parsed with
      | some sig =>
          rw [classSignature_read told read] at answers
          cases answers
          exact .inr (.inl ⟨text, sig, rfl, rfl, rfl, rfl⟩)
      | none =>
          -- that there was an answer shows that the settings were valid
          have parsing := answers
          rw [outcome_classSignature, told, read] at parsing
          obtain ⟨_, _, parsed, _⟩ := answers_bind.mp parsing
          obtain ⟨settings, valid⟩ := inForce_of_parseClass parsed
          rw [classSignature_unread fresh valid told read] at answers
          cases outcome : ClassSig.parse settings.maxLength text with
          | error error =>
              rw [outcome] at answers
              cases answers
          | ok found =>
              rw [outcome] at answers
              cases answers
              exact .inr (.inr ⟨text, settings, _, rfl, rfl, valid, rfl, rfl, rfl⟩)

theorem contextSignature_untold {context : Option ClassId}
    (untold : ∀ id ∈ context, (session.known id).text = none) :
    (contextSignature context).outcome session = (.ok none, session) := by
  cases context with
  | none => rfl
  | some id => exact classSignature_untold (untold id rfl)

theorem contextSignature_extends {context : Option ClassId} {cls : Option (Registered ClassSig)}
    (fresh : session.Fresh) (answers : (contextSignature context).Answers session cls after) :
    session.Extends after := by
  cases context with
  | none =>
      cases answers
      exact .refl session
  | some id =>
      obtain ⟨_, _, rfl⟩ | ⟨_, _, _, _, _, rfl⟩ | ⟨_, _, _, _, _, valid, _, _, rfl⟩ :=
        classSignature_cases fresh answers
      · exact .refl _
      · exact .refl _
      · exact Session.extends_classRead valid

/-- The context of a method is read once: afterwards, as long as the classes stay as they are, the
same signature is answered and nothing happens. -/
theorem contextSignature_again {context : Option ClassId} {cls : Option (Registered ClassSig)}
    {later : Session} (fresh : session.Fresh)
    (answers : (contextSignature context).Answers session cls after)
    (same : later.classes = after.classes) :
    (contextSignature context).Answers later cls later := by
  cases context with
  | none =>
      cases answers
      rfl
  | some id =>
      have known : later.known id = after.known id := by
        unfold Session.known
        rw [same]
      obtain ⟨untold, rfl, rfl⟩ | ⟨text, sig, told, read, rfl, rfl⟩ |
        ⟨text, settings, sig, told, _, _, _, rfl, rfl⟩ := classSignature_cases fresh answers
      · exact classSignature_untold (known ▸ untold)
      · exact classSignature_read (known ▸ told) (known ▸ read)
      · rw [Session.known_classRead told] at known
        have told' : (later.known id).text = some text := by rw [known, told]
        exact classSignature_read told' (by rw [known])

end SessionM

/-! ## Methods -/

/-- What reading a method comes to once its class is known: the signature with the next identity,
and the session afterwards; or the error in the text. -/
def Session.methodRead (session : Session) (settings : Settings) (cls : Option SigId)
    (text : String) : Except GrammarError (Registered MethodSig) × Session :=
  match MethodSig.parse settings.maxLength text with
  | .ok (tree, _) =>
      (.ok ⟨⟨session.issued⟩, tree⟩,
        ((session.loaded settings).enrolled tree.typeVars some fun _ => cls).noted
          (.linked tree.typeVars.length tree.display))
  | .error error => (.error error, session.loaded settings)

namespace Session

variable {session : Session} {settings : Settings} {cls : Option SigId} {text : String}

theorem quiet_methodRead (valid : session.inForce = .valid settings) (cls : Option SigId)
    (text : String) : Quiet session (session.methodRead settings cls text).2 := by
  unfold methodRead
  split
  · exact ((quiet_loaded valid).trans (quiet_enrolled _ _ _ _)).trans (quiet_noted _ rfl)
  · exact quiet_loaded valid

/-- A method that was read is what the grammar makes of its text. -/
theorem methodRead_ok {sig : Registered MethodSig} {after : Session}
    (read : session.methodRead settings cls text = (.ok sig, after)) :
    ∃ names, MethodSig.parse settings.maxLength text = .ok (sig.tree, names) := by
  unfold methodRead at read
  split at read
  · next tree names parsed =>
      cases read
      exact ⟨names, parsed⟩
  · cases read

theorem methodRead_error {error : GrammarError} {after : Session}
    (read : session.methodRead settings cls text = (.error error, after)) :
    MethodSig.parse settings.maxLength text = .error error := by
  unfold methodRead at read
  split at read
  · cases read
  · next parsed =>
      cases read
      exact parsed

/-- A method that was read has a new identity, and its type variables are linked to it and to the
class. -/
theorem linksOf_methodRead (fresh : session.Fresh) {sig : Registered MethodSig}
    (read : (session.methodRead settings cls text).1 = .ok sig) :
    session.issued ≤ sig.id.serial ∧
      sig.id.serial < (session.methodRead settings cls text).2.issued ∧
      (session.methodRead settings cls text).2.LinksOf sig.id sig.tree.typeVars.length
        ⟨some sig.id, cls⟩ := by
  unfold methodRead at read ⊢
  split at read
  · next tree names _ =>
      cases read
      have linked := linksOf_enrolled (fresh.loaded settings) tree.typeVars some fun _ => cls
      rw [loaded_issued] at linked
      refine ⟨Nat.le_refl _, ?_, linked⟩
      show session.issued < (session.loaded settings).issued + 1
      rw [loaded_issued]
      exact Nat.lt_succ_self _
  · cases read

end Session

namespace SessionM

variable {session middle after : Session} {settings : Settings} {text : String}
  {context : Option ClassId} {cls : Option (Registered ClassSig)}

/-- An error in the signature of the class is the error of the method. -/
theorem parseMethod_context_fails {failure : Failure}
    (fails : (contextSignature context).Fails (session.noted (.readingMethod text)) failure
      middle) : (parseMethod text context).Fails session failure middle := by
  unfold Fails parseMethod at *
  rw [outcome_note_bind, outcome_bind, fails]

theorem outcome_parseMethod_of_context (fresh : session.Fresh)
    (opened : (contextSignature context).Answers (session.noted (.readingMethod text)) cls middle)
    (valid : middle.inForce = .valid settings) :
    (parseMethod text context).outcome session =
      ((middle.methodRead settings (cls.map Registered.id) text).1.mapError .grammar,
        (middle.methodRead settings (cls.map Registered.id) text).2) := by
  have noted : (session.noted (.readingMethod text)).Fresh := fresh
  have freshMiddle : middle.Fresh := (contextSignature_extends noted opened).fresh noted
  unfold Answers at opened
  unfold parseMethod Session.methodRead
  rw [outcome_note_bind, outcome_bind, opened]
  simp only []
  rw [outcome_settings_bind valid, outcome_ofGrammar_bind]
  cases parsed : MethodSig.parse settings.maxLength text with
  | error error => rfl
  | ok read =>
      obtain ⟨tree, names⟩ := read
      -- what was noted while reading is what occurs in the tree, so each occurrence gets one link
      obtain rfl := names_of_parseMethod parsed
      have enrolled := outcome_enroll (freshMiddle.loaded settings) tree tree.typeVars some
        (fun _ => cls.map Registered.id) fun sig count => do
          note (.linked count tree.display)
          return sig
      rw [Session.loaded_issued] at enrolled
      exact enrolled

/-- What a method that was answered went through: its class was read or known, and then its
text. -/
theorem parseMethod_cases {sig : Registered MethodSig} (fresh : session.Fresh)
    (answers : (parseMethod text context).Answers session sig after) :
    ∃ settings cls middle,
      (contextSignature context).Answers (session.noted (.readingMethod text)) cls middle ∧
      middle.inForce = .valid settings ∧
      middle.methodRead settings (cls.map Registered.id) text = (.ok sig, after) := by
  obtain ⟨cls, middle, opened, rest⟩ := answers_bind.mp (answers_note_bind.mp answers)
  obtain ⟨settings, _, found, _⟩ := answers_bind.mp rest
  have valid := (answers_settings.mp found).1
  refine ⟨settings, cls, middle, opened, valid, ?_⟩
  unfold Answers at answers
  rw [outcome_parseMethod_of_context fresh opened valid] at answers
  generalize middle.methodRead settings (cls.map Registered.id) text = read at answers
  rcases read with ⟨error | found, left⟩
  · cases answers
  · cases answers
    rfl

/-! ## No link is refused -/

/-- In no session of the right kind does the operation fail because a link was set before. -/
def LinksFreely (operation : SessionM α) : Prop :=
  ∀ ⦃session : Session⦄, session.Fresh → ∀ (error : ScopeError) (after : Session),
    ¬ operation.Fails session (.scope error) after

theorem LinksFreely.bind {operation : SessionM α} {next : α → SessionM β} (keeps : operation.Keeps)
    (first : operation.LinksFreely) (go : ∀ value, (next value).LinksFreely) :
    (operation >>= next).LinksFreely := by
  intro session fresh error after fails
  rcases fails_bind.mp fails with early | ⟨value, middle, answered, late⟩
  · exact first fresh error after early
  · have freshMiddle := keeps fresh
    unfold Answers at answered
    rw [answered] at freshMiddle
    exact go value freshMiddle error after late

theorem linksFreely_pure (value : α) : (pure value : SessionM α).LinksFreely :=
  fun _ _ _ _ => fails_pure

theorem linksFreely_modify (change : Session → Session) :
    (modify change : SessionM PUnit).LinksFreely :=
  fun _ _ _ _ fails => nomatch fails

theorem linksFreely_settings : SessionM.settings.LinksFreely := by
  intro session fresh error after fails
  unfold Fails at fails
  rw [outcome_settings] at fails
  split at fails <;> cases fails

theorem linksFreely_ofGrammar (read : Except GrammarError α) : (ofGrammar read).LinksFreely := by
  intro session fresh error after fails
  cases read <;> cases fails

theorem linksFreely_enroll (tree : α) (names : List String) (method cls : SigId → Option SigId)
    {next : Registered α → Nat → SessionM β} (go : ∀ sig count, (next sig count).LinksFreely) :
    (do
      let sig ← register tree
      let count ← resolveNames sig.id names (method sig.id) (cls sig.id)
      next sig count : SessionM β).LinksFreely := by
  intro session fresh error after fails
  unfold Fails at fails
  rw [outcome_enroll fresh tree names method cls next] at fails
  exact go _ _ (fresh.enrolled names method cls) error after fails

theorem linksFreely_parseType (text : String) : (parseType text).LinksFreely :=
  .bind (keeps_note _) (linksFreely_modify _) fun _ => .bind keeps_settings linksFreely_settings
    fun _ => .bind (keeps_ofGrammar _) (linksFreely_ofGrammar _) fun _ _ _ _ _ fails =>
      nomatch fails

theorem linksFreely_parseClass (text : String) : (parseClass text).LinksFreely :=
  .bind (keeps_note _) (linksFreely_modify _) fun _ => .bind keeps_settings linksFreely_settings
    fun _ => .bind (keeps_ofGrammar _) (linksFreely_ofGrammar _) fun read =>
      linksFreely_enroll read.1 read.2 (fun _ => none) some fun sig _ => linksFreely_pure sig

theorem linksFreely_contextSignature (context : Option ClassId) :
    (contextSignature context).LinksFreely := by
  intro session fresh error after fails
  cases context with
  | none => exact fails_pure fails
  | some id =>
      unfold Fails contextSignature at fails
      rw [outcome_classSignature] at fails
      split at fails
      · cases fails
      · cases fails
      · next text _ _ =>
          exact LinksFreely.bind (keeps_parseClass text) (linksFreely_parseClass text)
            (fun sig => .bind (keeps_modifyClass id _) (linksFreely_modify _) fun _ =>
              linksFreely_pure (some sig)) fresh error after fails

theorem linksFreely_parseMethod (text : String) (context : Option ClassId) :
    (parseMethod text context).LinksFreely :=
  .bind (keeps_note _) (linksFreely_modify _) fun _ =>
    .bind (keeps_contextSignature context) (linksFreely_contextSignature context) fun cls =>
      .bind keeps_settings linksFreely_settings fun _ =>
        .bind (keeps_ofGrammar _) (linksFreely_ofGrammar _) fun read =>
          linksFreely_enroll read.1 read.2 some (fun _ => cls.map Registered.id) fun sig _ =>
            .bind (keeps_note _) (linksFreely_modify _) fun _ => linksFreely_pure sig

end SessionM

/-! ## The links of parsed signatures -/

namespace SessionM

variable {session after : Session} {text : String}

theorem parseType_unlinked {sig : Registered TypeSig} (fresh : session.Fresh)
    (answers : (parseType text).Answers session sig after) (index : Nat) :
    after.links.get ⟨sig.id, index⟩ = .unset := by
  obtain ⟨settings, _, found, rest⟩ := answers_bind.mp (answers_note_bind.mp answers)
  obtain ⟨valid, rfl⟩ := answers_settings.mp found
  obtain ⟨_, _, read, registered⟩ := answers_bind.mp rest
  obtain ⟨_, rfl⟩ := ofGrammar_answers.mp read
  have noted : (session.noted (.readingType text)).Fresh := fresh
  have unset := (noted.loaded settings) ⟨⟨((session.noted (.readingType text)).loaded
    settings).issued⟩, index⟩ (Nat.le_refl _)
  cases registered
  exact unset

theorem parseClass_linked {sig : Registered ClassSig} (fresh : session.Fresh)
    (answers : (parseClass text).Answers session sig after) :
    session.issued ≤ sig.id.serial ∧ sig.id.serial < after.issued ∧
      after.LinksOf sig.id sig.tree.typeVars.length ⟨none, some sig.id⟩ := by
  obtain ⟨settings, valid⟩ := inForce_of_parseClass answers
  unfold Answers at answers
  rw [outcome_parseClass fresh valid] at answers
  cases parsed : ClassSig.parse settings.maxLength text with
  | error error =>
      rw [parsed] at answers
      cases answers
  | ok read =>
      obtain ⟨tree, names⟩ := read
      obtain rfl := names_of_parseClass parsed
      rw [parsed] at answers
      cases answers
      have noted : (session.noted (.readingClass text)).Fresh := fresh
      have linked := Session.linksOf_enrolled (noted.loaded settings) tree.typeVars
        (fun _ => none) some
      rw [Session.loaded_issued] at linked
      refine ⟨Nat.le_refl _, ?_, linked⟩
      show session.issued < ((session.noted (.readingClass text)).loaded settings).issued + 1
      rw [Session.loaded_issued]
      exact Nat.lt_succ_self _

/-- The class that a method is linked to is what reading its context answers from then on. -/
theorem parseMethod_linked {context : Option ClassId} {sig : Registered MethodSig}
    (fresh : session.Fresh) (answers : (parseMethod text context).Answers session sig after) :
    ∃ cls, (contextSignature context).Answers after cls after ∧
      ((∀ id ∈ context, (session.known id).text = none) → cls = none) ∧
      session.issued ≤ sig.id.serial ∧ sig.id.serial < after.issued ∧
      after.LinksOf sig.id sig.tree.typeVars.length ⟨some sig.id, cls.map Registered.id⟩ ∧
      after.log.head? = some (.linked sig.tree.typeVars.length sig.tree.display) := by
  have noted : (session.noted (.readingMethod text)).Fresh := fresh
  obtain ⟨settings, cls, middle, opened, valid, read⟩ := parseMethod_cases fresh answers
  have extended := contextSignature_extends noted opened
  have quiet := Session.quiet_methodRead valid (cls.map Registered.id) text
  have linked := Session.linksOf_methodRead (extended.fresh noted) (congrArg Prod.fst read)
  rw [read] at quiet linked
  refine ⟨cls, contextSignature_again noted opened quiet.classes_eq, ?_,
    Nat.le_trans extended.issued_le linked.1, linked.2.1, linked.2.2, ?_⟩
  · intro untold
    have nothing : (contextSignature context).outcome (session.noted (.readingMethod text)) =
        (.ok none, session.noted (.readingMethod text)) := contextSignature_untold untold
    cases nothing.symm.trans opened
    rfl
  · unfold Session.methodRead at read
    split at read
    · cases read
      rfl
    · cases read

end SessionM

/-- The type variables of a parsed method are linked to it and to the signature of its class, those
of a parsed class to it alone, and those of a parsed type to nothing.  As many are linked as occur
in the tree, and no parse fails because a link was set before.  The contexts of a method are the
classes of the session (`ClassInfo`). -/
theorem back_links_of_parsed {session : Session} (fresh : session.Fresh) (text : String) :
    (∀ context,
      (∀ sig after, (SessionM.parseMethod text context).Answers session sig after →
        ∃ cls, (SessionM.contextSignature context).Answers after cls after ∧
          ((∀ id ∈ context, (session.known id).text = none) → cls = none) ∧
          session.issued ≤ sig.id.serial ∧ sig.id.serial < after.issued ∧
          after.LinksOf sig.id sig.tree.typeVars.length ⟨some sig.id, cls.map Registered.id⟩ ∧
          after.log.head? = some (.linked sig.tree.typeVars.length sig.tree.display)) ∧
      ∀ error after, ¬ (SessionM.parseMethod text context).Fails session (.scope error) after) ∧
    (∀ sig after, (SessionM.parseClass text).Answers session sig after →
      session.issued ≤ sig.id.serial ∧ sig.id.serial < after.issued ∧
        after.LinksOf sig.id sig.tree.typeVars.length ⟨none, some sig.id⟩) ∧
    (∀ error after, ¬ (SessionM.parseClass text).Fails session (.scope error) after) ∧
    (∀ sig after, (SessionM.parseType text).Answers session sig after →
      ∀ index, after.links.get ⟨sig.id, index⟩ = .unset) ∧
    ∀ error after, ¬ (SessionM.parseType text).Fails session (.scope error) after := by
  refine ⟨fun context => ⟨fun sig after => ?_, ?_⟩, fun sig after => ?_, ?_,
    fun sig after => ?_, ?_⟩
  · exact SessionM.parseMethod_linked fresh
  · exact SessionM.linksFreely_parseMethod text context fresh
  · exact SessionM.parseClass_linked fresh
  · exact SessionM.linksFreely_parseClass text fresh
  · exact SessionM.parseType_unlinked fresh
  · exact SessionM.linksFreely_parseType text fresh

theorem back_links_of_parsed_in_class :
    let box : Session := { Session.start .empty with classes := #[⟨"Box", some "LA;", none⟩] }
    ∃ sig after cls, (SessionM.parseMethod "(TE;)V" (some ⟨0⟩)).Answers box sig after ∧
      (SessionM.contextSignature (some ⟨0⟩)).Answers after cls after ∧
      after.LinksOf sig.id 1 ⟨some sig.id, cls.map Registered.id⟩ := by
  intro box
  have fresh : box.Fresh := (Session.fresh_start .empty).congr rfl rfl
  have valid : box.inForce = .valid .standard := rfl
  have name (text : String) (valid : IsIdentifier text) : DerivesIdentifier text.toList text :=
    .mk valid
  have class_ : DerivesClass "LA;".toList ⟨[], .classRef "A" [] [] [], []⟩ :=
    .mk (.mk .absent nofun) (.mk (name "A" (by decide)) .nil .absent .nil) .nil
  have reads : box.ContextReads .standard (some ⟨0⟩) := by
    rintro _ ⟨⟩ _ ⟨⟩ _ ⟨⟩ _
    obtain ⟨names, parsed⟩ := decides_classOnly.parse_eq_ok.mpr class_
    exact ⟨_, parsed⟩
  have element : DerivesType "TE;".toList (.typeVar "E") :=
    .reference (.typeVar (.mk (name "E" (by decide))))
  have method : DerivesMethod "(TE;)V".toList ⟨[], [.typeVar "E"], .base .void, []⟩ :=
    .mk (.mk .absent nofun) (.cons element .nil) (.primitive (by decide)) .nil
  have short : "(TE;)V".length ≤ Settings.standard.maxLength := by decide
  obtain ⟨id, after, answers⟩ := ((exact_parseMethod fresh valid short reads).returns_iff _).mpr
    method
  obtain ⟨cls, again, _, _, _, linked, _⟩ :=
    ((back_links_of_parsed fresh "(TE;)V").1 (some ⟨0⟩)).1 _ after answers
  exact ⟨_, after, cls, answers, again, linked⟩

end GenericSignature
