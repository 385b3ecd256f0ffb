import GenericSignature.Proofs.DeclarationReaders
import GenericSignature.Proofs.Sessions

/-!
# The parsers

The three parsers of a session against the three languages.

1. Each parser answers exactly the tree that the text derives, and a grammar error where the text
   derives none; no text derives two trees (`parsers_exact`).
2. An error stands at the first character that no signature can have in its place, or at the end
   of the text if a signature can go on there (`refusals_at_first_fault`).

Both hold in every session that calls can lead to, for every text within the limit that is in
force, and for methods in the context of every class whose own signature can be read.
-/

namespace GenericSignature

open Grammar

variable {α : Type}

/-! ## Whole texts -/

namespace Grammar

variable {reader : Reader α} {text : String}

theorem Reader.parse_of_reads {value : α} {rest : List Char}
    (reads : reader.Reads text.toList value rest) :
    ∃ names, reader.parse text = .ok (value, names) := by
  unfold Reader.parse
  simp only [reads.1]
  exact ⟨_, rfl⟩

theorem Reader.parse_of_faults {fault : Fault} {rest : List Char}
    (faults : reader.Faults text.toList fault rest) :
    reader.parse text = .error ⟨fault, text, text.toList.length - rest.length⟩ := by
  unfold Reader.parse
  simp only [faults.1, faults.2]

theorem Decides.parse_eq_ok {readers : Nat → Reader α} {L : Language α}
    (decides : Decides readers L) {value : α} :
    (∃ names, (Reader.sized readers).parse text = .ok (value, names)) ↔ L text.toList value := by
  constructor
  · rintro ⟨names, parsed⟩
    rcases (Reader.sized readers).reads_or_faults text.toList with ⟨other, rest, reads⟩ | faults
    · obtain ⟨names', parsed'⟩ := Reader.parse_of_reads reads
      cases parsed.symm.trans parsed'
      exact (decides.reads_iff.mp reads).1
    · obtain ⟨fault, rest, faults⟩ := faults
      cases parsed.symm.trans (Reader.parse_of_faults faults)
  · intro member
    exact Reader.parse_of_reads (decides.reads_iff.mpr ⟨member, rfl⟩)

theorem Decides.parse_eq_error {readers : Nat → Reader α} {L : Language α}
    (decides : Decides readers L) :
    (∃ error, (Reader.sized readers).parse text = .error error) ↔
      ∀ value, ¬ L text.toList value := by
  rw [← decides.faults_iff]
  constructor
  · rintro ⟨error, failed⟩
    rcases (Reader.sized readers).reads_or_faults text.toList with ⟨value, rest, reads⟩ | faults
    · obtain ⟨names, parsed⟩ := Reader.parse_of_reads reads
      cases failed.symm.trans parsed
    · exact faults
  · rintro ⟨fault, rest, faults⟩
    exact ⟨_, Reader.parse_of_faults faults⟩

/-- An error that points at the first fault of a text: what stands before it begins some text of the
language, what stands before it together with the character there begins none, and it points at
the end of the text exactly if the text is the beginning of a longer one. -/
structure AtFirstFault (L : Language α) (text : String) (error : GrammarError) : Prop where
  text_eq : error.text = text
  nonneg : 0 ≤ error.position
  le_length : error.position ≤ text.length
  viable : ∃ more value, L (text.toList.take error.position.toNat ++ more) value
  closed : error.position < text.length → ∀ more value,
    ¬ L (text.toList.take (error.position.toNat + 1) ++ more) value
  at_end_iff : error.position = text.length ↔
    ∃ more value, more ≠ [] ∧ L (text.toList ++ more) value

theorem Decides.atFirstFault {readers : Nat → Reader α} {L : Language α}
    (decides : Decides readers L) {error : GrammarError}
    (failed : (Reader.sized readers).parse text = .error error) : AtFirstFault L text error := by
  obtain ⟨fault, rest, faults⟩ : ∃ fault rest,
      (Reader.sized readers).Faults text.toList fault rest :=
    decides.faults_iff.mpr (decides.parse_eq_error.mp ⟨error, failed⟩)
  obtain rfl := Except.error.inj (failed.symm.trans (Reader.parse_of_faults faults))
  obtain ⟨read, more, value, split, member⟩ := decides.viable faults
  have length : text.length = read.length + rest.length := by
    rw [← String.length_toList, split, List.length_append]
  have position : ((text.toList.length : Int) - rest.length) = (read.length : Int) := by
    rw [split, List.length_append]
    omega
  have outside : ∀ value, ¬ L text.toList value := decides.faults_iff.mp ⟨fault, rest, faults⟩
  rw [position]
  have taken : text.toList.take read.length = read := by
    rw [split, List.take_left]
  refine ⟨rfl, Int.natCast_nonneg _, ?_, ⟨more, value, ?_⟩, ?_, ?_⟩
  · show (read.length : Int) ≤ text.length
    rw [length]
    omega
  · show L (text.toList.take read.length ++ more) value
    rwa [taken]
  · show (read.length : Int) < text.length → ∀ more value,
      ¬ L (text.toList.take (read.length + 1) ++ more) value
    intro inside more' value'
    rcases rest with _ | ⟨c, rest⟩
    · rw [List.length_nil] at length
      omega
    · -- the reader saw no more than this character of what follows
      have next : text.toList.take (read.length + 1) = read ++ [c] := by
        rw [split, List.take_length_add_append]
        rfl
      rw [next, List.append_assoc]
      exact decides.closed (split ▸ faults)
  · show (read.length : Int) = text.length ↔ _
    constructor
    · intro atEnd
      obtain rfl : rest = [] := List.length_eq_zero_iff.mp (by omega)
      rw [List.append_nil] at split
      refine ⟨more, value, ?_, split ▸ member⟩
      -- the text itself is outside of the language, so what completes it is not empty
      rintro rfl
      rw [List.append_nil, ← split] at member
      exact outside value member
    · rintro ⟨more', value', _, longer⟩
      rcases rest with _ | ⟨c, rest⟩
      · rw [List.length_nil] at length
        omega
      · rw [split, List.append_assoc] at longer
        exact absurd longer (decides.closed (split ▸ faults))

end Grammar

theorem parseWithin_of_le {reader : Reader α} {limit : Nat} {text : String}
    (short : text.length ≤ limit) : parseWithin limit reader text = reader.parse text :=
  if_pos short

/-- A text that was read under any limit is one of the language. -/
theorem Grammar.Decides.derives {readers : Nat → Reader α} {L : Language α} {limit : Nat}
    {text : String} {tree : α} {names : List String} (decides : Decides readers L)
    (parsed : parseWithin limit (Reader.sized readers) text = .ok (tree, names)) :
    L text.toList tree := by
  unfold parseWithin at parsed
  split at parsed
  · exact decides.parse_eq_ok.mp ⟨names, parsed⟩
  · cases parsed

/-! ## What a parser makes of a text -/

namespace SessionM

/-- The parser answers the tree, under some identity. -/
def Returns (parser : SessionM (Registered α)) (session : Session) (tree : α) : Prop :=
  ∃ id after, parser.Answers session ⟨id, tree⟩ after

/-- The parser fails with the grammar error. -/
def Refuses (parser : SessionM (Registered α)) (session : Session) (error : GrammarError) : Prop :=
  ∃ after, parser.Fails session (.grammar error) after

/-- In the session, the parser answers the trees of a kind and no others.  There is one at most,
and if there is none, the parser fails with a grammar error. -/
structure Exact (parser : SessionM (Registered α)) (session : Session) (Derived : α → Prop) :
    Prop where
  returns_iff : ∀ tree, parser.Returns session tree ↔ Derived tree
  refuses_iff : (∃ error, parser.Refuses session error) ↔ ∀ tree, ¬ Derived tree
  unique : ∀ tree tree', Derived tree → Derived tree' → tree = tree'

variable {parser : SessionM (Registered α)} {session after : Session} {id : SigId}
  {read : Except GrammarError (α × List String)}

theorem returns_iff_read (given : parser.outcome session = (answerOf id read, after)) {tree : α} :
    parser.Returns session tree ↔ ∃ names, read = .ok (tree, names) := by
  unfold Returns Answers
  rw [given]
  rcases read with error | ⟨tree', names⟩
  · simp [answerOf]
  · simp [answerOf]

theorem refuses_iff_read (given : parser.outcome session = (answerOf id read, after))
    {error : GrammarError} : parser.Refuses session error ↔ read = .error error := by
  unfold Refuses Fails
  rw [given]
  rcases read with error | ⟨tree', names⟩
  · simp [answerOf]
  · simp [answerOf]

end SessionM

namespace Grammar

variable {readers : Nat → Reader α} {L : Language α} {parser : SessionM (Registered α)}
  {session after : Session} {id : SigId} {limit : Nat} {text : String}

theorem Decides.exact (decides : Decides readers L) (short : text.length ≤ limit)
    (given : parser.outcome session =
      (SessionM.answerOf id (parseWithin limit (Reader.sized readers) text), after)) :
    parser.Exact session (L text.toList) := by
  rw [parseWithin_of_le short] at given
  refine ⟨fun tree => ?_, ?_, fun _ _ => decides.unambiguous⟩
  · rw [SessionM.returns_iff_read given, decides.parse_eq_ok]
  · simp only [SessionM.refuses_iff_read given]
    exact decides.parse_eq_error

theorem Decides.refusal_atFirstFault (decides : Decides readers L) (short : text.length ≤ limit)
    (given : parser.outcome session =
      (SessionM.answerOf id (parseWithin limit (Reader.sized readers) text), after))
    {error : GrammarError} (refuses : parser.Refuses session error) :
    AtFirstFault L text error := by
  rw [parseWithin_of_le short] at given
  exact decides.atFirstFault ((SessionM.refuses_iff_read given).mp refuses)

end Grammar

/-! ## The parsers of a session -/

section InSession

variable {session : Session} {settings : Settings} {text : String}

theorem inForce_start : (Session.start .empty).inForce = .valid .standard := rfl

theorem answer_of_parseClass (fresh : session.Fresh) (valid : session.inForce = .valid settings)
    (text : String) : ∃ after, (SessionM.parseClass text).outcome session =
      (SessionM.answerOf ⟨session.issued⟩ (ClassSig.parse settings.maxLength text), after) := by
  rw [SessionM.outcome_parseClass fresh valid]
  cases ClassSig.parse settings.maxLength text with
  | error error => exact ⟨_, rfl⟩
  | ok read => exact ⟨_, rfl⟩

theorem exact_parseType (valid : session.inForce = .valid settings)
    (short : text.length ≤ settings.maxLength) :
    (SessionM.parseType text).Exact session (DerivesType text.toList) := by
  obtain ⟨after, given⟩ := SessionM.outcome_parseType valid text
  exact decides_typeOnly.exact short given

theorem exact_parseMethod (fresh : session.Fresh) (valid : session.inForce = .valid settings)
    (short : text.length ≤ settings.maxLength) {context : Option ClassId}
    (reads : session.ContextReads settings context) :
    (SessionM.parseMethod text context).Exact session (DerivesMethod text.toList) := by
  obtain ⟨id, after, given⟩ := SessionM.outcome_parseMethod fresh valid reads text
  exact decides_methodOnly.exact short given

theorem exact_parseClass (fresh : session.Fresh) (valid : session.inForce = .valid settings)
    (short : text.length ≤ settings.maxLength) :
    (SessionM.parseClass text).Exact session (DerivesClass text.toList) := by
  obtain ⟨after, given⟩ := answer_of_parseClass fresh valid text
  exact decides_classOnly.exact short given

/-- Each parser answers the one tree that the text derives, or else a grammar error.  The context of
a method is a class of the session (`ClassInfo`) or none. -/
theorem parsers_exact (fresh : session.Fresh) (valid : session.inForce = .valid settings)
    (short : text.length ≤ settings.maxLength) :
    (SessionM.parseType text).Exact session (DerivesType text.toList) ∧
    (∀ context, session.ContextReads settings context →
      (SessionM.parseMethod text context).Exact session (DerivesMethod text.toList)) ∧
    (SessionM.parseClass text).Exact session (DerivesClass text.toList) :=
  ⟨exact_parseType valid short, fun _ reads => exact_parseMethod fresh valid short reads,
    exact_parseClass fresh valid short⟩

theorem parsers_exact_at_start :
    (SessionM.parseMethod "([I)V" none).Returns (Session.start .empty)
      ⟨[], [.array 1 (.base .int)], .base .void, []⟩ := by
  have short : "([I)V".length ≤ Settings.standard.maxLength := by decide
  have exact := (parsers_exact (Session.fresh_start .empty) inForce_start short).2.1 none nofun
  have int : DerivesType ['I'] (.base .int) := .primitive (by decide)
  have void : DerivesType ['V'] (.base .void) := .primitive (by decide)
  have param : DerivesType ['[', 'I'] (.array 1 (.base .int)) :=
    .reference (.array (Nat.succ_pos 0) int (by decide))
  exact (exact.returns_iff _).mpr (.mk (.mk .absent nofun) (.cons param .nil) void .nil)

/-- Whatever error a parser answers, it points at the first fault of the text.  The context of a
method is a class of the session or none. -/
theorem refusals_at_first_fault (fresh : session.Fresh)
    (valid : session.inForce = .valid settings) (short : text.length ≤ settings.maxLength)
    (error : GrammarError) :
    ((SessionM.parseType text).Refuses session error → AtFirstFault DerivesType text error) ∧
    (∀ context, session.ContextReads settings context →
      (SessionM.parseMethod text context).Refuses session error →
        AtFirstFault DerivesMethod text error) ∧
    ((SessionM.parseClass text).Refuses session error → AtFirstFault DerivesClass text error) := by
  refine ⟨fun refuses => ?_, fun context reads refuses => ?_, fun refuses => ?_⟩
  · obtain ⟨after, given⟩ := SessionM.outcome_parseType valid text
    exact decides_typeOnly.refusal_atFirstFault short given refuses
  · obtain ⟨id, after, given⟩ := SessionM.outcome_parseMethod fresh valid reads text
    exact decides_methodOnly.refusal_atFirstFault short given refuses
  · obtain ⟨after, given⟩ := answer_of_parseClass fresh valid text
    exact decides_classOnly.refusal_atFirstFault short given refuses

theorem refusals_at_first_fault_at_start :
    (SessionM.parseType "[").Refuses (Session.start .empty) ⟨.missingElementType, "[", 1⟩ ∧
      AtFirstFault DerivesType "[" ⟨.missingElementType, "[", 1⟩ := by
  have refuses : (SessionM.parseType "[").Refuses (Session.start .empty)
      ⟨.missingElementType, "[", 1⟩ := ⟨_, rfl⟩
  exact ⟨refuses, (refusals_at_first_fault (Session.fresh_start .empty) inForce_start (by decide)
    _).1 refuses⟩

end InSession

end GenericSignature
