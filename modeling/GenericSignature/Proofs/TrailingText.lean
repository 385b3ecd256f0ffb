import GenericSignature.Proofs.Parsers

/-!
# Text after a signature

A signature says itself where it ends.  Whatever is written after it, the parser reads the signature
to its end and finds the fault there, at the first character that is too much.

1. `typeOnly_extra`, `methodOnly_extra`, `classOnly_extra`: the readers, each with the one character
   that a signature may go on with.  A type may go on with nothing, a method with one more thrown
   type, a class with one more interface.
2. `extra_text_refused`: the parsers of a session, with the words of the error and its place.
-/

namespace GenericSignature

open Grammar

/-! ## Readers -/

namespace Grammar

variable {text rest : List Char} {next : Char}

theorem typeOnly_extra {tree : TypeSig} (derives : DerivesType text tree) :
    (Reader.sized typeOnly).Faults (text ++ next :: rest) .extraAfterType (next :: rest) := by
  have short : text.length ≤ (text ++ next :: rest).length := by
    rw [List.length_append]
    exact Nat.le_add_right ..
  have reads := typeSig_covers (text ++ next :: rest).length (next :: rest) derives short
  rw [Reader.faults_sized]
  unfold typeOnly
  rw [Reader.faults_bind]
  refine .inr ⟨tree, next :: rest, Production.reads_require.mpr reads, ?_⟩
  exact Reader.faults_bind.mpr (.inl (Reader.faults_refuse.mpr ⟨rfl, rfl, rfl⟩))

theorem methodOnly_extra {sig : MethodSig} (derives : DerivesMethod text sig)
    (other : next ≠ '^') :
    (Reader.sized methodOnly).Faults (text ++ next :: rest) .extraAfterDescriptor
      (next :: rest) := by
  have short : text.length ≤ (text ++ next :: rest).length := by
    rw [List.length_append]
    exact Nat.le_add_right ..
  have stops : (next :: rest).head? ≠ some '^' := fun same => other (Option.some.inj same)
  have reads := methodParts_reads derives short stops
  rw [Reader.faults_sized, methodOnly_eq, Reader.faults_bind]
  refine .inr ⟨sig, next :: rest, reads, ?_⟩
  exact Reader.faults_bind.mpr (.inl (Reader.faults_refuse.mpr ⟨rfl, rfl, rfl⟩))

theorem classOnly_extra {sig : ClassSig} (derives : DerivesClass text sig) (other : next ≠ 'L') :
    (Reader.sized classOnly).Faults (text ++ next :: rest) .extraAfterDescriptor
      (next :: rest) := by
  obtain @⟨tparamsText, superText, ifacesText, tparams, super, ifaces, tparamsOk, superOk,
    ifacesOk⟩ := derives
  rw [Reader.faults_sized]
  generalize size : (tparamsText ++ superText ++ ifacesText ++ next :: rest).length = depth
  simp only [List.length_append, List.length_cons] at size
  have covers := outerClassRef_covers depth
  have starts := superOk.starts.append (ifacesText ++ next :: rest)
  have passes : classRef (reference depth) next = .pass := if_neg other
  unfold classOnly
  simp only [Reader.faults_bind, List.append_assoc]
  exact .inr ⟨tparams, _, typeParams_reads tparamsOk (by omega) (starts.head_ne (by decide)), .inr
    ⟨super, ifacesText ++ next :: rest, Production.reads_require.mpr (covers _ superOk (by omega)),
      .inl (Reader.toEnd_faults covers ifacesOk (by omega) passes)⟩⟩

end Grammar

/-! ## Parsers -/

namespace SessionM

variable {α : Type}

/-- The parser complains, in the given words, about what comes after the text and where it
starts. -/
def RefusesAfter (parser : SessionM (Registered α)) (session : Session) (text extra : String)
    (message : String) : Prop :=
  ∃ error, parser.Refuses session error ∧ error.message = message ∧ error.text = text ++ extra ∧
    error.position = text.length

theorem refusesAfter_of_faults {readers : Nat → Reader α} {parser : SessionM (Registered α)}
    {session after : Session} {id : SigId} {limit : Nat} {text extra : String} (fault : Fault)
    (nonempty : extra ≠ "") (short : (text ++ extra).length ≤ limit)
    (given : parser.outcome session =
      (answerOf id (parseWithin limit (Reader.sized readers) (text ++ extra)), after))
    (faults : ∀ next rest, extra.toList = next :: rest →
      (Reader.sized readers).Faults (text.toList ++ next :: rest) fault (next :: rest)) :
    parser.RefusesAfter session text extra fault.message := by
  obtain ⟨next, rest, split⟩ : ∃ next rest, extra.toList = next :: rest := by
    refine List.exists_cons_of_ne_nil fun empty => nonempty ?_
    exact String.toList_inj.mp empty
  have whole := faults next rest split
  rw [← split, ← String.toList_append] at whole
  have failed := Reader.parse_of_faults whole
  rw [← parseWithin_of_le short] at failed
  refine ⟨_, (refuses_iff_read given).mpr failed, rfl, rfl, ?_⟩
  show ((text ++ extra).toList.length : Int) - extra.toList.length = text.length
  rw [String.toList_append, List.length_append, String.length_toList]
  omega

end SessionM

/-- A signature that is read on its own is refused with any text after it, where that text starts;
unless a method goes on with one more thrown type, or a class with one more interface. -/
theorem extra_text_refused {session : Session} {settings : Settings} {text extra : String}
    (fresh : session.Fresh) (valid : session.inForce = .valid settings) (nonempty : extra ≠ "")
    (short : (text ++ extra).length ≤ settings.maxLength) :
    (∀ earlier tree, (SessionM.parseType text).Returns earlier tree →
      (SessionM.parseType (text ++ extra)).RefusesAfter session text extra
        "Extra characters at end of type signature") ∧
    (∀ earlier context' tree, (SessionM.parseMethod text context').Returns earlier tree →
      extra.toList.head? ≠ some '^' → ∀ context, session.ContextReads settings context →
        (SessionM.parseMethod (text ++ extra) context).RefusesAfter session text extra
          "Extra characters at end of type descriptor") ∧
    (∀ earlier tree, (SessionM.parseClass text).Returns earlier tree →
      extra.toList.head? ≠ some 'L' →
      (SessionM.parseClass (text ++ extra)).RefusesAfter session text extra
        "Extra characters at end of type descriptor") := by
  refine ⟨?_, ?_, ?_⟩
  · rintro earlier tree ⟨id, after, answers⟩
    obtain ⟨limit, names, read⟩ := SessionM.read_of_parseType answers
    obtain ⟨later, given⟩ := SessionM.outcome_parseType valid (text ++ extra)
    refine SessionM.refusesAfter_of_faults .extraAfterType nonempty short given ?_
    exact fun _ _ _ => typeOnly_extra (decides_typeOnly.derives read)
  · rintro earlier context' tree ⟨id, after, answers⟩ other context reads
    obtain ⟨limit, names, read⟩ := SessionM.read_of_parseMethod answers
    obtain ⟨id', later, given⟩ := SessionM.outcome_parseMethod fresh valid reads (text ++ extra)
    refine SessionM.refusesAfter_of_faults .extraAfterDescriptor nonempty short given ?_
    intro next rest split
    rw [split] at other
    exact methodOnly_extra (decides_methodOnly.derives read) fun same => other (congrArg _ same)
  · rintro earlier tree ⟨id, after, answers⟩ other
    obtain ⟨limit, names, read⟩ := SessionM.read_of_parseClass answers
    obtain ⟨later, given⟩ := answer_of_parseClass fresh valid (text ++ extra)
    refine SessionM.refusesAfter_of_faults .extraAfterDescriptor nonempty short given ?_
    intro next rest split
    rw [split] at other
    exact classOnly_extra (decides_classOnly.derives read) fun same => other (congrArg _ same)

theorem extra_text_refused_after_void :
    (SessionM.parseMethod ("()V" ++ "V^") none).RefusesAfter (Session.start .empty) "()V" "V^"
      "Extra characters at end of type descriptor" := by
  have fresh := Session.fresh_start .empty
  have alone : (Session.start .empty).ContextReads .standard none := nofun
  have short : ("()V" ++ "V^").length ≤ Settings.standard.maxLength := by decide
  have shorter : "()V".length ≤ Settings.standard.maxLength := by decide
  have exact := exact_parseMethod fresh inForce_start shorter alone
  have void := (exact.returns_iff ⟨[], [], .base .void, []⟩).mpr
    (.mk (.mk .absent nofun) .nil (.primitive (by decide)) .nil)
  have refused := (extra_text_refused fresh inForce_start (by decide) short).2.1
  exact refused _ none _ void (by decide) none alone

end GenericSignature
