import GenericSignature.Proofs.DeclarationReaders
import GenericSignature.Proofs.Parsers

/-!
# What the readers complain of

A fault can have words of its own or name a character that was expected, so its wording could be
anything.  The readers of the grammar use neither freely: the characters that they expect are three
marks, and all other faults have fixed words (`Fault.IsOwn`).  This is kept by every operation of
readers and holds of every production, hence of every error of a parser
(`own_of_parseMethod`, `own_of_parseClass`).
-/

namespace GenericSignature

/-- A fault of the grammar itself: a mark of the grammar is missing, or the words are fixed. -/
def Fault.IsOwn : Fault → Prop
  | .expected literal _ => literal ∈ ["(", ":", ";"]
  | .other _ => False
  | _ => True

namespace Grammar

variable {α β : Type}

/-! ## Readers -/

namespace Reader

/-- All faults that the reader finds are faults of the grammar. -/
def OwnFaults (reader : Reader α) : Prop :=
  ∀ ⦃text rest : List Char⦄ ⦃fault : Fault⦄, reader.Faults text fault rest → fault.IsOwn

variable {reader : Reader α}

theorem ownFaults_pure (value : α) : (pure value : Reader α).OwnFaults :=
  fun _ _ _ faults => absurd faults faults_pure

theorem OwnFaults.bind {next : α → Reader β} (first : reader.OwnFaults)
    (go : ∀ value, (next value).OwnFaults) : (reader >>= next).OwnFaults := by
  intro text rest fault faults
  rcases faults_bind.mp faults with early | ⟨value, between, _, late⟩
  · exact first early
  · exact go value late

theorem ownFaults_record (name : String) : (record name).OwnFaults :=
  fun _ _ _ faults => absurd faults faults_record

theorem ownFaults_expect {literal : Char} (mark : String.singleton literal ∈ ["(", ":", ";"]) :
    (expect literal).OwnFaults := by
  intro text rest fault faults
  obtain ⟨rfl, _⟩ := faults_expect.mp faults
  exact mark

theorem ownFaults_takeWhile (accepts : Char → Bool) : (takeWhile accepts).OwnFaults :=
  fun _ _ _ faults => absurd faults faults_takeWhile

theorem ownFaults_demand (accepts : Char → Bool) (fault : Fault) (own : fault.IsOwn) :
    (demand accepts fault).OwnFaults := by
  intro text rest other faults
  obtain ⟨_, rfl, _⟩ := faults_demand.mp faults
  exact own

theorem ownFaults_refuse (rejects : Char → Bool) (fault : Fault) (own : fault.IsOwn) :
    (refuse rejects fault).OwnFaults := by
  intro text rest other faults
  obtain ⟨_, rfl, _⟩ := faults_refuse.mp faults
  exact own

theorem ownFaults_identifier : identifier.OwnFaults :=
  (ownFaults_demand _ .expectedIdentifier trivial).bind fun _ =>
    (ownFaults_takeWhile _).bind fun _ => ownFaults_pure _

/-- A loop finds the faults of its items, of its steps and of its end. -/
theorem ownFaults_many {step : Char → Step α} {ended : Option Fault}
    (items : ∀ {c body}, step c = .item body → body.OwnFaults)
    (fails : ∀ {c fault}, step c = .fail fault → fault.IsOwn)
    (last : ∀ fault ∈ ended, fault.IsOwn) : (many step ended).OwnFaults := by
  intro text rest fault faults
  induction size : text.length using Nat.strongRecOn generalizing text with
  | _ _ ih =>
  subst size
  unfold Faults at faults
  rcases text with _ | ⟨c, tail⟩
  · rw [run_many_nil] at faults
    cases ended with
    | none => cases faults.1
    | some given =>
        cases faults.1
        exact last _ rfl
  · cases chosen : step c with
    | stop =>
        rw [run_many_stop chosen] at faults
        cases faults.1
    | close =>
        rw [run_many_close chosen] at faults
        cases faults.1
    | fail other =>
        rw [run_many_fail chosen] at faults
        cases faults.1
        exact fails chosen
    | item body =>
        rw [run_many_item chosen] at faults
        rcases faults_bind.mp faults with inItem | ⟨value, between, first, later⟩
        · exact items chosen inItem
        · have shorter := Nat.lt_succ_of_le first.suffix.length_le
          exact ih between.length shorter ((faults_bind.mp later).resolve_right (by simp)) rfl

theorem OwnFaults.marked (own : reader.OwnFaults) (mark : Char) :
    (marked mark reader).OwnFaults := by
  refine ownFaults_many ?_ ?_ nofun
  · intro c body chosen
    split at chosen
    · cases chosen
      exact own
    · cases chosen
  · intro c fault chosen
    split at chosen <;> cases chosen

end Reader

/-! ## Productions -/

theorem Choice.orFail_eq_fail {choice : Choice α} {missing fault : Fault} :
    choice.orFail missing = .fail fault ↔
      choice = .pass ∧ missing = fault ∨ choice = .refuse fault := by
  cases choice <;> simp [orFail]

namespace Production

/-- All faults that the production finds are faults of the grammar. -/
def OwnFaults (production : Production α) : Prop :=
  ∀ ⦃text rest : List Char⦄ ⦃fault : Fault⦄, production.Faults text fault rest → fault.IsOwn

variable {production : Production α}

theorem OwnFaults.attempt (own : production.OwnFaults) : production.attempt.OwnFaults :=
  fun _ _ _ faults => own (faults_attempt.mp faults)

theorem OwnFaults.require (own : production.OwnFaults) (missing : Fault)
    (ownMissing : missing.IsOwn) : (production.require missing).OwnFaults := by
  intro text rest fault faults
  rcases faults_require.mp faults with inside | ⟨_, rfl, _⟩
  · exact own inside
  · exact ownMissing

theorem ownFaults_starting {body : Reader α} (own : body.OwnFaults) (literal : Char) :
    (starting literal body).OwnFaults := by
  intro text rest fault faults
  obtain ⟨tail, _, inside⟩ := faults_starting.mp faults
  exact own inside

theorem OwnFaults.orElse {second : Production α} (own : production.OwnFaults)
    (own' : second.OwnFaults) : (production.orElse second).OwnFaults := by
  intro text rest fault faults
  rcases faults_orElse.mp faults with first | ⟨_, second⟩
  · exact own first
  · exact own' second

theorem OwnFaults.map (own : production.OwnFaults) (f : α → β) : (production.map f).OwnFaults :=
  fun _ _ _ faults => own (faults_map.mp faults)

/-- The faults of a step of a loop over a production are those of the production. -/
theorem OwnFaults.orFail {c : Char} {missing : Fault} (own : production.OwnFaults)
    (ownMissing : missing.IsOwn) :
    (∀ {body}, (production c).orFail missing = .item body → body.OwnFaults) ∧
      ∀ {fault}, (production c).orFail missing = .fail fault → fault.IsOwn := by
  refine ⟨fun chosen => ?_, fun chosen => ?_⟩
  · have committed := Choice.orFail_eq_item.mp chosen
    exact fun tail rest fault faults => own ⟨c, tail, rfl, .inr ⟨_, committed, faults⟩⟩
  · rcases Choice.orFail_eq_fail.mp chosen with ⟨_, rfl⟩ | refused
    · exact ownMissing
    · exact own ⟨c, [], rfl, .inl ⟨refused, rfl⟩⟩

theorem OwnFaults.closedBy (own : production.OwnFaults) (close : Char) (missing unclosed : Fault)
    (ownMissing : missing.IsOwn) (ownUnclosed : unclosed.IsOwn) :
    (Reader.closedBy close production missing unclosed).OwnFaults := by
  refine Reader.ownFaults_many ?_ ?_ (by rintro _ ⟨⟩; exact ownUnclosed)
  · intro c body chosen
    split at chosen
    · cases chosen
    · exact (own.orFail ownMissing).1 chosen
  · intro c fault chosen
    split at chosen
    · cases chosen
    · exact (own.orFail ownMissing).2 chosen

theorem OwnFaults.toEnd (own : production.OwnFaults) (extra : Fault) (ownExtra : extra.IsOwn) :
    (Reader.toEnd production extra).OwnFaults :=
  Reader.ownFaults_many (own.orFail ownExtra).1 (own.orFail ownExtra).2 nofun

theorem OwnFaults.bracketList (own : production.OwnFaults) (unclosed missing empty : Fault)
    (ownUnclosed : unclosed.IsOwn) (ownMissing : missing.IsOwn) (ownEmpty : empty.IsOwn) :
    (Grammar.bracketList production unclosed missing empty).attemptList.OwnFaults :=
  (ownFaults_starting ((Reader.ownFaults_refuse _ _ ownEmpty).bind fun _ =>
    own.closedBy '>' missing unclosed ownMissing ownUnclosed) '<').attempt.bind fun _ =>
      Reader.ownFaults_pure _

end Production

/-! ## Types -/

theorem ownFaults_baseType : baseType.OwnFaults := by
  rintro text rest fault ⟨c, tail, rfl, ⟨refused, _⟩ | ⟨body, committed, faults⟩⟩
  · unfold baseType at refused
    split at refused <;> cases refused
  · unfold baseType at committed
    split at committed
    · cases committed
    · cases committed
      exact Reader.ownFaults_pure _ faults

theorem ownFaults_typeVar : typeVar.OwnFaults :=
  Production.ownFaults_starting (Reader.ownFaults_identifier.bind fun name =>
    (Reader.ownFaults_expect (by decide)).bind fun _ => (Reader.ownFaults_record name).bind
      fun _ => Reader.ownFaults_pure _) 'T'

section Nested

variable {nested : Production TypeSig}

theorem ownFaults_typeArg (own : nested.OwnFaults) : (typeArg nested).OwnFaults := by
  have bounded : ∀ wildcard, (do
      return TypeArg.mk wildcard (some (← nested.require .missingWildcardBound)) :
        Reader TypeArg).OwnFaults := fun wildcard =>
    (own.require .missingWildcardBound trivial).bind fun type => Reader.ownFaults_pure _
  refine .orElse ?_ (.orElse ?_ (.orElse ?_ (own.map _)))
  · exact Production.ownFaults_starting (Reader.ownFaults_pure _) '*'
  · exact Production.ownFaults_starting (bounded .upper) '+'
  · exact Production.ownFaults_starting (bounded .lower) '-'

theorem ownFaults_typeArgs (own : nested.OwnFaults) : (typeArgs nested).attemptList.OwnFaults :=
  (ownFaults_typeArg own).bracketList _ _ _ trivial trivial trivial

theorem ownFaults_classRef (own : nested.OwnFaults) : (classRef nested).OwnFaults := by
  have name := Reader.ownFaults_identifier
  have args := ownFaults_typeArgs own
  have suffix : (do
      let name ← identifier
      let args ← (typeArgs nested).attemptList
      return (name, args) : Reader (String × List TypeArg)).OwnFaults :=
    name.bind fun _ => args.bind fun _ => Reader.ownFaults_pure _
  exact Production.ownFaults_starting (name.bind fun _ => (name.marked '/').bind fun _ =>
    args.bind fun _ => (suffix.marked '.').bind fun _ =>
      (Reader.ownFaults_expect (by decide)).bind fun _ => Reader.ownFaults_pure _) 'L'

theorem ownFaults_arrayType (own : nested.OwnFaults) : (arrayType nested).OwnFaults :=
  Production.ownFaults_starting ((Reader.ownFaults_takeWhile _).bind fun _ =>
    ((ownFaults_baseType.orElse own).require .missingElementType trivial).bind fun _ =>
      Reader.ownFaults_pure _) '['

end Nested

theorem ownFaults_reference (depth : Nat) : (reference depth).OwnFaults := by
  induction depth with
  | zero =>
      rintro text rest fault ⟨c, tail, rfl, ⟨refused, _⟩ | ⟨body, committed, _⟩⟩
      · cases refused
      · cases committed
  | succ depth ih =>
      exact ((ownFaults_classRef ih).orElse ownFaults_typeVar).orElse (ownFaults_arrayType ih)

theorem ownFaults_typeSig (depth : Nat) : (typeSig depth).OwnFaults :=
  ownFaults_baseType.orElse (ownFaults_reference depth)

/-! ## Declarations -/

theorem ownFaults_paramAfter (depth : Nat) (c : Char) : (paramAfter depth c).OwnFaults := by
  have references := ownFaults_reference depth
  refine (Reader.ownFaults_takeWhile _).bind fun more =>
    (Reader.ownFaults_expect (by decide)).bind fun _ => references.attempt.bind fun bound => ?_
  have finish : (do
      let ifaces ← Reader.marked ':' ((reference depth).require .missingInterfaceBound)
      return ⟨String.ofList (c :: more), bound, ifaces⟩ : Reader TypeParam).OwnFaults :=
    ((references.require .missingInterfaceBound trivial).marked ':').bind fun _ =>
      Reader.ownFaults_pure _
  cases bound with
  | none => exact (Reader.ownFaults_demand _ .missingClassBound trivial).bind fun _ => finish
  | some bound => exact finish

theorem ownFaults_typeParam (depth : Nat) : (typeParam depth).OwnFaults := by
  rintro text rest fault ⟨c, tail, rfl, ⟨refused, _⟩ | ⟨body, committed, faults⟩⟩
  · unfold typeParam at refused
    split at refused
    · cases refused
    · split at refused
      · cases refused
        trivial
      · cases refused
  · obtain ⟨_, rfl⟩ := typeParam_eq_commit.mp committed
    exact ownFaults_paramAfter depth c faults

theorem ownFaults_typeParams (depth : Nat) : (typeParams depth).attemptList.OwnFaults :=
  (ownFaults_typeParam depth).bracketList _ _ _ trivial trivial trivial

theorem ownFaults_methodOnly (depth : Nat) : (methodOnly depth).OwnFaults := by
  have types := ownFaults_typeSig depth
  have thrown := (ownFaults_classRef (ownFaults_reference depth)).orElse ownFaults_typeVar
  have params := types.closedBy ')' .missingParameterType .unclosedParameters trivial trivial
  have result := types.require .missingResultType trivial
  have throws := (thrown.require .missingThrownType trivial).marked '^'
  exact (ownFaults_typeParams depth).bind fun _ =>
    (Reader.ownFaults_expect (by decide)).bind fun _ => params.bind fun _ =>
      result.bind fun _ => throws.bind fun _ =>
        (Reader.ownFaults_refuse _ .extraAfterDescriptor trivial).bind fun _ =>
          Reader.ownFaults_pure _

theorem ownFaults_classOnly (depth : Nat) : (classOnly depth).OwnFaults := by
  have classes := ownFaults_classRef (ownFaults_reference depth)
  have super := classes.require .missingSuperclass trivial
  have ifaces := classes.toEnd .extraAfterDescriptor trivial
  exact (ownFaults_typeParams depth).bind fun _ => super.bind fun _ => ifaces.bind fun _ =>
    Reader.ownFaults_pure _

end Grammar

open Grammar

/-! ## Whole texts -/

variable {limit : Nat} {text : String} {error : GrammarError}

theorem Grammar.Reader.OwnFaults.of_parseWithin {α : Type} {readers : Nat → Reader α}
    (own : ∀ depth, (readers depth).OwnFaults)
    (failed : parseWithin limit (Reader.sized readers) text = .error error) :
    error.fault.IsOwn := by
  unfold parseWithin at failed
  split at failed
  · rcases (Reader.sized readers).reads_or_faults text.toList with
      ⟨value, rest, reads⟩ | ⟨fault, rest, faults⟩
    · obtain ⟨names, parsed⟩ := Reader.parse_of_reads reads
      cases failed.symm.trans parsed
    · cases failed.symm.trans (Reader.parse_of_faults faults)
      exact own _ faults
  · cases failed
    trivial

theorem own_of_parseMethod (failed : MethodSig.parse limit text = .error error) :
    error.fault.IsOwn :=
  Reader.OwnFaults.of_parseWithin ownFaults_methodOnly failed

theorem own_of_parseClass (failed : ClassSig.parse limit text = .error error) :
    error.fault.IsOwn :=
  Reader.OwnFaults.of_parseWithin ownFaults_classOnly failed

end GenericSignature
