import GenericSignature.Proofs.Parsers
import GenericSignature.Signature.Contents

/-!
# What is recorded while reading

A reader notes the names of type variables on the side, while the tree comes out at the end.  The
two agree: the names that are noted on the way to a tree are the type variables of the tree, each
occurrence once and in the order of the text (`names_of_parseMethod`, `names_of_parseClass`).

`Reader.Notes` carries the names along a sequence of readers: it speaks of the names noted before a
reader and by it together, so that the last step of a sequence can compare them with the tree.
-/

namespace GenericSignature.Grammar

variable {α β : Type}

/-! ## Readers -/

namespace Reader

/-- Whatever value the reader reads, the names noted before it and by it are those of the value. -/
def Notes (before : List String) (reader : Reader α) (names : α → List String) : Prop :=
  ∀ ⦃text rest : List Char⦄ ⦃value : α⦄ ⦃seen : List String⦄,
    reader.run text = ⟨.ok value, rest, seen⟩ → before ++ seen = names value

variable {before : List String} {reader : Reader α} {names : α → List String}

/-- The names that were noted before a reader come first. -/
theorem Notes.after (notes : Notes [] reader names) (before : List String) :
    Notes before reader fun value => before ++ names value :=
  fun _ _ _ _ run => congrArg (before ++ ·) (notes run)

theorem Notes.bind {next : α → Reader β} {names' : β → List String}
    (first : Notes before reader names) (go : ∀ value, Notes (names value) (next value) names') :
    Notes before (reader >>= next) names' := by
  intro text rest value seen run
  rcases reply : reader.run text with ⟨fault | middle, between, early⟩
  · rw [run_bind_error reply] at run
    cases run
  · rw [run_bind_ok reply, Reply.mk.injEq] at run
    obtain ⟨result, _, rfl⟩ := run
    have late : (next middle).run between =
        ⟨.ok value, ((next middle).run between).rest, ((next middle).run between).names⟩ := by
      rw [← result]
    rw [← List.append_assoc, first reply, go middle late]

theorem notes_pure {value : α} (all : names value = before) : Notes before (pure value) names := by
  intro text rest found seen run
  cases run
  rw [List.append_nil, all]

theorem notes_fail (fault : Fault) : Notes before (fail fault) names :=
  fun _ _ _ _ run => nomatch run

theorem notes_record (name : String) : Notes [] (record name) fun _ => [name] := by
  intro text rest found seen run
  cases run
  rfl

theorem notes_of_silent (silent : ∀ text, (reader.run text).names = []) :
    Notes before reader fun _ => before := by
  intro text rest value seen run
  have none := silent text
  rw [run] at none
  rw [show seen = [] from none, List.append_nil]

theorem notes_expect (literal : Char) : Notes before (expect literal) fun _ => before := by
  refine notes_of_silent fun text => ?_
  rcases text with _ | ⟨c, rest⟩
  · rfl
  · by_cases same : c = literal <;> simp [expect, same]

theorem notes_takeWhile (accepts : Char → Bool) :
    Notes before (takeWhile accepts) fun _ => before :=
  notes_of_silent fun _ => rfl

theorem notes_demand (accepts : Char → Bool) (fault : Fault) :
    Notes before (demand accepts fault) fun _ => before := by
  refine notes_of_silent fun text => ?_
  by_cases next : text.head?.any accepts = true <;> simp [demand, next]

theorem notes_refuse (rejects : Char → Bool) (fault : Fault) :
    Notes before (refuse rejects fault) fun _ => before := by
  refine notes_of_silent fun text => ?_
  by_cases next : text.head?.any rejects = true <;> simp [refuse, next]

theorem notes_identifier : Notes before identifier fun _ => before :=
  (notes_demand ..).bind fun _ => (notes_takeWhile _).bind fun _ => notes_pure rfl

/-- A loop notes the names of its items, one item after the other. -/
theorem notes_many {step : Char → Step α} {ended : Option Fault}
    (items : ∀ {c body}, step c = .item body → Notes [] body names) :
    Notes [] (many step ended) fun values => values.flatMap names := by
  intro text rest values seen run
  induction size : text.length using Nat.strongRecOn generalizing text rest values seen with
  | _ _ ih =>
  subst size
  rcases text with _ | ⟨c, tail⟩
  · rw [run_many_nil] at run
    cases ended <;> cases run
    rfl
  · cases chosen : step c with
    | stop =>
        rw [run_many_stop chosen] at run
        cases run
        rfl
    | close =>
        rw [run_many_close chosen] at run
        cases run
        rfl
    | fail fault =>
        rw [run_many_fail chosen] at run
        cases run
    | item body =>
        rw [run_many_item chosen] at run
        rcases reply : body.run tail with ⟨fault | value, between, early⟩
        · rw [run_bind_error reply] at run
          cases run
        · have shorter : between.length ≤ tail.length := by
            simpa [reply] using body.length_rest_le tail
          rw [run_bind_ok reply] at run
          rcases loop : (many step ended).run between with ⟨fault | values, left, late⟩
          · rw [run_bind_error loop] at run
            cases run
          · rw [run_bind_ok loop] at run
            cases run
            have first : early = names value := items chosen reply
            have further : late = values.flatMap names :=
              ih between.length (Nat.lt_succ_of_le shorter) loop rfl
            show early ++ (late ++ []) = (value :: values).flatMap names
            rw [List.append_nil, List.flatMap_cons, first, further]

theorem Notes.marked (notes : Notes [] reader names) (mark : Char) :
    Notes [] (marked mark reader) fun values => values.flatMap names := by
  refine notes_many ?_
  intro c body chosen
  split at chosen
  · cases chosen
    exact notes
  · cases chosen

end Reader

/-! ## Productions -/

namespace Production

/-- Whatever value the production reads, the names that it notes are those of the value. -/
def Notes (production : Production α) (names : α → List String) : Prop :=
  ∀ ⦃c : Char⦄ ⦃body : Reader α⦄, production c = .commit body → Reader.Notes [] body names

variable {production : Production α} {names : α → List String}

theorem Notes.attempt (notes : production.Notes names) :
    Reader.Notes [] production.attempt fun found => (found.map names).getD [] := by
  intro text rest found seen run
  rcases text with _ | ⟨c, tail⟩
  · cases run
    rfl
  · cases chosen : production c with
    | pass =>
        rw [run_attempt_pass chosen] at run
        cases run
        rfl
    | refuse fault =>
        rw [run_attempt_refuse chosen] at run
        cases run
    | commit body =>
        have wrapped : Reader.Notes [] (some <$> body) fun found =>
            (found.map names).getD [] :=
          (notes chosen).bind fun value => Reader.notes_pure rfl
        rw [run_attempt_commit chosen] at run
        exact wrapped run

theorem Notes.require (notes : production.Notes names) (missing : Fault) :
    Reader.Notes [] (production.require missing) names := by
  refine notes.attempt.bind ?_
  rintro (_ | value)
  · exact Reader.notes_fail missing
  · exact Reader.notes_pure rfl

theorem notes_starting {body : Reader α} (notes : Reader.Notes [] body names) (literal : Char) :
    (starting literal body).Notes names := by
  intro c other committed
  unfold starting at committed
  split at committed
  · cases committed
    exact notes
  · cases committed

theorem Notes.orElse {second : Production α} (notes : production.Notes names)
    (notes' : second.Notes names) : (production.orElse second).Notes names := by
  intro c body committed
  unfold Production.orElse at committed
  split at committed
  · exact notes' committed
  · exact notes committed

theorem Notes.map {f : α → β} {names' : β → List String} (notes : production.Notes names)
    (same : ∀ value, names' (f value) = names value) : (production.map f).Notes names' := by
  intro c body committed
  unfold Production.map Choice.map at committed
  split at committed
  · cases committed
  · cases committed
  · next given chosen =>
      cases committed
      exact (notes chosen).bind fun value => Reader.notes_pure (same value)

/-- The names of a list up to a closing character are those of its items. -/
theorem Notes.closedBy (notes : production.Notes names) (close : Char) (missing unclosed : Fault) :
    Reader.Notes [] (Reader.closedBy close production missing unclosed)
      fun values => values.flatMap names := by
  refine Reader.notes_many ?_
  intro c body chosen
  split at chosen
  · cases chosen
  · exact notes (Choice.orFail_eq_item.mp chosen)

theorem Notes.toEnd (notes : production.Notes names) (extra : Fault) :
    Reader.Notes [] (Reader.toEnd production extra) fun values => values.flatMap names :=
  Reader.notes_many fun chosen => notes (Choice.orFail_eq_item.mp chosen)

theorem Notes.bracketList (notes : production.Notes names) (unclosed missing empty : Fault) :
    (Grammar.bracketList production unclosed missing empty).Notes
      fun values => values.flatMap names :=
  notes_starting ((Reader.notes_refuse ..).bind fun _ => notes.closedBy '>' missing unclosed) '<'

theorem Notes.attemptList {production : Production (List α)}
    (notes : production.Notes fun values => values.flatMap names) :
    Reader.Notes [] production.attemptList fun values => values.flatMap names := by
  refine notes.attempt.bind ?_
  rintro (_ | values)
  · exact Reader.notes_pure rfl
  · exact Reader.notes_pure rfl

end Production

/-! ## Types -/

theorem argsTypeVars_eq (args : List TypeArg) :
    argsTypeVars args = args.flatMap TypeArg.typeVars := by
  induction args with
  | nil => simp [argsTypeVars]
  | cons arg args ih => simp [argsTypeVars, ih]

theorem argListsTypeVars_eq (lists : List (List TypeArg)) :
    argListsTypeVars lists = lists.flatMap fun args => args.flatMap TypeArg.typeVars := by
  induction lists with
  | nil => simp [argListsTypeVars]
  | cons args lists ih => simp [argListsTypeVars, argsTypeVars_eq, ih]

theorem notes_baseType : baseType.Notes TypeSig.typeVars := by
  intro c body committed
  unfold baseType at committed
  split at committed
  · cases committed
  · cases committed
    exact Reader.notes_pure (by simp [TypeSig.typeVars])

theorem notes_typeVar : typeVar.Notes TypeSig.typeVars :=
  Production.notes_starting (Reader.notes_identifier.bind fun name =>
    (Reader.notes_expect ';').bind fun _ => (Reader.notes_record name).bind fun _ =>
      Reader.notes_pure (by simp [TypeSig.typeVars])) 'T'

section Nested

variable {nested : Production TypeSig}

theorem notes_typeArg (notes : nested.Notes TypeSig.typeVars) :
    (typeArg nested).Notes TypeArg.typeVars := by
  have bounded : ∀ wildcard, Reader.Notes []
      (do return TypeArg.mk wildcard (some (← nested.require .missingWildcardBound)))
      TypeArg.typeVars := fun wildcard =>
    (notes.require _).bind fun type => Reader.notes_pure (by simp [TypeArg.typeVars])
  refine .orElse ?_ (.orElse ?_ (.orElse ?_ (notes.map ?_)))
  · exact Production.notes_starting (Reader.notes_pure (by simp [TypeArg.typeVars])) '*'
  · exact Production.notes_starting (bounded .upper) '+'
  · exact Production.notes_starting (bounded .lower) '-'
  · intro type
    simp [TypeArg.typeVars]

theorem notes_typeArgs (notes : nested.Notes TypeSig.typeVars) :
    Reader.Notes [] (typeArgs nested).attemptList fun args => args.flatMap TypeArg.typeVars :=
  ((notes_typeArg notes).bracketList ..).attemptList

theorem notes_classRef (notes : nested.Notes TypeSig.typeVars) :
    (classRef nested).Notes TypeSig.typeVars := by
  have args := notes_typeArgs notes
  have part : Reader.Notes [] identifier fun _ => [] := Reader.notes_identifier
  have suffix : Reader.Notes []
      (do
        let name ← identifier
        let args ← (typeArgs nested).attemptList
        return (name, args))
      fun suffix => suffix.2.flatMap TypeArg.typeVars :=
    part.bind fun _ => args.bind fun _ => Reader.notes_pure rfl
  refine Production.notes_starting (part.bind fun outer => (part.marked '/').bind fun parts =>
    (args.after _).bind fun args => ((suffix.marked '.').after _).bind fun suffixes =>
      (Reader.notes_expect ';').bind fun _ => Reader.notes_pure ?_) 'L'
  simp [TypeSig.typeVars, argsTypeVars_eq, argListsTypeVars_eq, List.flatMap_map]

theorem notes_arrayType (notes : nested.Notes TypeSig.typeVars) :
    (arrayType nested).Notes TypeSig.typeVars :=
  Production.notes_starting ((Reader.notes_takeWhile _).bind fun more =>
    ((notes_baseType.orElse notes).require .missingElementType).bind fun elem =>
      Reader.notes_pure (by simp [TypeSig.typeVars])) '['

end Nested

theorem notes_reference (depth : Nat) : (reference depth).Notes TypeSig.typeVars := by
  induction depth with
  | zero => exact nofun
  | succ depth ih => exact ((notes_classRef ih).orElse notes_typeVar).orElse (notes_arrayType ih)

theorem notes_typeSig (depth : Nat) : (typeSig depth).Notes TypeSig.typeVars :=
  notes_baseType.orElse (notes_reference depth)

/-! ## Declarations -/

theorem notes_typeParam (depth : Nat) : (typeParam depth).Notes TypeParam.typeVars := by
  intro c body committed
  obtain ⟨_, rfl⟩ := typeParam_eq_commit.mp committed
  have references := notes_reference depth
  have ifaces := (references.require .missingInterfaceBound).marked ':'
  refine (Reader.notes_takeWhile _).bind fun more =>
    (Reader.notes_expect ':').bind fun _ => references.attempt.bind fun bound => ?_
  have finish : Reader.Notes ((bound.map TypeSig.typeVars).getD [])
      (do
        let ifaces ← Reader.marked ':' ((reference depth).require .missingInterfaceBound)
        return TypeParam.mk (String.ofList (c :: more)) bound ifaces)
      TypeParam.typeVars :=
    (ifaces.after _).bind fun _ => Reader.notes_pure rfl
  cases bound with
  | none => exact (Reader.notes_demand ..).bind fun _ => finish
  | some bound => exact finish

theorem notes_typeParams (depth : Nat) :
    Reader.Notes [] (typeParams depth).attemptList fun params =>
      params.flatMap TypeParam.typeVars :=
  ((notes_typeParam depth).bracketList ..).attemptList

theorem notes_methodOnly (depth : Nat) : Reader.Notes [] (methodOnly depth) MethodSig.typeVars := by
  have types := notes_typeSig depth
  have params := types.closedBy ')' .missingParameterType .unclosedParameters
  have thrown := (notes_classRef (notes_reference depth)).orElse notes_typeVar
  have throws := (thrown.require .missingThrownType).marked '^'
  exact (notes_typeParams depth).bind fun _ => (Reader.notes_expect '(').bind fun _ =>
    (params.after _).bind fun _ => ((types.require .missingResultType).after _).bind fun _ =>
      (throws.after _).bind fun _ => (Reader.notes_refuse ..).bind fun _ =>
        Reader.notes_pure rfl

theorem notes_classOnly (depth : Nat) : Reader.Notes [] (classOnly depth) ClassSig.typeVars := by
  have classes := notes_classRef (notes_reference depth)
  exact (notes_typeParams depth).bind fun _ => ((classes.require .missingSuperclass).after _).bind
    fun _ => ((classes.toEnd .extraAfterDescriptor).after _).bind fun _ => Reader.notes_pure rfl

end GenericSignature.Grammar

/-! ## Whole texts -/

namespace GenericSignature

open Grammar

/-- The names answered with a value are those that the reader noted. -/
theorem Grammar.Reader.Notes.of_parseWithin {α : Type} {readers : Nat → Reader α}
    {names : α → List String} (notes : ∀ depth, Reader.Notes [] (readers depth) names)
    {limit : Nat} {text : String} {value : α} {seen : List String}
    (parsed : parseWithin limit (Reader.sized readers) text = .ok (value, seen)) :
    seen = names value := by
  unfold parseWithin at parsed
  split at parsed
  · unfold Reader.parse at parsed
    rcases reply : (Reader.sized readers).run text.toList with ⟨fault | found, rest, noted⟩
    · simp [reply] at parsed
    · simp only [reply, Except.ok.injEq, Prod.mk.injEq] at parsed
      obtain ⟨rfl, rfl⟩ := parsed
      exact notes text.toList.length reply
  · cases parsed

variable {limit : Nat} {text : String} {names : List String}

theorem names_of_parseMethod {tree : MethodSig}
    (parsed : MethodSig.parse limit text = .ok (tree, names)) : names = tree.typeVars :=
  Reader.Notes.of_parseWithin notes_methodOnly parsed

theorem names_of_parseClass {tree : ClassSig}
    (parsed : ClassSig.parse limit text = .ok (tree, names)) : names = tree.typeVars :=
  Reader.Notes.of_parseWithin notes_classOnly parsed

end GenericSignature
