import GenericSignature.Grammar.Declarations
import GenericSignature.Proofs.Deciding
import GenericSignature.Proofs.TypeReaders

/-!
# The readers of declarations

The three readers of whole texts decide the three languages (`decides_typeOnly`,
`decides_methodOnly`, `decides_classOnly`).

Type parameters need the most care.  Nothing closes a parameter: it ends where the next one starts,
or at the bracket that closes the list.  A parameter with a bound is followed by either, but after
one without bounds only the bracket can stand, because a name there is taken for a class bound.  So
the reader finds the end of every parameter exactly if the unbounded ones stand last
(`typeParam_lookahead`, `typeParam_coversBefore`).
-/

namespace GenericSignature.Grammar

/-! ## Type parameters -/

theorem reference_passes {text : List Char} (starts : Starts [':', '>'] text) (depth : Nat) :
    (reference depth).Passes text := by
  cases depth with
  | zero => exact fun _ _ => rfl
  | succ depth =>
      unfold reference classRef typeVar arrayType
      simp only [Production.passes_orElse, Production.passes_starting]
      exact ⟨⟨starts.head_ne (by decide), starts.head_ne (by decide)⟩, starts.head_ne (by decide)⟩

/-- What the reader of a type parameter does after the class bound. -/
def boundsAfter (depth : Nat) (name : String) (bound : Option TypeSig) : Reader TypeParam := do
  if bound.isNone then
    Reader.demand (fun next => next == ':' || next == '>') .missingClassBound
  let ifaces ← Reader.marked ':' ((reference depth).require .missingInterfaceBound)
  return ⟨name, bound, ifaces⟩

/-- What the reader of a type parameter does after the first character of the name. -/
def paramAfter (depth : Nat) (c : Char) : Reader TypeParam := do
  let more ← Reader.takeWhile isNameChar
  Reader.expect ':'
  let bound ← (reference depth).attempt
  boundsAfter depth (String.ofList (c :: more)) bound

theorem typeParam_eq_commit {depth : Nat} {c : Char} {body : Reader TypeParam} :
    typeParam depth c = .commit body ↔ isNameChar c = true ∧ body = paramAfter depth c := by
  unfold typeParam isNameChar
  by_cases passes : c = ':' ∨ c = '>'
  · rw [if_pos passes]
    rcases passes with rfl | rfl <;> simp [isTerminator]
  · rw [if_neg passes]
    cases valid : isTerminator c with
    | true => simp
    | false =>
        simp only [Bool.false_eq_true, if_false, Choice.commit.injEq, Bool.not_false, true_and]
        exact eq_comm

theorem isIdentifier_cons {c : Char} {more : List Char} (first : isNameChar c = true)
    (all : ∀ d ∈ more, isNameChar d = true) : IsIdentifier (String.ofList (c :: more)) := by
  rw [isIdentifier_iff, String.toList_ofList]
  exact ⟨List.cons_ne_nil _ _, List.forall_mem_cons.mpr ⟨first, all⟩⟩

theorem typeParam_reads_iff {depth : Nat} {text rest : List Char} {param : TypeParam} :
    (typeParam depth).Reads text param rest ↔
      ∃ name bound between left, text = name.toList ++ ':' :: between ∧ IsIdentifier name ∧
        (reference depth).attempt.Reads between bound left ∧
        (boundsAfter depth name bound).Reads left param rest := by
  constructor
  · rintro ⟨c, tail, body, rfl, committed, reads⟩
    obtain ⟨first, rfl⟩ := typeParam_eq_commit.mp committed
    unfold paramAfter at reads
    simp only [Reader.reads_bind, Reader.reads_takeWhile, Reader.reads_expect] at reads
    obtain ⟨more, _, ⟨rfl, all, _⟩, _, between, rfl, bound, left, attempted, reads⟩ := reads
    refine ⟨String.ofList (c :: more), bound, between, left, ?_, ?_, attempted, reads⟩
    · rw [String.toList_ofList]
      rfl
    · exact isIdentifier_cons first all
  · rintro ⟨name, bound, between, left, rfl, valid, attempted, reads⟩
    obtain ⟨some, all⟩ := isIdentifier_iff.mp valid
    obtain ⟨c, more, split⟩ := List.exists_cons_of_ne_nil some
    rw [split] at all ⊢
    refine ⟨c, more ++ ':' :: between, _, rfl,
      typeParam_eq_commit.mpr ⟨all c List.mem_cons_self, rfl⟩, ?_⟩
    unfold paramAfter
    simp only [Reader.reads_bind]
    refine ⟨more, _, Reader.reads_takeWhile.mpr ⟨rfl, ?_, rfl⟩, (), between,
      Reader.reads_expect.mpr rfl, bound, left, attempted, ?_⟩
    · exact fun d member => all d (List.mem_cons_of_mem c member)
    · rwa [← split, String.ofList_toList]

/-- The bounds of a type parameter after the class bound. -/
abbrev Bounds (name : String) (bound : Option TypeSig) : Language TypeParam :=
  Joined (Repeats (Marked ':' DerivesReference)) fun ifaces => Done ⟨name, bound, ifaces⟩

theorem follows_boundsAfter (depth : Nat) (name : String) (bound : Option TypeSig) :
    (boundsAfter depth name bound).Follows (Bounds name bound) := by
  have ifaces := ((follows_reference depth).require .missingInterfaceBound).marked ':'
  have finish := ifaces.bind fun ifaces => Reader.follows_pure (TypeParam.mk name bound ifaces)
  cases bound with
  | none =>
      refine ((Reader.follows_demand _ _).bind fun _ => finish).mono ?_
      rintro _ _ ⟨_, _, _, rfl, ⟨rfl, _⟩, derives⟩
      exact derives
  | some _ => exact finish

theorem follows_typeParam (depth : Nat) : (typeParam depth).Follows DerivesParam where
  inhabited := ⟨_, ⟨"a", none, []⟩, .mk (.mk (by decide)) .absent .nil⟩
  commits {c body} committed := by
    obtain ⟨first, rfl⟩ := typeParam_eq_commit.mp committed
    unfold paramAfter
    refine ((Reader.follows_takeWhile isNameChar).bind fun more =>
      (Reader.follows_expect ':').bind fun _ => (follows_reference depth).attempt.bind fun bound =>
        follows_boundsAfter depth (String.ofList (c :: more)) bound).mono ?_
    rintro _ _ ⟨_, _, more, rfl, ⟨rfl, all⟩, _, _, _, rfl, rfl, boundText, _, bound, rfl, hbound,
      ifacesText, _, ifaces, rfl, hifaces, rfl, rfl⟩
    have derives := DerivesParam.mk (.mk (isIdentifier_cons first all)) hbound hifaces
    simpa using derives

theorem boundsAfter_reads_iff {depth : Nat} {name : String} {bound : Option TypeSig}
    {text rest : List Char} {param : TypeParam} :
    (boundsAfter depth name bound).Reads text param rest ↔
      ∃ ifaces, (bound = none → Starts [':', '>'] text) ∧
        (Reader.marked ':' ((reference depth).require .missingInterfaceBound)).Reads text ifaces
          rest ∧ param = ⟨name, bound, ifaces⟩ := by
  have next : ∀ text : List Char,
      text.head?.any (fun next => next == ':' || next == '>') = true ↔ Starts [':', '>'] text := by
    intro text
    cases head : text.head? <;> simp [Starts, head]
  unfold boundsAfter
  cases bound with
  | none =>
      simp only [Option.isNone_none, if_true, Reader.reads_bind, Reader.reads_demand, next,
        Reader.reads_pure]
      constructor
      · rintro ⟨_, _, ⟨starts, rfl⟩, ifaces, _, loop, rfl, rfl⟩
        exact ⟨ifaces, fun _ => starts, loop, rfl⟩
      · rintro ⟨ifaces, starts, loop, rfl⟩
        exact ⟨(), text, ⟨starts trivial, rfl⟩, ifaces, rest, loop, rfl, rfl⟩
  | some bound =>
      simp only [Option.isNone_some, Bool.false_eq_true, if_false, Reader.reads_bind,
        Reader.reads_pure]
      constructor
      · rintro ⟨ifaces, _, loop, rfl, rfl⟩
        refine ⟨ifaces, ?_, loop, rfl⟩
        intro absent
        cases absent
      · rintro ⟨ifaces, _, loop, rfl⟩
        exact ⟨ifaces, rest, loop, rfl, rfl⟩

/-- A loop over marked items that reads none stands in front of no mark. -/
theorem Reader.marked_reads_none {α : Type} {mark : Char} {item : Reader α} {text rest : List Char}
    (reads : (marked mark item).Reads text [] rest) : rest = text ∧ text.head? ≠ some mark := by
  unfold Reads marked at reads
  rcases text with _ | ⟨c, tail⟩
  · rw [run_many_nil] at reads
    exact ⟨reads.2.symm, nofun⟩
  · by_cases same : c = mark
    · rw [run_many_item (if_pos same)] at reads
      obtain ⟨value, _, _, reads⟩ := reads_bind.mp reads
      obtain ⟨values, _, _, reads⟩ := reads_bind.mp reads
      exact absurd (reads_pure.mp reads).1.symm (List.cons_ne_nil _ _)
    · rw [run_many_stop (if_neg same)] at reads
      exact ⟨reads.2.symm, by simpa using same⟩

/-- A type parameter without bounds is read only where its list closes. -/
theorem typeParam_lookahead {depth : Nat} {text rest : List Char} {param : TypeParam}
    (reads : (typeParam depth).Reads text param rest) :
    IsBounded param ∨ rest.head? = some '>' := by
  obtain ⟨name, bound, _, left, _, _, _, reads⟩ := typeParam_reads_iff.mp reads
  obtain ⟨ifaces, starts, loop, rfl⟩ := boundsAfter_reads_iff.mp reads
  rcases bound with _ | bound
  · rcases ifaces with _ | ⟨iface, ifaces⟩
    · obtain ⟨rfl, other⟩ := Reader.marked_reads_none loop
      obtain ⟨c, member, head⟩ := starts rfl
      rw [head] at other ⊢
      exact .inr (by simp_all)
    · exact .inl (.inr (List.cons_ne_nil _ _))
  · exact .inl (.inl nofun)

theorem DerivesParam.starts {text : List Char} {param : TypeParam}
    (derives : DerivesParam text param) : ∃ c tail, text = c :: tail ∧ isNameChar c = true := by
  obtain ⟨⟨valid⟩, _, _⟩ := derives
  obtain ⟨some, all⟩ := isIdentifier_iff.mp valid
  obtain ⟨c, more, split⟩ := List.exists_cons_of_ne_nil some
  rw [split] at all ⊢
  exact ⟨c, _, rfl, all c List.mem_cons_self⟩

theorem DerivesParam.head_ne {text : List Char} {param : TypeParam}
    (derives : DerivesParam text param) (rest : List Char) {c : Char}
    (terminator : isNameChar c = false) : (text ++ rest).head? ≠ some c := by
  obtain ⟨d, tail, rfl, valid⟩ := derives.starts
  rintro ⟨⟩
  exact Bool.noConfusion (valid.symm.trans terminator)

theorem typeParam_coversBefore (depth : Nat) :
    (typeParam depth).CoversBefore depth '>' DerivesParam IsBounded where
  starts derives := by
    obtain ⟨c, tail, rfl, valid⟩ := derives.starts
    refine ⟨List.cons_ne_nil _ _, ?_⟩
    rintro ⟨⟩
    cases valid
  reads {_ _ rest} derives short follow := by
    obtain @⟨_, boundText, ifacesText, name, bound, ifaces, ⟨valid⟩, boundOk, ifacesOk⟩ := derives
    simp only [List.length_append, List.length_cons] at short
    -- what follows is not one more interface
    have stops : rest.head? ≠ some ':' := by
      rcases follow with closes | ⟨_, next, param, rest, rfl, derives⟩
      · rw [closes]
        decide
      · exact derives.head_ne rest rfl
    have loop : (Reader.marked ':' ((reference depth).require .missingInterfaceBound)).Reads
        (ifacesText ++ rest) ifaces rest :=
      Reader.marked_reads (fun _ => True) (n := depth)
        (fun derives short _ => Production.reads_require.mpr
          (reference_covers depth _ derives short))
        (fun _ => trivial) ifacesOk (by omega) trivial stops
    -- without a class bound, a colon of an interface comes next, or the end of the list
    have starts : bound = none → Starts [':', '>'] (ifacesText ++ rest) := by
      rintro rfl
      cases ifacesOk with
      | nil =>
          have closes := follow.resolve_right fun more => by simp [IsBounded] at more
          exact ⟨'>', by decide, closes⟩
      | cons first _ => exact ((first.starts.append _).append rest).mono (by decide)
    refine typeParam_reads_iff.mpr ⟨name, bound, boundText ++ (ifacesText ++ rest),
      ifacesText ++ rest, by simp, valid, ?_, boundsAfter_reads_iff.mpr ⟨ifaces, starts, loop, rfl⟩⟩
    cases boundOk with
    | absent => exact Production.reads_attempt_none.mpr ⟨reference_passes (starts rfl) depth, rfl⟩
    | present derives =>
        exact Production.reads_attempt_some.mpr (reference_covers depth _ derives (by omega))

theorem alike_boundsAfter {m n : Nat} (name : String) (bound : Option TypeSig) :
    Reader.Alike m n (boundsAfter m name bound) (boundsAfter n name bound) := by
  have ifaces := ((alike_reference m n).require .missingInterfaceBound).marked ':'
  have finish := ifaces.bind fun ifaces => Reader.alike_pure (TypeParam.mk name bound ifaces)
  cases bound with
  | none => exact (Reader.alike_demand ..).bind fun _ => finish
  | some _ => exact finish

theorem alike_typeParam (m n : Nat) : Production.Alike m n (typeParam m) (typeParam n) := by
  intro c _ _
  unfold typeParam
  split
  · exact .pass
  · split
    · exact .refuse _
    · refine .commit (Reader.Alike.mono (m := m) (n := n) ?_ (Nat.sub_le m 1) (Nat.sub_le n 1))
      exact (Reader.alike_takeWhile _).bind fun more => (Reader.alike_expect ':').bind fun _ =>
        (alike_reference m n).attempt.bind fun bound => alike_boundsAfter _ bound

theorem follows_paramList (depth : Nat) :
    (typeParams depth).Follows (Enclosed DerivesParam IsBounded) :=
  follows_bracketList _ .unclosedTypeParameters .missingTypeParameter .emptyTypeParameters
    (follows_typeParam depth) typeParam_lookahead

theorem follows_typeParams (depth : Nat) :
    (typeParams depth).attemptList.Follows DerivesParams := by
  refine (follows_paramList depth).attemptList (.mk .absent fun _ member => nomatch member) ?_
  rintro _ _ ⟨items, rfl, repeats, some, opens⟩
  exact .mk (.listed repeats some) opens

theorem typeParams_reads {depth : Nat} {text rest : List Char} {params : List TypeParam}
    (derives : DerivesParams text params) (short : text.length ≤ depth)
    (stops : rest.head? ≠ some '<') :
    (typeParams depth).attemptList.Reads (text ++ rest) params rest := by
  obtain ⟨bracketed, opens⟩ := derives
  exact attemptList_reads (typeParam_coversBefore depth) bracketed opens short stops

theorem alike_typeParams (m n : Nat) :
    Reader.Alike m n (typeParams m).attemptList (typeParams n).attemptList :=
  (alike_bracketList (alike_typeParam m n)).attemptList

/-! ## Types -/

theorem Reader.reads_noMore {fault : Fault} {text rest : List Char} {value : Unit} :
    (refuse (fun _ => true) fault).Reads text value rest ↔ text = [] ∧ rest = [] := by
  rw [reads_refuse]
  rcases text with _ | ⟨c, tail⟩ <;> simp

theorem decides_typeOnly : Decides typeOnly DerivesType where
  follows depth := by
    refine (((follows_typeSig depth).require .missingType).bind fun type =>
      (Reader.follows_refuse _ .extraAfterType).bind fun _ => Reader.follows_pure type).mono ?_
    rintro _ _ ⟨text, _, type, rfl, derives, _, _, _, rfl, ⟨rfl, _⟩, rfl, rfl⟩
    rwa [List.append_nil, List.append_nil]
  accepts {text tree} derives := by
    have reads := typeSig_covers text.length [] derives (Nat.le_refl _)
    rw [List.append_nil] at reads
    unfold typeOnly
    simp only [Reader.reads_bind]
    exact ⟨tree, [], Production.reads_require.mpr reads, (), [],
      Reader.reads_noMore.mpr ⟨rfl, rfl⟩, Reader.reads_pure.mpr ⟨rfl, rfl⟩⟩
  exhausts {depth text tree rest} reads := by
    unfold typeOnly at reads
    simp only [Reader.reads_bind, Reader.reads_noMore, Reader.reads_pure] at reads
    obtain ⟨_, _, _, _, _, ⟨_, rfl⟩, _, rfl⟩ := reads
    rfl
  alike m n := ((alike_typeSig m n).require _).bind fun _ => (Reader.alike_refuse ..).bind fun _ =>
    Reader.alike_pure _

/-! ## Methods -/

theorem outerClassRef_covers (depth : Nat) :
    (classRef (reference depth)).Covers depth DerivesClassRef := fun _ _ rest derives short =>
  classRef_covers (reference_covers depth) rest derives (Nat.le_succ_of_le short)

theorem alike_outerClassRef (m n : Nat) :
    Production.Alike m n (classRef (reference m)) (classRef (reference n)) :=
  (alike_classRef (alike_reference m n)).mono (Nat.le_succ m) (Nat.le_succ n)

theorem follows_thrownType (depth : Nat) : (thrownType depth).Follows DerivesThrown := by
  have classes := follows_classRef (follows_reference depth)
  exact (classes.mono .classRef).orElse (follows_typeVar.mono .typeVar)

theorem thrownType_covers (depth : Nat) : (thrownType depth).Covers depth DerivesThrown := by
  intro text tree rest derives short
  unfold thrownType
  rw [Production.reads_orElse]
  cases derives with
  | classRef derives => exact .inl (outerClassRef_covers depth rest derives short)
  | typeVar derives =>
      have starts := derives.starts.append rest
      exact .inr ⟨Production.passes_starting.mpr (starts.head_ne (by decide)),
        typeVar_covers depth rest derives short⟩

theorem alike_thrownType (m n : Nat) : Production.Alike m n (thrownType m) (thrownType n) :=
  (alike_outerClassRef m n).orElse alike_typeVar

/-- What the reader of a method does before it looks for the end of the text. -/
def methodParts (depth : Nat) : Reader MethodSig := do
  let tparams ← (typeParams depth).attemptList
  Reader.expect '('
  let params ← Reader.closedBy ')' (typeSig depth) .missingParameterType .unclosedParameters
  let result ← (typeSig depth).require .missingResultType
  let throws ← Reader.marked '^' ((thrownType depth).require .missingThrownType)
  return ⟨tparams, params, result, throws⟩

theorem methodOnly_eq (depth : Nat) :
    methodOnly depth = do
      let sig ← methodParts depth
      Reader.refuse (fun _ => true) .extraAfterDescriptor
      return sig := by
  unfold methodOnly methodParts
  simp only [bind_assoc, pure_bind]
  rfl

/-- A method is read whatever comes after it, unless that is one more thrown type. -/
theorem methodParts_reads {depth : Nat} {text rest : List Char} {sig : MethodSig}
    (derives : DerivesMethod text sig) (short : text.length ≤ depth)
    (stops : rest.head? ≠ some '^') : (methodParts depth).Reads (text ++ rest) sig rest := by
  obtain @⟨tparamsText, paramsText, resultText, throwsText, tparams, params, result, throws,
    tparamsOk, paramsOk, resultOk, throwsOk⟩ := derives
  simp only [List.length_append, List.length_cons] at short
  -- no type starts with the parenthesis that closes the list
  have reads_params : (Reader.closedBy ')' (typeSig depth) .missingParameterType
      .unclosedParameters).Reads (paramsText ++ ')' :: (resultText ++ (throwsText ++ rest))) params
      (resultText ++ (throwsText ++ rest)) := by
    refine Reader.closedBy_reads ((typeSig_covers depth).before fun derives => ?_) paramsOk
      (fun _ _ => trivial) (by omega)
    exact derives.starts.nonempty_and_head_ne (by decide)
  have reads_throws : (Reader.marked '^' ((thrownType depth).require .missingThrownType)).Reads
      (throwsText ++ rest) throws rest :=
    Reader.marked_reads (fun _ => True) (n := depth)
      (fun derives short _ => Production.reads_require.mpr
        (thrownType_covers depth _ derives short))
      (fun _ => trivial) throwsOk (by omega) trivial stops
  unfold methodParts
  simp only [Reader.reads_bind, List.append_assoc, List.cons_append]
  exact ⟨tparams, _, typeParams_reads tparamsOk (by omega) (by simp), (), _,
    Reader.reads_expect.mpr rfl, params, _, reads_params, result, throwsText ++ rest,
    Production.reads_require.mpr (typeSig_covers depth _ resultOk (by omega)), throws, rest,
    reads_throws, Reader.reads_pure.mpr ⟨rfl, rfl⟩⟩

theorem decides_methodOnly : Decides methodOnly DerivesMethod where
  follows depth := by
    have types := follows_typeSig depth
    have throws := ((follows_thrownType depth).require .missingThrownType).marked '^'
    refine ((follows_typeParams depth).bind fun tparams => (Reader.follows_expect '(').bind fun _ =>
      (Reader.follows_closedBy types ')' .missingParameterType .unclosedParameters).bind
        fun params => (types.require .missingResultType).bind fun result => throws.bind
          fun throws => (Reader.follows_refuse _ .extraAfterDescriptor).bind fun _ =>
            Reader.follows_pure (MethodSig.mk tparams params result throws)).mono ?_
    rintro _ _ ⟨tparamsText, _, tparams, rfl, tparamsOk, _, _, _, rfl, rfl, _, _, params, rfl,
      ⟨paramsText, _, _, rfl, paramsOk, rfl, rfl⟩, resultText, _, result, rfl, resultOk,
      throwsText, _, throws, rfl, throwsOk, _, _, _, rfl, ⟨rfl, _⟩, rfl, rfl⟩
    have derives := DerivesMethod.mk tparamsOk paramsOk resultOk throwsOk
    simpa using derives
  accepts {text sig} derives := by
    have reads : (methodParts text.length).Reads (text ++ []) sig [] :=
      methodParts_reads derives (Nat.le_refl _) nofun
    rw [List.append_nil] at reads
    rw [methodOnly_eq]
    simp only [Reader.reads_bind]
    exact ⟨sig, [], reads, (), [], Reader.reads_noMore.mpr ⟨rfl, rfl⟩,
      Reader.reads_pure.mpr ⟨rfl, rfl⟩⟩
  exhausts {depth text sig rest} reads := by
    rw [methodOnly_eq] at reads
    simp only [Reader.reads_bind, Reader.reads_noMore, Reader.reads_pure] at reads
    obtain ⟨_, _, _, _, _, ⟨_, rfl⟩, _, rfl⟩ := reads
    rfl
  alike m n := by
    have types := alike_typeSig m n
    refine (alike_typeParams m n).bind fun _ => (Reader.alike_expect '(').bind fun _ =>
      (Reader.alike_closedBy ')' .missingParameterType .unclosedParameters types).bind fun _ =>
        (types.require .missingResultType).bind fun _ =>
          (((alike_thrownType m n).require .missingThrownType).marked '^').bind fun _ =>
            (Reader.alike_refuse ..).bind fun _ => Reader.alike_pure _

/-! ## Classes -/

theorem Reader.toEnd_exhausts {α : Type} {item : Production α} {extra : Fault}
    {text rest : List Char} {values : List α} (reads : (toEnd item extra).Reads text values rest) :
    rest = [] := by
  induction size : text.length using Nat.strongRecOn generalizing text values with
  | _ _ ih =>
  subst size
  unfold Reads toEnd at reads
  rcases text with _ | ⟨c, tail⟩
  · rw [run_many_nil] at reads
    exact reads.2.symm
  · cases chosen : (item c).orFail extra with
    | stop => exact absurd chosen Choice.orFail_ne_stop
    | close => exact absurd chosen Choice.orFail_ne_close
    | fail fault =>
        rw [run_many_fail chosen] at reads
        cases reads.1
    | item body =>
        rw [run_many_item chosen] at reads
        obtain ⟨value, between, first, more⟩ := reads_bind.mp reads
        obtain ⟨_, left, more, finish⟩ := reads_bind.mp more
        obtain ⟨_, rfl⟩ := reads_pure.mp finish
        exact ih between.length (Nat.lt_succ_of_le first.suffix.length_le) more rfl

theorem decides_classOnly : Decides classOnly DerivesClass where
  follows depth := by
    have classes := follows_classRef (follows_reference depth)
    refine ((follows_typeParams depth).bind fun tparams =>
      (classes.require .missingSuperclass).bind fun super =>
        (Reader.follows_toEnd classes .extraAfterDescriptor).bind fun ifaces =>
          Reader.follows_pure (ClassSig.mk tparams super ifaces)).mono ?_
    rintro _ _ ⟨tparamsText, _, tparams, rfl, tparamsOk, superText, _, super, rfl, superOk,
      ifacesText, _, ifaces, rfl, ifacesOk, rfl, rfl⟩
    have derives := DerivesClass.mk tparamsOk superOk ifacesOk
    simpa using derives
  accepts := by
    rintro _ _ @⟨tparamsText, superText, ifacesText, tparams, super, ifaces, tparamsOk, superOk,
      ifacesOk⟩
    generalize size : (tparamsText ++ superText ++ ifacesText).length = depth
    simp only [List.length_append] at size
    have covers := outerClassRef_covers depth
    unfold classOnly
    simp only [Reader.reads_bind, List.append_assoc]
    have starts := superOk.starts.append ifacesText
    exact ⟨tparams, _, typeParams_reads tparamsOk (by omega) (starts.head_ne (by decide)), super,
      ifacesText, Production.reads_require.mpr (covers _ superOk (by omega)), ifaces, [],
      Reader.toEnd_reads covers ifacesOk (by omega), Reader.reads_pure.mpr ⟨rfl, rfl⟩⟩
  exhausts {depth text sig rest} reads := by
    unfold classOnly at reads
    simp only [Reader.reads_bind, Reader.reads_pure] at reads
    obtain ⟨_, _, _, _, _, _, _, _, loop, _, rfl⟩ := reads
    exact Reader.toEnd_exhausts loop
  alike m n := by
    have classes := alike_outerClassRef m n
    exact (alike_typeParams m n).bind fun _ => (classes.require .missingSuperclass).bind fun _ =>
      (Reader.alike_toEnd .extraAfterDescriptor classes).bind fun _ => Reader.alike_pure _

end GenericSignature.Grammar
