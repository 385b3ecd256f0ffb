import GenericSignature.Grammar.Types
import GenericSignature.Proofs.Covering
import GenericSignature.Proofs.Following
import GenericSignature.Proofs.Lookahead

/-!
# The readers of types

Three facts about every reader of the grammar of types:

1. it follows its language (`follows_reference`, `follows_typeSig`);
2. it reads every text of the language that its depth is enough for, and stops at the end of it
   (`reference_covers`, `typeSig_covers`);
3. it looks one character ahead, and a larger depth makes no difference (`alike_reference`,
   `alike_typeSig`).

The readers take the production of nested references as a parameter, so each fact is first shown
for any such production, and then for all depths by induction.  For the second fact the induction
is on the length of the text: a nested reference is shorter than the type around it.
-/

namespace GenericSignature.Grammar

/-! ## Identifiers -/

theorem isNameChar_iff {c : Char} :
    isNameChar c = true ↔ c ∉ ['.', ';', '[', '/', '<', '>', ':'] := by
  unfold isNameChar isTerminator
  rw [Bool.not_eq_true', ← Bool.not_eq_true, List.contains_iff_mem]

theorem isIdentifier_iff {name : String} :
    IsIdentifier name ↔ name.toList ≠ [] ∧ ∀ c ∈ name.toList, isNameChar c = true := by
  unfold IsIdentifier
  simp only [isNameChar_iff]

/-- Nothing in front of the text can be part of an identifier that ends there. -/
def NoName (text : List Char) : Prop := text.head?.any isNameChar = false

theorem identifier_reads_iff {text rest : List Char} {name : String} :
    identifier.Reads text name rest ↔
      text = name.toList ++ rest ∧ IsIdentifier name ∧ NoName rest := by
  unfold identifier
  simp only [Reader.reads_bind, Reader.reads_demand, Reader.reads_takeWhile, Reader.reads_pure]
  rw [isIdentifier_iff]
  constructor
  · rintro ⟨_, _, ⟨starts, rfl⟩, value, _, ⟨rfl, all, stops⟩, rfl, rfl⟩
    rw [String.toList_ofList]
    refine ⟨rfl, ⟨?_, all⟩, stops⟩
    rintro rfl
    exact Bool.noConfusion (starts.symm.trans stops)
  · rintro ⟨rfl, ⟨some, all⟩, stops⟩
    refine ⟨(), _, ⟨?_, rfl⟩, name.toList, rest, ⟨rfl, all, stops⟩, String.ofList_toList.symm, rfl⟩
    obtain ⟨c, tail, split⟩ := List.exists_cons_of_ne_nil some
    rw [split] at all ⊢
    exact all c (List.mem_cons_self)

theorem identifier_reads {text rest : List Char} {name : String}
    (derives : DerivesIdentifier text name) (stops : NoName rest) :
    identifier.Reads (text ++ rest) name rest := by
  obtain ⟨valid⟩ := derives
  exact identifier_reads_iff.mpr ⟨rfl, valid, stops⟩

theorem follows_identifier : identifier.Follows DerivesIdentifier where
  inhabited := ⟨_, "a", .mk (by decide)⟩
  sound reads := by
    obtain ⟨split, valid, _⟩ := identifier_reads_iff.mp reads
    exact ⟨_, split, .mk valid⟩
  viable faults := by
    simp only [identifier, Reader.faults_bind, Reader.faults_demand, Reader.faults_takeWhile,
      Reader.faults_pure, and_false, exists_false, or_false] at faults
    obtain ⟨_, _, rfl⟩ := faults
    exact ⟨[], _, "a", rfl, .mk (by decide)⟩

theorem alike_identifier {m n : Nat} : Reader.Alike m n identifier identifier :=
  (Reader.alike_demand ..).bind fun _ => (Reader.alike_takeWhile _).bind fun _ =>
    Reader.alike_pure _

/-! ## Following the language -/

theorem mem_primitives_iff {c : Char} {type : BaseType} :
    (c, type) ∈ primitives ↔ BaseType.ofCode? c = some type := by
  have code : (c, type) ∈ primitives ↔ type.code = c := by
    cases type <;> simp [primitives, BaseType.code, eq_comm]
  rw [code]
  constructor
  · rintro rfl
    exact BaseType.ofCode?_code type
  · exact BaseType.code_of_ofCode?

theorem follows_baseType : baseType.Follows DerivesType where
  inhabited := ⟨['I'], .base .int, .primitive (by decide)⟩
  commits {c body} committed := by
    unfold baseType at committed
    split at committed
    · cases committed
    · next type found =>
        cases committed
        refine (Reader.follows_pure (TypeSig.base type)).mono ?_
        rintro _ _ ⟨rfl, rfl⟩
        exact .primitive (mem_primitives_iff.mpr found)

theorem follows_typeVar : typeVar.Follows DerivesTypeVar := by
  refine (Production.follows_starting 'T' (follows_identifier.bind fun name =>
    (Reader.follows_expect ';').bind fun _ => (Reader.follows_record name).bind fun _ =>
      Reader.follows_pure (TypeSig.typeVar name))).mono ?_
  rintro _ _ ⟨text, _, name, rfl, derives, _, _, _, rfl, rfl, _, _, _, rfl, ⟨rfl, _⟩, rfl, rfl⟩
  exact .mk derives

theorem derivesReference_T : DerivesReference ['T', 'a', ';'] (.typeVar "a") :=
  .typeVar (.mk (.mk (show IsIdentifier "a" by decide)))

section Nested

variable {nested : Production TypeSig}

theorem follows_typeArg (follows : nested.Follows DerivesReference) :
    (typeArg nested).Follows DerivesArg := by
  have bounded : ∀ wildcard, Reader.Follows
      (do return TypeArg.mk wildcard (some (← nested.require .missingWildcardBound)))
      (Joined DerivesReference fun tree => Done (.mk wildcard (some tree))) := fun wildcard =>
    (follows.require _).bind fun tree => Reader.follows_pure (TypeArg.mk wildcard (some tree))
  refine .orElse ?_ (.orElse ?_ (.orElse ?_ (follows.map .exactly)))
  · refine (Production.follows_starting '*' (Reader.follows_pure (TypeArg.mk .any none))).mono ?_
    rintro _ _ ⟨rfl, rfl⟩
    exact .any
  · refine (Production.follows_starting '+' (bounded .upper)).mono ?_
    rintro _ _ ⟨text, _, tree, rfl, derives, rfl, rfl⟩
    rw [List.append_nil]
    exact .upper derives
  · refine (Production.follows_starting '-' (bounded .lower)).mono ?_
    rintro _ _ ⟨text, _, tree, rfl, derives, rfl, rfl⟩
    rw [List.append_nil]
    exact .lower derives

theorem follows_argList (follows : nested.Follows DerivesReference) :
    (typeArgs nested).Follows (Enclosed DerivesArg fun _ => True) :=
  follows_bracketList _ .unclosedTypeArguments .missingTypeArgument .emptyTypeArguments
    (follows_typeArg follows) fun _ => .inl trivial

theorem follows_typeArgs (follows : nested.Follows DerivesReference) :
    (typeArgs nested).attemptList.Follows (Bracketed DerivesArg) := by
  refine (follows_argList follows).attemptList .absent ?_
  rintro _ _ ⟨items, rfl, repeats, some, _⟩
  exact .listed repeats some

theorem follows_classRef (follows : nested.Follows DerivesReference) :
    (classRef nested).Follows DerivesClassRef := by
  have suffix := follows_identifier.bind fun name => (follows_typeArgs follows).bind fun args =>
    Reader.follows_pure (name, args)
  refine (Production.follows_starting 'L' (follows_identifier.bind fun outer =>
    (follows_identifier.marked '/').bind fun parts => (follows_typeArgs follows).bind fun args =>
      (suffix.marked '.').bind fun suffixes => (Reader.follows_expect ';').bind fun _ =>
        Reader.follows_pure (TypeSig.classRef (String.intercalate "." (outer :: parts)) args
          (suffixes.map Prod.fst) (suffixes.map Prod.snd)))).mono ?_
  rintro _ _ ⟨outerText, _, outer, rfl, houter, partsText, _, parts, rfl, hparts, argsText, _, args,
    rfl, hargs, suffixesText, _, suffixes, rfl, hsuffixes, _, _, _, rfl, rfl, rfl, rfl⟩
  have nestedClasses : Repeats DerivesSuffix suffixesText suffixes := by
    refine hsuffixes.mono ?_
    rintro _ _ ⟨nameText, _, name, rfl, hname, argsText, _, args, rfl, hargs, rfl, rfl⟩
    rw [List.append_nil]
    exact .mk hname hargs
  simpa using DerivesClassRef.mk houter hparts hargs nestedClasses

theorem follows_typeOf (follows : nested.Follows DerivesReference) :
    (baseType.orElse nested).Follows DerivesType :=
  follows_baseType.orElse (follows.mono .reference)

/-- A row of brackets and an element make an array. -/
theorem derives_row {more text : List Char} {elem : TypeSig}
    (all : ∀ c ∈ more, (c == '[') = true) (derives : DerivesType text elem)
    (single : text.head? ≠ some '[') :
    DerivesReference ('[' :: (more ++ text)) (.array (more.length + 1) elem) := by
  have same : more = List.replicate more.length '[' :=
    List.eq_replicate_of_mem fun c member => by simpa using all c member
  have row : '[' :: more = List.replicate (more.length + 1) '[' := by
    rw [List.replicate_succ, ← same]
  have array := DerivesReference.array (Nat.succ_pos more.length) derives single
  rwa [← row] at array

/-- An element starts where the row of brackets ends, so not with a bracket. -/
theorem head_ne_of_row_stops {read : List Char} (rest : List Char)
    (stops : (read ++ rest).head?.any (· == '[') = false) : read.head? ≠ some '[' := by
  rcases read with _ | ⟨c, read⟩
  · exact nofun
  · intro bracket
    obtain rfl := Option.some.inj bracket
    cases stops

theorem follows_arrayType (follows : nested.Follows DerivesReference) :
    (arrayType nested).Follows DerivesReference := by
  have elements := (follows_typeOf follows).require .missingElementType
  have primitive : DerivesType ['I'] (.base .int) := .primitive (by decide)
  refine (Production.follows_starting '[' (L := fun text tree =>
    DerivesReference ('[' :: text) tree) ?_).mono fun marked => by
      cases marked
      assumption
  refine ⟨⟨['I'], .array 1 (.base .int), ?_⟩, ?_, ?_⟩
  · exact .array (Nat.succ_pos 0) primitive (by decide)
  · intro text rest tree body
    obtain ⟨more, between, row, element⟩ := Reader.reads_bind.mp body
    obtain ⟨rfl, all, stops⟩ := Reader.reads_takeWhile.mp row
    obtain ⟨elem, left, reads, finish⟩ := Reader.reads_bind.mp element
    obtain ⟨rfl, rfl⟩ := Reader.reads_pure.mp finish
    obtain ⟨read, rfl, derives⟩ := elements.sound reads
    exact ⟨more ++ read, (List.append_assoc ..).symm,
      derives_row all derives (head_ne_of_row_stops rest stops)⟩
  · intro text rest fault body
    rcases Reader.faults_bind.mp body with row | ⟨more, between, row, element⟩
    · exact absurd row Reader.faults_takeWhile
    · obtain ⟨rfl, all, stops⟩ := Reader.reads_takeWhile.mp row
      have faults := (Reader.faults_bind.mp element).resolve_right (by simp)
      obtain ⟨read, rest', elem, rfl, derives⟩ := elements.viable faults
      rcases read with _ | ⟨c, read⟩
      · exact ⟨more, ['I'], _, rfl, derives_row all primitive (by decide)⟩
      · have single : (c :: read).head? ≠ some '[' := head_ne_of_row_stops rest stops
        refine ⟨more ++ c :: read, rest', .array (more.length + 1) elem,
          (List.append_assoc ..).symm, ?_⟩
        rw [List.append_assoc]
        exact derives_row all derives single

end Nested

theorem follows_reference (depth : Nat) : (reference depth).Follows DerivesReference := by
  induction depth with
  | zero => exact ⟨⟨_, _, derivesReference_T⟩, nofun⟩
  | succ depth ih =>
      refine .orElse (.orElse ?_ ?_) (follows_arrayType ih)
      · exact (follows_classRef ih).mono .classRef
      · exact follows_typeVar.mono .typeVar

theorem follows_typeSig (depth : Nat) : (typeSig depth).Follows DerivesType :=
  follows_typeOf (follows_reference depth)

/-! ## Covering the language -/

theorem noName_of_starts {allowed text : List Char} (starts : Starts allowed text)
    (terminators : allowed.all isTerminator = true) : NoName text := by
  refine starts.any_eq_false fun c member => ?_
  unfold isNameChar
  rw [List.all_eq_true.mp terminators c member]
  rfl

theorem DerivesTypeVar.starts {text : List Char} {tree : TypeSig}
    (derives : DerivesTypeVar text tree) : Starts ['T'] text := by
  obtain ⟨_⟩ := derives
  exact .cons (by decide)

theorem DerivesClassRef.starts {text : List Char} {tree : TypeSig}
    (derives : DerivesClassRef text tree) : Starts ['L'] text := by
  obtain ⟨_, _, _, _⟩ := derives
  exact .cons (by decide)

theorem DerivesSuffix.starts {text : List Char} {suffix : String × List TypeArg}
    (derives : DerivesSuffix text suffix) : Starts ['.'] text := by
  obtain ⟨_, _⟩ := derives
  exact .cons (by decide)

theorem DerivesReference.starts {text : List Char} {tree : TypeSig}
    (derives : DerivesReference text tree) : Starts ['L', 'T', '['] text := by
  cases derives with
  | classRef derives => exact derives.starts.mono (by decide)
  | typeVar derives => exact derives.starts.mono (by decide)
  | @array dims text elem positive derives single =>
      obtain ⟨k, rfl⟩ := Nat.exists_eq_succ_of_ne_zero (Nat.ne_of_gt positive)
      exact .cons (by decide)

theorem DerivesType.starts {text : List Char} {tree : TypeSig} (derives : DerivesType text tree) :
    Starts (primitives.map Prod.fst ++ ['L', 'T', '[']) text := by
  cases derives with
  | @primitive code type member =>
      exact .cons (List.mem_append_left _ (List.mem_map_of_mem (f := Prod.fst) member))
  | reference derives => exact derives.starts.mono (List.subset_append_right _ _)

theorem Starts.ne_nil {allowed text : List Char} (starts : Starts allowed text) : text ≠ [] := by
  rintro rfl
  obtain ⟨_, _, head⟩ := starts
  cases head

theorem DerivesArg.starts {text : List Char} {arg : TypeArg} (derives : DerivesArg text arg) :
    Starts ['*', '+', '-', 'L', 'T', '['] text := by
  cases derives with
  | any => exact .cons (by decide)
  | upper _ => exact .cons (by decide)
  | lower _ => exact .cons (by decide)
  | exactly derives => exact derives.starts.mono (by decide)

theorem Starts.nonempty_and_head_ne {allowed text : List Char} {c : Char}
    (starts : Starts allowed text) (other : c ∉ allowed) : text ≠ [] ∧ text.head? ≠ some c :=
  ⟨starts.ne_nil, starts.head_ne other⟩

theorem typeVar_covers (n : Nat) : typeVar.Covers n DerivesTypeVar := by
  intro _ _ rest derives _
  obtain @⟨text, name, derives⟩ := derives
  unfold typeVar
  simp only [Production.reads_starting, Reader.reads_bind]
  exact ⟨text ++ ';' :: rest, by simp, name, ';' :: rest, identifier_reads derives rfl, (), rest,
    Reader.reads_expect.mpr rfl, (), rest, Reader.reads_record.mpr rfl,
    Reader.reads_pure.mpr ⟨rfl, rfl⟩⟩

theorem baseType_passes {text : List Char} (starts : Starts ['L', 'T', '['] text) :
    baseType.Passes text := by
  obtain ⟨c, member, head⟩ := starts
  have none : ['L', 'T', '['].all (fun c => (BaseType.ofCode? c).isNone) = true := by decide
  intro d next
  obtain rfl := Option.some.inj (head.symm.trans next)
  unfold baseType
  rw [Option.isNone_iff_eq_none.mp (List.all_eq_true.mp none c member)]

section Nested

variable {nested : Production TypeSig} {n : Nat}

theorem typeOf_covers (covers : nested.Covers n DerivesReference) :
    (baseType.orElse nested).Covers n DerivesType := by
  intro text tree rest derives short
  rw [Production.reads_orElse]
  cases derives with
  | @primitive code type member =>
      refine .inl ⟨code, rest, return .base type, rfl, ?_, Reader.reads_pure.mpr ⟨rfl, rfl⟩⟩
      unfold baseType
      rw [mem_primitives_iff.mp member]
  | reference derives =>
      exact .inr ⟨baseType_passes (derives.starts.append rest), covers rest derives short⟩

theorem typeArg_covers (covers : nested.Covers n DerivesReference) :
    (typeArg nested).Covers n DerivesArg := by
  intro text arg rest derives short
  unfold typeArg
  simp only [Production.reads_orElse, Production.passes_starting, Production.reads_starting,
    Reader.reads_bind, Production.reads_require]
  cases derives with
  | any => exact .inl ⟨rest, rfl, Reader.reads_pure.mpr ⟨rfl, rfl⟩⟩
  | upper derives =>
      have reads := covers rest derives (Nat.le_of_succ_le short)
      exact .inr ⟨by simp, .inl ⟨_, rfl, _, rest, reads, Reader.reads_pure.mpr ⟨rfl, rfl⟩⟩⟩
  | lower derives =>
      have reads := covers rest derives (Nat.le_of_succ_le short)
      exact .inr ⟨by simp, .inr ⟨by simp, .inl
        ⟨_, rfl, _, rest, reads, Reader.reads_pure.mpr ⟨rfl, rfl⟩⟩⟩⟩
  | exactly derives =>
      have starts := derives.starts.append rest
      refine .inr ⟨starts.head_ne (by decide), .inr ⟨starts.head_ne (by decide), .inr
        ⟨starts.head_ne (by decide), ?_⟩⟩⟩
      exact Production.reads_map.mpr ⟨_, covers rest derives short, rfl⟩

theorem typeArgs_reads (covers : nested.Covers n DerivesReference) {text rest : List Char}
    {args : List TypeArg} (bracketed : Bracketed DerivesArg text args) (short : text.length ≤ n)
    (stops : rest.head? ≠ some '<') :
    (typeArgs nested).attemptList.Reads (text ++ rest) args rest := by
  refine attemptList_reads ((typeArg_covers covers).before fun derives => ?_) bracketed
    (fun _ _ => trivial) short stops
  exact derives.starts.nonempty_and_head_ne (by decide)

/-- The text of a nested class without its dot. -/
inductive DerivesNested : Language (String × List TypeArg)
  | mk {nameText argsText : List Char} {name : String} {args : List TypeArg} :
      DerivesIdentifier nameText name → Bracketed DerivesArg argsText args →
      DerivesNested (nameText ++ argsText) (name, args)

theorem DerivesSuffix.marked {text : List Char} {suffix : String × List TypeArg}
    (derives : DerivesSuffix text suffix) : Marked '.' DerivesNested text suffix := by
  obtain ⟨name, args⟩ := derives
  exact .mk (.mk name args)

theorem nestedClass_reads (covers : nested.Covers n DerivesReference) {text rest : List Char}
    {suffix : String × List TypeArg} (derives : DerivesNested text suffix)
    (short : text.length ≤ n) (stops : Starts ['.', ';'] rest) :
    Reader.Reads (do
      let name ← identifier
      let args ← (typeArgs nested).attemptList
      return (name, args)) (text ++ rest) suffix rest := by
  obtain @⟨nameText, argsText, name, args, nameOk, argsOk⟩ := derives
  rw [List.length_append] at short
  have afterName : Starts ['<', '.', ';'] (argsText ++ rest) :=
    .append_of_nil_or (argsOk.nil_or_starts.imp_right (·.mono (by decide)))
      (stops.mono (by decide))
  simp only [Reader.reads_bind]
  rw [List.append_assoc]
  exact ⟨name, _, identifier_reads nameOk (noName_of_starts afterName (by decide)), args, rest,
    typeArgs_reads covers argsOk (by omega) (stops.head_ne (by decide)),
    Reader.reads_pure.mpr ⟨rfl, rfl⟩⟩

theorem classRef_covers (covers : nested.Covers n DerivesReference) :
    (classRef nested).Covers (n + 1) DerivesClassRef := by
  intro _ _ rest derives short
  obtain @⟨outerText, partsText, argsText, suffixesText, outer, parts, args, suffixes, outerOk,
    partsOk, argsOk, suffixesOk⟩ := derives
  simp only [List.length_append, List.length_cons, List.length_nil] at short
  -- the characters that can come after each part
  have afterArgs : Starts ['.', ';'] (suffixesText ++ ';' :: rest) := by
    refine .append_of_nil_or ?_ (.cons (by decide))
    exact (suffixesOk.nil_or_starts DerivesSuffix.starts).imp_right (·.mono (by decide))
  have afterParts : Starts ['<', '.', ';'] (argsText ++ (suffixesText ++ ';' :: rest)) :=
    .append_of_nil_or (argsOk.nil_or_starts.imp_right (·.mono (by decide)))
      (afterArgs.mono (by decide))
  have afterOuter : Starts ['/', '<', '.', ';']
      (partsText ++ (argsText ++ (suffixesText ++ ';' :: rest))) := by
    refine .append_of_nil_or ?_ (afterParts.mono (by decide))
    exact (partsOk.nil_or_starts Marked.starts).imp_right (·.mono (by decide))
  unfold classRef
  simp only [Production.reads_starting, Reader.reads_bind]
  refine ⟨outerText ++ (partsText ++ (argsText ++ (suffixesText ++ ';' :: rest))), by simp,
    outer, _, identifier_reads outerOk (noName_of_starts afterOuter (by decide)),
    parts, _, ?_, args, _, typeArgs_reads covers argsOk (by omega) (afterArgs.head_ne (by decide)),
    suffixes, _, ?_, (), rest, Reader.reads_expect.mpr rfl, Reader.reads_pure.mpr ⟨rfl, rfl⟩⟩
  · exact Reader.marked_reads NoName (n := n)
      (fun derives _ stops => identifier_reads derives stops) (fun _ => rfl) partsOk (by omega)
      (noName_of_starts afterParts (by decide)) (afterParts.head_ne (by decide))
  · exact Reader.marked_reads (Starts ['.', ';']) (n := n) (nestedClass_reads covers)
      (fun _ => .cons (by decide)) (suffixesOk.mono DerivesSuffix.marked) (by omega)
      (.cons (by decide)) (by simp)

theorem arrayType_reads (covers : nested.Covers n DerivesReference) {dims : Nat}
    {text : List Char} {elem : TypeSig} (rest : List Char) (positive : 0 < dims)
    (derives : DerivesType text elem) (single : text.head? ≠ some '[')
    (short : (List.replicate dims '[' ++ text).length ≤ n + 1) :
    (arrayType nested).Reads (List.replicate dims '[' ++ text ++ rest) (.array dims elem) rest := by
  obtain ⟨k, rfl⟩ := Nat.exists_eq_succ_of_ne_zero (Nat.ne_of_gt positive)
  simp only [List.length_append, List.length_replicate] at short
  have stops : (text ++ rest).head?.any (· == '[') = false := by
    obtain ⟨c, tail, rfl⟩ := List.exists_cons_of_ne_nil derives.starts.ne_nil
    simpa using single
  unfold arrayType
  simp only [Production.reads_starting, Reader.reads_bind, Production.reads_require]
  refine ⟨List.replicate k '[' ++ (text ++ rest), by simp [List.replicate_succ],
    List.replicate k '[', text ++ rest, Reader.reads_takeWhile.mpr ⟨rfl, by simp, stops⟩,
    elem, rest, typeOf_covers covers rest derives (by omega), Reader.reads_pure.mpr ⟨?_, rfl⟩⟩
  rw [List.length_replicate]
  rfl

end Nested

/-- Each level of nesting takes a character at least, so the length of a text is depth enough. -/
theorem reference_covers (depth : Nat) : (reference depth).Covers depth DerivesReference := by
  induction depth with
  | zero =>
      intro text tree rest derives short
      obtain ⟨c, _, head⟩ := derives.starts
      rw [List.length_eq_zero_iff.mp (Nat.le_zero.mp short)] at head
      cases head
  | succ depth ih =>
      intro text tree rest derives short
      unfold reference
      simp only [Production.reads_orElse, Production.passes_orElse]
      cases derives with
      | classRef derives => exact .inl (.inl (classRef_covers ih rest derives short))
      | typeVar derives =>
          have starts := derives.starts.append rest
          exact .inl (.inr ⟨Production.passes_starting.mpr (starts.head_ne (by decide)),
            typeVar_covers (depth + 1) rest derives short⟩)
      | array positive derives single =>
          have reads := arrayType_reads ih rest positive derives single short
          obtain ⟨tail, split, _⟩ := Production.reads_starting.mp reads
          have starts : Starts ['['] ('[' :: tail) := .cons (by decide)
          rw [split] at reads ⊢
          exact .inr ⟨⟨Production.passes_starting.mpr (starts.head_ne (by decide)),
            Production.passes_starting.mpr (starts.head_ne (by decide))⟩, reads⟩

theorem typeSig_covers (depth : Nat) : (typeSig depth).Covers depth DerivesType :=
  typeOf_covers (reference_covers depth)

/-! ## One character of lookahead -/

section Alike

variable {m n : Nat} {nested nested' : Production TypeSig}

theorem alike_baseType : Production.Alike m n baseType baseType := by
  intro c _ _
  unfold baseType
  split
  · exact .pass
  · exact .commit (Reader.alike_pure _)

theorem alike_typeVar : Production.Alike m n typeVar typeVar :=
  Production.alike_starting 'T' (alike_identifier.bind fun _ => (Reader.alike_expect ';').bind
    fun _ => (Reader.alike_record _).bind fun _ => Reader.alike_pure _)

theorem alike_typeArg (alike : Production.Alike m n nested nested') :
    Production.Alike m n (typeArg nested) (typeArg nested') := by
  have bound := (alike.mono (Nat.sub_le m 1) (Nat.sub_le n 1)).require .missingWildcardBound
  refine .orElse ?_ (.orElse ?_ (.orElse ?_ alike.map))
  · exact Production.alike_starting '*' (Reader.alike_pure _)
  · exact Production.alike_starting '+' (bound.bind fun _ => Reader.alike_pure _)
  · exact Production.alike_starting '-' (bound.bind fun _ => Reader.alike_pure _)

theorem alike_typeArgs (alike : Production.Alike m n nested nested') :
    Reader.Alike m n (typeArgs nested).attemptList (typeArgs nested').attemptList :=
  (alike_bracketList (alike_typeArg alike)).attemptList

/-- The nested references of a class are one character shorter than the class. -/
theorem alike_classRef (alike : Production.Alike m n nested nested') :
    Production.Alike (m + 1) (n + 1) (classRef nested) (classRef nested') := by
  have args := alike_typeArgs alike
  refine Production.alike_starting 'L' (alike_identifier.bind fun _ =>
    (alike_identifier.marked '/').bind fun _ => args.bind fun _ => .bind (.marked '.' ?_) fun _ =>
      (Reader.alike_expect ';').bind fun _ => Reader.alike_pure _)
  exact alike_identifier.bind fun _ => args.bind fun _ => Reader.alike_pure _

theorem alike_arrayType (alike : Production.Alike m n nested nested') :
    Production.Alike (m + 1) (n + 1) (arrayType nested) (arrayType nested') :=
  Production.alike_starting '[' ((Reader.alike_takeWhile _).bind fun _ =>
    ((alike_baseType.orElse alike).require .missingElementType).bind fun _ => Reader.alike_pure _)

end Alike

theorem alike_reference (m n : Nat) : Production.Alike m n (reference m) (reference n) := by
  induction m generalizing n with
  | zero =>
      intro c positive
      exact absurd positive (Nat.lt_irrefl 0)
  | succ m ih =>
      cases n with
      | zero =>
          intro c _ positive
          exact absurd positive (Nat.lt_irrefl 0)
      | succ n =>
          exact .orElse (.orElse (alike_classRef (ih n)) alike_typeVar) (alike_arrayType (ih n))

theorem alike_typeSig (m n : Nat) : Production.Alike m n (typeSig m) (typeSig n) :=
  alike_baseType.orElse (alike_reference m n)

end GenericSignature.Grammar
