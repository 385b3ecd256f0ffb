import GenericSignature.Document
import GenericSignature.Session.Batch
import Mathlib.Data.List.Sort
import Mathlib.Data.String.Basic
import Mathlib.Logic.Relation

/-!
# The classes that a signature refers to

1. `Node.Part` says which trees a tree is made of, kind by kind, and `Node.Mentions` which classes
   occur in it: the names of the class references that are reached from part to part.  Neither
   looks at how names are collected.
2. The names that are collected are those of the classes that occur (`Node.mem_classNames`), for
   every tree, however it was built.
3. `sortedNames` keeps the members of a list and puts them in strictly ascending order
   (`mem_sortedNames`, `ascending_sortedNames`), so that it depends on the members only
   (`sortedNames_congr`).
4. Exports and batches list exactly the classes that occur (`class_names_exact`).
-/

namespace GenericSignature

/-! ## Occurrences -/

/-- The trees that a tree is made of directly. -/
inductive Node.Part : Node → Node → Prop
  | classArg {name : String} {args : List TypeArg} {suffixes : List String}
      {suffixArgs : List (List TypeArg)} {arg : TypeArg} :
      arg ∈ args → Part (.type (.classRef name args suffixes suffixArgs)) (.arg arg)
  | suffixArg {name : String} {args : List TypeArg} {suffixes : List String}
      {suffixArgs : List (List TypeArg)} {list : List TypeArg} {arg : TypeArg} :
      list ∈ suffixArgs → arg ∈ list →
      Part (.type (.classRef name args suffixes suffixArgs)) (.arg arg)
  | elem {dims : Int} {elem : TypeSig} : Part (.type (.array dims elem)) (.type elem)
  | argType {wildcard : Wildcard} {type : TypeSig} :
      Part (.arg (.mk wildcard (some type))) (.type type)
  | bound {param : TypeParam} {bound : TypeSig} :
      param.bound = some bound → Part (.param param) (.type bound)
  | paramIface {param : TypeParam} {iface : TypeSig} :
      iface ∈ param.ifaces → Part (.param param) (.type iface)
  | methodTparam {sig : MethodSig} {param : TypeParam} :
      param ∈ sig.tparams → Part (.method sig) (.param param)
  | methodParam {sig : MethodSig} {type : TypeSig} :
      type ∈ sig.params → Part (.method sig) (.type type)
  | result {sig : MethodSig} : Part (.method sig) (.type sig.result)
  | thrown {sig : MethodSig} {type : TypeSig} :
      type ∈ sig.throws → Part (.method sig) (.type type)
  | classTparam {sig : ClassSig} {param : TypeParam} :
      param ∈ sig.tparams → Part (.cls sig) (.param param)
  | super {sig : ClassSig} : Part (.cls sig) (.type sig.super)
  | classIface {sig : ClassSig} {type : TypeSig} :
      type ∈ sig.ifaces → Part (.cls sig) (.type type)

/-- The second tree occurs in the first one, at any depth.  Every tree occurs in itself. -/
def Node.Contains : Node → Node → Prop := Relation.ReflTransGen Node.Part

/-- A reference to the class with the binary name occurs in the tree. -/
def Node.Mentions (node : Node) (className : String) : Prop :=
  ∃ name args suffixes suffixArgs,
    node.Contains (.type (.classRef name args suffixes suffixArgs)) ∧
      className = qualifiedName name suffixes

theorem Node.Mentions.of_part {whole part : Node} {className : String}
    (mentions : part.Mentions className) (direct : whole.Part part) :
    whole.Mentions className := by
  obtain ⟨name, args, suffixes, suffixArgs, within, named⟩ := mentions
  exact ⟨name, args, suffixes, suffixArgs, .head direct within, named⟩

/-! ## Collected names -/

theorem mem_argsClassNames {args : List TypeArg} {className : String} :
    className ∈ argsClassNames args ↔ ∃ arg ∈ args, className ∈ arg.classNames := by
  induction args with
  | nil => simp [argsClassNames]
  | cons arg args ih => rw [argsClassNames, List.mem_append, ih, List.exists_mem_cons_iff]

theorem mem_argListsClassNames {lists : List (List TypeArg)} {className : String} :
    className ∈ argListsClassNames lists ↔
      ∃ list ∈ lists, ∃ arg ∈ list, className ∈ arg.classNames := by
  induction lists with
  | nil => simp [argListsClassNames]
  | cons list lists ih =>
      rw [argListsClassNames, List.mem_append, ih, mem_argsClassNames, List.exists_mem_cons_iff]

theorem mem_classNames_classRef {name : String} {args : List TypeArg} {suffixes : List String}
    {suffixArgs : List (List TypeArg)} {className : String} :
    className ∈ (TypeSig.classRef name args suffixes suffixArgs).classNames ↔
      className = qualifiedName name suffixes ∨ (∃ arg ∈ args, className ∈ arg.classNames) ∨
        ∃ list ∈ suffixArgs, ∃ arg ∈ list, className ∈ arg.classNames := by
  rw [TypeSig.classNames, List.mem_cons, List.mem_append, mem_argsClassNames,
    mem_argListsClassNames]

theorem mem_classNames_param {param : TypeParam} {className : String} :
    className ∈ param.classNames ↔ (∃ bound ∈ param.bound, className ∈ bound.classNames) ∨
      ∃ iface ∈ param.ifaces, className ∈ iface.classNames := by
  unfold TypeParam.classNames
  cases param.bound <;> simp

theorem mem_classNames_method {sig : MethodSig} {className : String} :
    className ∈ sig.classNames ↔ (∃ param ∈ sig.tparams, className ∈ param.classNames) ∨
      (∃ type ∈ sig.params, className ∈ type.classNames) ∨ className ∈ sig.result.classNames ∨
        ∃ type ∈ sig.throws, className ∈ type.classNames := by
  simp [MethodSig.classNames]

theorem mem_classNames_class {sig : ClassSig} {className : String} :
    className ∈ sig.classNames ↔ (∃ param ∈ sig.tparams, className ∈ param.classNames) ∨
      className ∈ sig.super.classNames ∨ ∃ type ∈ sig.ifaces, className ∈ type.classNames := by
  simp [ClassSig.classNames]

/-- A tree collects the names of its parts. -/
theorem Node.Part.classNames_subset {whole part : Node} (direct : whole.Part part) :
    part.classNames ⊆ whole.classNames := by
  intro className member
  cases direct with
  | classArg listed => exact mem_classNames_classRef.mpr (.inr (.inl ⟨_, listed, member⟩))
  | suffixArg outer listed =>
      exact mem_classNames_classRef.mpr (.inr (.inr ⟨_, outer, _, listed, member⟩))
  | elem => exact member
  | argType => exact member
  | bound is => exact mem_classNames_param.mpr (.inl ⟨_, is, member⟩)
  | paramIface listed => exact mem_classNames_param.mpr (.inr ⟨_, listed, member⟩)
  | methodTparam listed => exact mem_classNames_method.mpr (.inl ⟨_, listed, member⟩)
  | methodParam listed => exact mem_classNames_method.mpr (.inr (.inl ⟨_, listed, member⟩))
  | result => exact mem_classNames_method.mpr (.inr (.inr (.inl member)))
  | thrown listed => exact mem_classNames_method.mpr (.inr (.inr (.inr ⟨_, listed, member⟩)))
  | classTparam listed => exact mem_classNames_class.mpr (.inl ⟨_, listed, member⟩)
  | super => exact mem_classNames_class.mpr (.inr (.inl member))
  | classIface listed => exact mem_classNames_class.mpr (.inr (.inr ⟨_, listed, member⟩))

mutual

/-- Every name that a type collects is that of a class that occurs in it. -/
theorem TypeSig.mentions_of_mem {className : String} : (tree : TypeSig) →
    className ∈ tree.classNames → (Node.type tree).Mentions className
  | .base _, member => by cases member
  | .classRef name args suffixes suffixArgs, member => by
      rcases mem_classNames_classRef.mp member with own | inArgs | inSuffixes
      · exact ⟨name, args, suffixes, suffixArgs, .refl, own⟩
      · obtain ⟨arg, listed, member⟩ := inArgs
        exact (TypeArg.mentions_of_mem arg member).of_part (.classArg listed)
      · obtain ⟨list, outer, arg, listed, member⟩ := inSuffixes
        exact (TypeArg.mentions_of_mem arg member).of_part (.suffixArg outer listed)
  | .typeVar _, member => by cases member
  | .array _ elem, member => (TypeSig.mentions_of_mem elem member).of_part .elem
termination_by tree => sizeOf tree
decreasing_by
  · decreasing_tactic
  · have smaller := (List.sizeOf_lt_of_mem listed).trans (List.sizeOf_lt_of_mem outer)
    exact smaller.trans (by simp)
  · decreasing_tactic

theorem TypeArg.mentions_of_mem {className : String} : (arg : TypeArg) →
    className ∈ arg.classNames → (Node.arg arg).Mentions className
  | .mk _ none, member => by cases member
  | .mk _ (some type), member => (TypeSig.mentions_of_mem type member).of_part .argType
termination_by arg => sizeOf arg

end

theorem TypeParam.mentions_of_mem {className : String} {param : TypeParam}
    (member : className ∈ param.classNames) : (Node.param param).Mentions className := by
  rcases mem_classNames_param.mp member with ⟨bound, is, member⟩ | ⟨iface, listed, member⟩
  · exact (bound.mentions_of_mem member).of_part (.bound is)
  · exact (iface.mentions_of_mem member).of_part (.paramIface listed)

theorem MethodSig.mentions_of_mem {className : String} {sig : MethodSig}
    (member : className ∈ sig.classNames) : (Node.method sig).Mentions className := by
  rcases mem_classNames_method.mp member with
    ⟨param, listed, member⟩ | ⟨type, listed, member⟩ | member | ⟨type, listed, member⟩
  · exact (TypeParam.mentions_of_mem member).of_part (.methodTparam listed)
  · exact (type.mentions_of_mem member).of_part (.methodParam listed)
  · exact (sig.result.mentions_of_mem member).of_part .result
  · exact (type.mentions_of_mem member).of_part (.thrown listed)

theorem ClassSig.mentions_of_mem {className : String} {sig : ClassSig}
    (member : className ∈ sig.classNames) : (Node.cls sig).Mentions className := by
  rcases mem_classNames_class.mp member with
    ⟨param, listed, member⟩ | member | ⟨type, listed, member⟩
  · exact (TypeParam.mentions_of_mem member).of_part (.classTparam listed)
  · exact (sig.super.mentions_of_mem member).of_part .super
  · exact (type.mentions_of_mem member).of_part (.classIface listed)

/-- The names that a tree collects are those of the classes that occur in it. -/
theorem Node.mem_classNames {node : Node} {className : String} :
    className ∈ node.classNames ↔ node.Mentions className := by
  constructor
  · intro member
    cases node with
    | type tree => exact tree.mentions_of_mem member
    | arg tree => exact tree.mentions_of_mem member
    | param tree => exact TypeParam.mentions_of_mem member
    | method tree => exact MethodSig.mentions_of_mem member
    | cls tree => exact ClassSig.mentions_of_mem member
  · rintro ⟨name, args, suffixes, suffixArgs, within, rfl⟩
    -- from the class reference outwards, each tree collects what its parts collect
    induction within using Relation.ReflTransGen.head_induction_on with
    | refl => exact mem_classNames_classRef.mpr (.inl rfl)
    | head direct _ ih => exact direct.classNames_subset ih

theorem mem_addNames {found names : List String} {name : String} :
    name ∈ addNames found names ↔ name ∈ found ∨ name ∈ names := by
  unfold addNames
  induction names generalizing found with
  | nil => simp
  | cons next names ih =>
      rw [List.foldl_cons, ih, List.mem_insert_iff, List.mem_cons]
      tauto

/-! ## Sorted names -/

section Runs

variable {α : Type} [BEq α]

theorem eraseRepsBy_loop (first : α) (values done : List α) :
    List.eraseRepsBy.loop (· == ·) first values done =
      done.reverse ++ (first :: values).eraseReps := by
  unfold List.eraseReps List.eraseRepsBy
  induction values generalizing first done with
  | nil => simp [List.eraseRepsBy.loop]
  | cons next values ih =>
      simp only [List.eraseRepsBy.loop]
      split
      · exact ih first done
      · rw [ih next (first :: done), ih next [first]]
        simp

theorem eraseReps_cons_cons (first next : α) (values : List α) :
    (first :: next :: values).eraseReps =
      if first == next then (first :: values).eraseReps
      else first :: (next :: values).eraseReps := by
  show List.eraseRepsBy.loop (· == ·) first (next :: values) [] = _
  rw [List.eraseRepsBy.loop]
  split
  · next same =>
      rw [same, eraseRepsBy_loop, if_pos rfl]
      rfl
  · next different =>
      rw [different, eraseRepsBy_loop, if_neg Bool.false_ne_true]
      rfl

variable [LawfulBEq α]

theorem mem_eraseReps {value : α} {values : List α} :
    value ∈ values.eraseReps ↔ value ∈ values := by
  cases values with
  | nil => rfl
  | cons first values =>
      induction values generalizing first with
      | nil => rfl
      | cons next values ih =>
          rw [eraseReps_cons_cons]
          split
          · next same =>
              obtain rfl := eq_of_beq same
              rw [ih, List.mem_cons, List.mem_cons, List.mem_cons, or_self_left]
          · rw [List.mem_cons, ih, ← List.mem_cons]

/-- In a sorted list equal members stand together, so that what is left ascends strictly. -/
theorem pairwise_eraseReps {lt : α → α → Prop} (trans : ∀ a b c, lt a b → lt b c → lt a c)
    {values : List α} (sorted : values.Pairwise fun a b => a = b ∨ lt a b) :
    values.eraseReps.Pairwise lt := by
  cases values with
  | nil => exact .nil
  | cons first values =>
      induction values generalizing first with
      | nil => exact List.pairwise_singleton ..
      | cons next values ih =>
          obtain ⟨below, rest⟩ := List.pairwise_cons.mp sorted
          rw [eraseReps_cons_cons]
          split
          · next same =>
              obtain rfl := eq_of_beq same
              exact ih first rest
          · next different =>
              have less : lt first next :=
                (below next List.mem_cons_self).resolve_left
                  fun same => different (beq_iff_eq.mpr same)
              refine .cons (fun value member => ?_) (ih next rest)
              rcases List.mem_cons.mp (mem_eraseReps.mp member) with rfl | later
              · exact less
              · rcases (List.pairwise_cons.mp rest).1 value later with rfl | greater
                · exact less
                · exact trans _ _ _ less greater

end Runs

theorem codePointsLe_iff {s t : List Char} : codePointsLe s t = true ↔ s = t ∨ s < t := by
  induction s generalizing t with
  | nil => cases t <;> simp [codePointsLe]
  | cons c s ih =>
      cases t with
      | nil => simp [codePointsLe]
      | cons d t =>
          rw [codePointsLe, List.cons_lt_cons_iff, List.cons.injEq]
          split
          · next same =>
              obtain rfl := same
              simp [ih]
          · next different =>
              have less : c.toNat ≤ d.toNat ↔ c < d := by
                have ordered : c.toNat ≤ d.toNat ↔ c ≤ d := Iff.rfl
                rw [ordered]
                exact ⟨fun le => lt_of_le_of_ne le different, le_of_lt⟩
              simp [different, less]

theorem mem_sortedNames {names : List String} {name : String} :
    name ∈ sortedNames names ↔ name ∈ names := by
  unfold sortedNames
  simp [mem_eraseReps]

theorem codePointsLe_trans (r s t : List Char) (first : codePointsLe r s = true)
    (second : codePointsLe s t = true) : codePointsLe r t = true := by
  rw [codePointsLe_iff] at *
  rcases first with rfl | less
  · exact second
  · rcases second with rfl | more
    · exact .inr less
    · exact .inr (less.trans more)

theorem codePointsLe_total (s t : List Char) : (codePointsLe s t || codePointsLe t s) = true := by
  rw [Bool.or_eq_true, codePointsLe_iff, codePointsLe_iff]
  rcases lt_trichotomy s t with less | same | greater
  · exact .inl (.inr less)
  · exact .inl (.inl same)
  · exact .inr (.inr greater)

/-- Sorted names ascend in the order of texts, which compares code points, and none is repeated. -/
theorem ascending_sortedNames (names : List String) : (sortedNames names).Pairwise (· < ·) := by
  have sorted := List.pairwise_mergeSort codePointsLe_trans codePointsLe_total
    (names.map String.toList)
  simp only [codePointsLe_iff] at sorted
  have ascending := pairwise_eraseReps (fun r s t (less : r < s) more => less.trans more) sorted
  refine List.pairwise_map.mpr (ascending.imp fun {s t} less => ?_)
  rw [String.lt_iff, String.toList_ofList, String.toList_ofList]
  exact less

theorem sortedNames_congr {names others : List String}
    (same : ∀ name, name ∈ names ↔ name ∈ others) : sortedNames names = sortedNames others := by
  refine (ascending_sortedNames names).eq_of_mem_iff (ascending_sortedNames others) fun name => ?_
  rw [mem_sortedNames, mem_sortedNames]
  exact same name

/-! ## Exports and batches -/

theorem BatchResult.mem_classNames {result : BatchResult} {name : String} :
    name ∈ result.classNames ↔
      ∃ entry ∈ result.parsed, (Node.method entry.sig.tree).Mentions name := by
  unfold classNames
  rw [mem_sortedNames, List.mem_flatMap]
  simp only [← Node.mem_classNames, Node.classNames]

/-- Collecting the classes of a tree adds to the names found before exactly the classes that occur
in the tree.  The document of a method lists exactly the classes that occur in the method, in
strictly ascending order, and a batch those that occur in a line that was parsed, whatever the order
of the lines. -/
theorem class_names_exact :
    (∀ (node : Node) (found : List String) (name : String),
      name ∈ node.addClassNames found ↔ name ∈ found ∨ node.Mentions name) ∧
    (∀ sig : MethodSig, ∃ members names,
      (MethodSummary.ofMethod sig).toJson = .obj members ∧
      Json.member? members "referenced_classes" = some (Json.texts names) ∧
      names.Pairwise (· < ·) ∧ ∀ name, name ∈ names ↔ (Node.method sig).Mentions name) ∧
    ∀ result : BatchResult,
      (∀ name, name ∈ result.classNames ↔
        ∃ entry ∈ result.parsed, (Node.method entry.sig.tree).Mentions name) ∧
      ∀ other : BatchResult, other.parsed.Perm result.parsed →
        other.classNames = result.classNames := by
  refine ⟨?_, ?_, ?_⟩
  · intro node found name
    unfold Node.addClassNames
    rw [mem_addNames, Node.mem_classNames]
  · intro sig
    refine ⟨_, sortedNames sig.classNames, rfl, rfl, ascending_sortedNames _, fun name => ?_⟩
    rw [mem_sortedNames, ← Node.mem_classNames]
    rfl
  · intro result
    refine ⟨fun name => BatchResult.mem_classNames, fun other moved => ?_⟩
    refine sortedNames_congr fun name => ?_
    exact (moved.flatMap_right _).mem_iff

/-- A class is found among the arguments of a nested class that has no name, and the names of a
batch stay the same if its lines change places. -/
theorem class_names_exact_of_nameless_suffix :
    let type : TypeSig := .classRef "a.B" [] [] [[.mk .exactly (some (.classRef "d.E" [] [] []))]]
    let first : ParsedLine := ⟨1, "", ⟨0⟩, [], [type], .base .void, []⟩
    let second : ParsedLine := ⟨2, "", ⟨1⟩, [], [], .base .void, []⟩
    "d.E" ∈ (Node.type type).addClassNames ["x"] ∧
      [second, first].Perm [first, second] ∧
      BatchResult.classNames ⟨[second, first], []⟩ =
        BatchResult.classNames ⟨[first, second], []⟩ := by
  intro type first second
  have listed : (Node.type type).Part (.arg (.mk .exactly (some (.classRef "d.E" [] [] [])))) :=
    .suffixArg List.mem_cons_self List.mem_cons_self
  have inside : (Node.type type).Mentions "d.E" :=
    ⟨"d.E", [], [], [], .head listed (.single .argType), by decide⟩
  have moved : [second, first].Perm [first, second] := .swap ..
  exact ⟨(class_names_exact.1 _ _ _).mpr (.inr inside), moved,
    (class_names_exact.2.2 ⟨[first, second], []⟩).2 ⟨[second, first], []⟩ moved⟩

end GenericSignature
