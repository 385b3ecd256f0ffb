import GenericSignature.Proofs.Canonical
import GenericSignature.Signature.Display
import GenericSignature.Signature.Equality

/-!
# What displays leave out

Every type has the class at the top of the hierarchy above it, so a display leaves that class out
where it is the class bound of a type parameter or the superclass of a class.  Which class it is
goes by its own display, and there the same dots stand between packages and before nested classes.

1. Of the trees that can be read, three display as the top class: the class itself, and two chains
   of nested classes (`display_eq_topClassName_iff`).
2. The display of a parsed declaration leaves out these three and no others; where the two chains do
   not occur, it leaves out the top class only (`displays_of_parsed`).
3. A bound and a superclass that are not the top class can be missing from a display
   (`nested_class_not_displayed`).
-/

namespace GenericSignature

open Grammar

/-- The class at the top of every class hierarchy. -/
def topClass : TypeSig := .classRef topClassName [] [] []

/-- The classes that are displayed as the top class and are others: classes nested in a class that
has the name of a package. -/
def topClassLookalikes : List TypeSig :=
  [.classRef "java.lang" [] ["Object"] [[]], .classRef "java" [] ["lang", "Object"] [[], []]]

/-! ## Displays of classes -/

section Classes

variable {items : List String} {name : String} {suffixes : List String}
  {suffixArgs : List (List TypeArg)}

theorem angled_eq_empty (plain : '<' ∉ (angled items).toList) : items = [] := by
  unfold angled at plain
  split at plain
  · next empty => exact List.isEmpty_iff.mp empty
  · simp at plain

theorem displayArgs_eq_nil {args : List TypeArg} : displayArgs args = [] ↔ args = [] := by
  cases args <;> simp [displayArgs]

/-- Nested classes that are displayed without brackets have no arguments. -/
theorem suffixArgs_of_plain (paired : suffixes.length = suffixArgs.length)
    (plain : '<' ∉ (displaySuffixes suffixes suffixArgs).toList) :
    suffixArgs = List.replicate suffixes.length [] := by
  induction suffixes generalizing suffixArgs with
  | nil => exact List.length_eq_zero_iff.mp paired.symm
  | cons suffix suffixes ih =>
      cases suffixArgs with
      | nil => cases paired
      | cons args suffixArgs =>
          simp only [displaySuffixes, String.toList_append, List.mem_append, not_or] at plain
          obtain ⟨⟨_, plainArgs⟩, plainRest⟩ := plain
          rw [displayArgs_eq_nil.mp (angled_eq_empty plainArgs), ih (Nat.succ.inj paired) plainRest]
          rfl

/-- A class without arguments is displayed with dots only. -/
theorem display_classRef_bare (name : String) (suffixes : List String) :
    TypeSig.display (.classRef name [] suffixes (List.replicate suffixes.length [])) =
      String.intercalate "." (name :: suffixes) := by
  have shown : ∀ suffixes : List String, name ++
      displaySuffixes suffixes (List.replicate suffixes.length []) =
        String.intercalate "." (name :: suffixes) := by
    intro suffixes
    induction suffixes generalizing name with
    | nil => rw [String.intercalate_singleton]; exact String.append_empty
    | cons suffix suffixes ih =>
        rw [String.intercalate_cons_cons, ← ih suffix]
        simp [displaySuffixes, displayArgs, angled, String.append_assoc, List.replicate_succ]
  have bare : TypeSig.display (.classRef name [] suffixes (List.replicate suffixes.length [])) =
      name ++ "" ++ displaySuffixes suffixes (List.replicate suffixes.length []) := rfl
  rw [bare, String.append_empty, shown]

/-- A text that identifiers and dots make up says which identifiers they are. -/
theorem parts_of_intercalate {parts : List String} (some : parts ≠ [])
    (names : ∀ part ∈ parts, IsIdentifier part) :
    (String.intercalate "." parts).toList.splitOn '.' = parts.map String.toList := by
  have dot : ".".toList = ['.'] := rfl
  rw [String.toList_intercalate, dot]
  refine List.splitOn_intercalate '.' ?_ (mt List.map_eq_nil_iff.mp some)
  intro text member
  obtain ⟨part, among, rfl⟩ := List.mem_map.mp member
  exact fun within => (names part among).2 '.' within (by decide)

theorem intercalate_join (parts suffixes : List String) (some : parts ≠ []) :
    String.intercalate "." (String.intercalate "." parts :: suffixes) =
      String.intercalate "." (parts ++ suffixes) := by
  cases suffixes with
  | nil => rw [String.intercalate_singleton, List.append_nil]
  | cons suffix suffixes =>
      rw [String.intercalate_cons_cons,
        String.intercalate_append_of_ne_nil some (List.cons_ne_nil _ _)]

end Classes

/-! ## The top class -/

theorem mem_topClass_of_bare {name : String} {suffixes : List String} (cls : IsClassName name)
    (nested : ∀ suffix ∈ suffixes, IsIdentifier suffix)
    (shown : String.intercalate "." (name :: suffixes) = topClassName) :
    TypeSig.classRef name [] suffixes (List.replicate suffixes.length []) ∈
      topClass :: topClassLookalikes := by
  obtain ⟨parts, some, names, rfl⟩ := cls
  have all : parts ++ suffixes = ["java", "lang", "Object"] := by
    have split : (String.intercalate "." (parts ++ suffixes)).toList.splitOn '.' = _ :=
      parts_of_intercalate (List.append_ne_nil_of_left_ne_nil some suffixes)
        (List.forall_mem_append.mpr ⟨names, nested⟩)
    rw [← intercalate_join parts suffixes some, shown] at split
    have given : topClassName.toList.splitOn '.' =
      ["java", "lang", "Object"].map String.toList := by decide
    exact (List.map_inj_right fun _ _ => String.toList_inj.mp).mp (split.symm.trans given)
  -- the name of the outer class may end after each of the three identifiers
  rcases parts with _ | ⟨first, _ | ⟨second, _ | ⟨third, _ | ⟨more, parts⟩⟩⟩⟩
  · exact absurd rfl some
  · cases all
    exact .tail _ (.tail _ (.head _))
  · cases all
    exact .tail _ (.head _)
  · cases all
    exact .head _
  · cases all

/-- Of the trees that can be read, those that display as the top class are the top class and its
lookalikes. -/
theorem display_eq_topClassName_iff {type : TypeSig} (canonical : type.Canonical) :
    type.display = topClassName ↔ type ∈ topClass :: topClassLookalikes := by
  constructor
  · intro shown
    cases type with
    | base type => cases type <;> exact absurd shown (by decide)
    | typeVar name =>
        obtain rfl : name = topClassName := shown
        -- a dot cannot stand in an identifier
        exact absurd (canonical.2 '.' (by decide)) (by decide)
    | array dims elem =>
        obtain ⟨positive, _⟩ := canonical
        obtain ⟨more, count⟩ : ∃ more, dims.toNat = more + 1 := ⟨dims.toNat - 1, by omega⟩
        have bracket : '[' ∈ (TypeSig.array dims elem).display.toList := by
          simp [TypeSig.display, count, List.replicate_succ]
        rw [shown] at bracket
        exact absurd bracket (by decide)
    | classRef name args suffixes suffixArgs =>
        obtain ⟨cls, _, nested, paired, _⟩ := canonical
        have plain : '<' ∉ (TypeSig.classRef name args suffixes suffixArgs).display.toList := by
          rw [shown]
          decide
        simp only [TypeSig.display, String.toList_append, List.mem_append, not_or] at plain
        obtain ⟨⟨_, plainArgs⟩, plainSuffixes⟩ := plain
        obtain rfl := displayArgs_eq_nil.mp (angled_eq_empty plainArgs)
        obtain rfl := suffixArgs_of_plain paired plainSuffixes
        rw [display_classRef_bare] at shown
        exact mem_topClass_of_bare cls nested shown
  · intro member
    simp only [topClassLookalikes, List.mem_cons, List.not_mem_nil, or_false] at member
    rcases member with rfl | rfl | rfl <;> decide

/-! ## Displays of declarations -/

/-- The displays of the bounds of a type parameter, the class bound first.  A class bound that is
among the hidden types is left out. -/
def TypeParam.boundsBut (hidden : List TypeSig) (param : TypeParam) : List String :=
  ((param.bound.filter fun bound => bound ∉ hidden).toList ++ param.ifaces).map TypeSig.display

/-- The display of a type parameter is its name and, if there are any to show, its bounds.  A class
bound is left out exactly if it is hidden. -/
def TypeParam.HidesOnly (hidden : List TypeSig) (param : TypeParam) : Prop :=
  param.display = if param.boundsBut hidden = [] then param.name
    else param.name ++ " extends " ++ String.intercalate " & " (param.boundsBut hidden)

/-- The display of a class is made of its type parameters, its superclass and its interfaces.  The
superclass is left out exactly if it is hidden. -/
def ClassSig.HidesOnly (hidden : List TypeSig) (sig : ClassSig) : Prop :=
  sig.display = String.intercalate " "
    ((if sig.tparams = [] then [] else [angled (sig.tparams.map TypeParam.display)]) ++
      (if sig.super ∈ hidden then [] else ["extends " ++ sig.super.display]) ++
      if sig.ifaces = [] then []
      else ["implements " ++ commaSeparated (sig.ifaces.map TypeSig.display)])

instance (hidden : List TypeSig) : DecidablePred (TypeParam.HidesOnly hidden) := fun param =>
  inferInstanceAs (Decidable (param.display = _))

instance (hidden : List TypeSig) : DecidablePred (ClassSig.HidesOnly hidden) := fun sig =>
  inferInstanceAs (Decidable (sig.display = _))

section Declarations

variable {hidden : List TypeSig} {param : TypeParam} {sig : ClassSig}

theorem shownBounds_eq
    (exact : ∀ bound ∈ param.bound, (bound.display = topClassName ↔ bound ∈ hidden)) :
    param.shownBounds = param.boundsBut hidden := by
  obtain ⟨name, _ | bound, ifaces⟩ := param
  · rfl
  · have hides := exact bound rfl
    by_cases member : bound ∈ hidden
    · simp [TypeParam.shownBounds, TypeParam.boundsBut, Option.filter, member, hides.mpr member]
    · simp [TypeParam.shownBounds, TypeParam.boundsBut, Option.filter, member,
        mt hides.mp member]

theorem TypeParam.hidesOnly_of_iff
    (exact : ∀ bound ∈ param.bound, (bound.display = topClassName ↔ bound ∈ hidden)) :
    param.HidesOnly hidden := by
  unfold TypeParam.HidesOnly TypeParam.display
  simp only [shownBounds_eq exact, List.isEmpty_iff]

theorem ClassSig.hidesOnly_of_iff (exact : sig.super.display = topClassName ↔ sig.super ∈ hidden) :
    sig.HidesOnly hidden := by
  unfold ClassSig.HidesOnly ClassSig.display ClassSig.shownParts
  simp only [exact, List.isEmpty_iff]

/-- Without lookalikes, what is displayed as the top class is the top class. -/
theorem display_eq_iff_of_not_lookalike {type : TypeSig} (canonical : type.Canonical)
    (other : type ∉ topClassLookalikes) : type.display = topClassName ↔ type ∈ [topClass] := by
  rw [display_eq_topClassName_iff canonical, List.mem_cons, List.mem_singleton]
  exact or_iff_left other

theorem TypeParam.Canonical.hidesOnly (canonical : param.Canonical) :
    param.HidesOnly (topClass :: topClassLookalikes) ∧
      ((∀ bound ∈ param.bound, bound ∉ topClassLookalikes) → param.HidesOnly [topClass]) := by
  obtain ⟨_, bounds, _⟩ := canonical
  refine ⟨?_, fun others => ?_⟩
  · exact hidesOnly_of_iff fun bound is => display_eq_topClassName_iff (bounds bound is).2
  · exact hidesOnly_of_iff fun bound is =>
      display_eq_iff_of_not_lookalike (bounds bound is).2 (others bound is)

theorem ClassSig.Canonical.hidesOnly (canonical : sig.Canonical) :
    sig.HidesOnly (topClass :: topClassLookalikes) ∧
      (sig.super ∉ topClassLookalikes → sig.HidesOnly [topClass]) := by
  obtain ⟨_, ⟨_, super⟩, _⟩ := canonical
  refine ⟨?_, fun other => ?_⟩
  · exact hidesOnly_of_iff (display_eq_topClassName_iff super)
  · exact hidesOnly_of_iff (display_eq_iff_of_not_lookalike super other)

end Declarations

/-- In the display of a parsed method or class, a class bound or a superclass is left out if it is
the top class or one of its two lookalikes, and in no other case.  So where these two do not occur,
the top class only is left out. -/
theorem displays_of_parsed (session : Session) (text : String) :
    (∀ context tree, (SessionM.parseMethod text context).Returns session tree →
      ∀ param ∈ tree.tparams, param.HidesOnly (topClass :: topClassLookalikes) ∧
        ((∀ bound ∈ param.bound, bound ∉ topClassLookalikes) → param.HidesOnly [topClass])) ∧
    ∀ tree, (SessionM.parseClass text).Returns session tree →
      (∀ param ∈ tree.tparams, param.HidesOnly (topClass :: topClassLookalikes) ∧
        ((∀ bound ∈ param.bound, bound ∉ topClassLookalikes) → param.HidesOnly [topClass])) ∧
      tree.HidesOnly (topClass :: topClassLookalikes) ∧
        (tree.super ∉ topClassLookalikes → tree.HidesOnly [topClass]) := by
  constructor
  · rintro context tree ⟨id, after, answers⟩ param member
    obtain ⟨limit, names, parsed⟩ := SessionM.read_of_parseMethod answers
    obtain ⟨⟨params, _⟩, _⟩ := MethodSig.canonical_of_parse parsed
    exact (params param member).hidesOnly
  · rintro tree ⟨id, after, answers⟩
    obtain ⟨limit, names, parsed⟩ := SessionM.read_of_parseClass answers
    have canonical := ClassSig.canonical_of_parse parsed
    exact ⟨fun param member => (canonical.1.1 param member).hidesOnly, canonical.hidesOnly⟩

theorem displays_of_parsed_bounded_by_top :
    (SessionM.parseClass "<T:Ljava/lang/Object;>LA;").Returns (Session.start .empty)
        ⟨[⟨"T", some topClass, []⟩], .classRef "A" [] [] [], []⟩ ∧
      TypeParam.HidesOnly [topClass] ⟨"T", some topClass, []⟩ ∧
      ClassSig.HidesOnly [topClass] ⟨[⟨"T", some topClass, []⟩], .classRef "A" [] [] [], []⟩ := by
  have short : "<T:Ljava/lang/Object;>LA;".length ≤ Settings.standard.maxLength := by decide
  have exact := exact_parseClass (Session.fresh_start .empty) inForce_start short
  have name (name : String) (valid : IsIdentifier name := by decide) :
      DerivesIdentifier name.toList name := .mk valid
  have top : DerivesClassRef "Ljava/lang/Object;".toList topClass :=
    .mk (name "java") (.cons (.mk (name "lang")) (.cons (.mk (name "Object")) .nil)) .absent .nil
  have param : DerivesParam "T:Ljava/lang/Object;".toList ⟨"T", some topClass, []⟩ :=
    .mk (name "T") (.present (.classRef top)) .nil
  have super : DerivesClassRef "LA;".toList (.classRef "A" [] [] []) :=
    .mk (name "A") .nil .absent .nil
  have returns := (exact.returns_iff ⟨[⟨"T", some topClass, []⟩], .classRef "A" [] [] [], []⟩).mpr
    (.mk (.mk (.listed (.cons param .nil) (List.cons_ne_nil _ _)) nofun) super .nil)
  obtain ⟨params, _, cls⟩ :=
    (displays_of_parsed (Session.start .empty) "<T:Ljava/lang/Object;>LA;").2 _ returns
  have plain : ∀ bound ∈ some topClass, bound ∉ topClassLookalikes := by
    rintro _ ⟨⟩
    simp [topClass, topClassLookalikes]
  exact ⟨returns, (params _ List.mem_cons_self).2 plain, cls (by simp [topClassLookalikes])⟩

/-- The class `Object` nested in a class `java.lang` is not the top class, and the display of a
declaration leaves it out. -/
theorem nested_class_not_displayed :
    (SessionM.parseMethod "<T:Ljava/lang.Object;>()V" none).Returns (Session.start .empty)
        ⟨[⟨"T", some (.classRef "java.lang" [] ["Object"] [[]]), []⟩], [], .base .void, []⟩ ∧
      ¬ TypeParam.HidesOnly [topClass] ⟨"T", some (.classRef "java.lang" [] ["Object"] [[]]), []⟩ ∧
      (SessionM.parseClass "Ljava/lang.Object;").Returns (Session.start .empty)
        ⟨[], .classRef "java.lang" [] ["Object"] [[]], []⟩ ∧
      ¬ ClassSig.HidesOnly [topClass] ⟨[], .classRef "java.lang" [] ["Object"] [[]], []⟩ := by
  have fresh := Session.fresh_start .empty
  have name (name : String) (valid : IsIdentifier name := by decide) :
      DerivesIdentifier name.toList name := .mk valid
  have nested : DerivesClassRef "Ljava/lang.Object;".toList
      (.classRef "java.lang" [] ["Object"] [[]]) :=
    .mk (name "java") (.cons (.mk (name "lang")) .nil) .absent
      (.cons (.mk (name "Object") .absent) .nil)
  have param : DerivesParam "T:Ljava/lang.Object;".toList
      ⟨"T", some (.classRef "java.lang" [] ["Object"] [[]]), []⟩ :=
    .mk (name "T") (.present (.classRef nested)) .nil
  refine ⟨?_, by decide +kernel, ?_, by decide +kernel⟩
  · exact ((exact_parseMethod fresh inForce_start (by decide) nofun).returns_iff _).mpr
      (.mk (.mk (.listed (.cons param .nil) (List.cons_ne_nil _ _)) nofun) .nil
        (.primitive (by decide)) .nil)
  · exact ((exact_parseClass fresh inForce_start (by decide)).returns_iff _).mpr
      (.mk (.mk .absent nofun) nested .nil)

end GenericSignature
