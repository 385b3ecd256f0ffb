import GenericSignature.Proofs.Parsers
import GenericSignature.Signature.Descriptor

/-!
# Canonical trees

A tree is canonical when it has the shape of a tree that was read: names are identifiers, nested
classes come with their arguments, brackets are gathered in one array, and so on.

1. A text derives a tree exactly if the tree is canonical and the text is its descriptor
   (`spelled_type`, `spelled_method`, `spelled_class`).
2. The descriptor of a parsed tree is the text that it was parsed from
   (`descriptor_of_parsed`).
3. Parsing the descriptor of a tree gives the tree back exactly if the tree is canonical
   (`reparses_iff_canonical`).

The first result is by induction on the tree, one case for each kind of node; the lists in a tree
are spelled item by item.
-/

namespace GenericSignature

namespace Grammar

variable {α : Type}

/-! ## Spelling -/

/-- The value has one text in the language, its encoding, if it is of the kind, and no text
otherwise. -/
def Spelled (L : Language α) (Kind : α → Prop) (encode : α → List Char) (value : α) : Prop :=
  ∀ text, L text value ↔ Kind value ∧ text = encode value

variable {L : Language α} {Kind : α → Prop} {encode : α → List Char}

theorem Spelled.congr {Kind' : α → Prop} {encode' : α → List Char} {value : α}
    (spelled : Spelled L Kind encode value) (kind : Kind value ↔ Kind' value)
    (written : encode value = encode' value) : Spelled L Kind' encode' value := by
  intro text
  rw [spelled text, kind, written]

theorem Spelled.marked {value : α} (spelled : Spelled L Kind encode value) (mark : Char) :
    Spelled (Marked mark L) Kind (fun value => mark :: encode value) value := by
  intro text
  constructor
  · rintro ⟨member⟩
    obtain ⟨kind, rfl⟩ := (spelled _).mp member
    exact ⟨kind, rfl⟩
  · rintro ⟨kind, rfl⟩
    exact .mk ((spelled _).mpr ⟨kind, rfl⟩)

theorem spelled_repeats (values : List α) (items : ∀ value ∈ values, Spelled L Kind encode value) :
    Spelled (Repeats L) (fun values => ∀ value ∈ values, Kind value) (·.flatMap encode) values := by
  induction values with
  | nil =>
      intro text
      constructor
      · rintro ⟨⟩
        exact ⟨nofun, rfl⟩
      · rintro ⟨_, rfl⟩
        exact .nil
  | cons value values ih =>
      obtain ⟨first, others⟩ := List.forall_mem_cons.mp items
      intro text
      simp only [List.forall_mem_cons, List.flatMap_cons]
      constructor
      · rintro ⟨⟩
        next front back item more =>
          obtain ⟨kind, rfl⟩ := (first _).mp item
          obtain ⟨kinds, rfl⟩ := (ih others _).mp more
          exact ⟨⟨kind, kinds⟩, rfl⟩
      · rintro ⟨⟨kind, kinds⟩, rfl⟩
        exact .cons ((first _).mpr ⟨kind, rfl⟩) ((ih others _).mpr ⟨kinds, rfl⟩)

theorem spelled_bracketed (values : List α)
    (items : ∀ value ∈ values, Spelled L Kind encode value) :
    Spelled (Bracketed L) (fun values => ∀ value ∈ values, Kind value)
      (fun values => bracketed values (values.flatMap encode)) values := by
  intro text
  unfold bracketed
  constructor
  · rintro ⟨⟩
    · exact ⟨nofun, rfl⟩
    · next text repeats some =>
        obtain ⟨kinds, rfl⟩ := (spelled_repeats _ items _).mp repeats
        exact ⟨kinds, (if_neg (by simpa using some)).symm⟩
  · rintro ⟨kinds, rfl⟩
    cases values with
    | nil => exact .absent
    | cons value values =>
        exact .listed ((spelled_repeats _ items _).mpr ⟨kinds, rfl⟩) (List.cons_ne_nil _ _)

theorem spelled_optional (value : Option α) (item : ∀ found ∈ value, Spelled L Kind encode found) :
    Spelled (Optional L) (fun value => ∀ found ∈ value, Kind found)
      (fun value => (value.map encode).getD []) value := by
  intro text
  constructor
  · rintro ⟨⟩
    · exact ⟨nofun, rfl⟩
    · next found member =>
        obtain ⟨kind, rfl⟩ := (item found rfl _).mp member
        refine ⟨?_, rfl⟩
        rintro _ ⟨⟩
        exact kind
  · rintro ⟨kinds, rfl⟩
    cases value with
    | none => exact .absent
    | some found => exact .present ((item found rfl _).mpr ⟨kinds found rfl, rfl⟩)

theorem spelled_identifier (name : String) :
    Spelled DerivesIdentifier IsIdentifier String.toList name := by
  intro text
  constructor
  · rintro ⟨valid⟩
    exact ⟨valid, rfl⟩
  · rintro ⟨valid, rfl⟩
    exact .mk valid

/-! ## Class names -/

/-- A class name: one identifier or more, joined by dots. -/
def IsClassName (name : String) : Prop :=
  ∃ parts : List String, parts ≠ [] ∧ (∀ part ∈ parts, IsIdentifier part) ∧
    name = String.intercalate "." parts

theorem slashed_identifier {name : String} (valid : IsIdentifier name) :
    slashed name = name.toList := by
  unfold slashed
  have same : ∀ c ∈ name.toList, (if c = '.' then '/' else c) = id c := by
    intro c member
    refine if_neg ?_
    rintro rfl
    exact valid.2 '.' member (by decide)
  rw [List.map_congr_left same, List.map_id]

theorem slashed_append (front back : String) :
    slashed (front ++ back) = slashed front ++ slashed back := by
  unfold slashed
  rw [String.toList_append, List.map_append]

/-- The slashes of a class name stand where its dots were. -/
theorem slashed_intercalate {outer : String} {parts : List String} (first : IsIdentifier outer)
    (others : ∀ part ∈ parts, IsIdentifier part) :
    slashed (String.intercalate "." (outer :: parts)) =
      outer.toList ++ parts.flatMap fun part => '/' :: part.toList := by
  induction parts generalizing outer with
  | nil =>
      rw [String.intercalate_singleton, slashed_identifier first]
      exact (List.append_nil _).symm
  | cons part parts ih =>
      obtain ⟨second, others⟩ := List.forall_mem_cons.mp others
      have dot : slashed "." = ['/'] := by decide
      rw [String.intercalate_cons_cons, slashed_append, slashed_append, dot,
        slashed_identifier first, ih second others, List.flatMap_cons, List.append_assoc]
      rfl

end Grammar

open Grammar

/-! ## Canonical trees -/

/-- A class, a type variable or an array. -/
def TypeSig.IsReference : TypeSig → Prop
  | .base _ => False
  | _ => True

/-- A class. -/
def TypeSig.IsClass : TypeSig → Prop
  | .classRef .. => True
  | _ => False

/-- A class or a type variable. -/
def TypeSig.IsThrowable : TypeSig → Prop
  | .classRef .. => True
  | .typeVar _ => True
  | _ => False

/-- An array. -/
def TypeSig.IsArray : TypeSig → Prop
  | .array .. => True
  | _ => False

mutual

/-- A type with the shape of one that was read. -/
def TypeSig.Canonical : TypeSig → Prop
  | .base _ => True
  | .classRef name args suffixes suffixArgs =>
      IsClassName name ∧ CanonicalArgs args ∧ (∀ suffix ∈ suffixes, IsIdentifier suffix) ∧
        suffixes.length = suffixArgs.length ∧ CanonicalArgLists suffixArgs
  | .typeVar name => IsIdentifier name
  | .array dims elem => 1 ≤ dims ∧ ¬ elem.IsArray ∧ elem.Canonical

/-- A type argument with the shape of one that was read. -/
def TypeArg.Canonical : TypeArg → Prop
  | .mk wildcard none => wildcard = .any
  | .mk wildcard (some type) => wildcard ≠ .any ∧ type.IsReference ∧ type.Canonical

/-- Type arguments that are all canonical. -/
def CanonicalArgs : List TypeArg → Prop
  | [] => True
  | arg :: args => arg.Canonical ∧ CanonicalArgs args

/-- Lists of type arguments that are all canonical. -/
def CanonicalArgLists : List (List TypeArg) → Prop
  | [] => True
  | args :: lists => CanonicalArgs args ∧ CanonicalArgLists lists

end

theorem canonicalArgs_iff {args : List TypeArg} :
    CanonicalArgs args ↔ ∀ arg ∈ args, arg.Canonical := by
  induction args with
  | nil => simp [CanonicalArgs]
  | cons arg args ih => rw [CanonicalArgs, ih, List.forall_mem_cons]

theorem canonicalArgLists_iff {lists : List (List TypeArg)} :
    CanonicalArgLists lists ↔ ∀ args ∈ lists, ∀ arg ∈ args, arg.Canonical := by
  induction lists with
  | nil => simp [CanonicalArgLists]
  | cons args lists ih => rw [CanonicalArgLists, ih, canonicalArgs_iff, List.forall_mem_cons]

theorem encodeArgs_eq (args : List TypeArg) : encodeArgs args = args.flatMap TypeArg.encode := by
  induction args with
  | nil => rfl
  | cons arg args ih => rw [encodeArgs, ih, List.flatMap_cons]

/-- The descriptor of a nested class. -/
def encodeSuffix (suffix : String × List TypeArg) : List Char :=
  '.' :: suffix.1.toList ++ bracketed suffix.2 (suffix.2.flatMap TypeArg.encode)

theorem encodeSuffixes_eq (names : List String) (lists : List (List TypeArg)) :
    encodeSuffixes names lists = (names.zip lists).flatMap encodeSuffix := by
  induction names generalizing lists with
  | nil => cases lists <;> simp [encodeSuffixes]
  | cons name names ih =>
      cases lists with
      | nil => simp [encodeSuffixes]
      | cons args lists =>
          rw [encodeSuffixes, ih, List.zip_cons_cons, List.flatMap_cons, encodeArgs_eq]
          rfl

/-! ## Spelling of types -/

namespace Grammar

theorem spelled_typeVar (name : String) :
    Spelled DerivesTypeVar TypeSig.Canonical TypeSig.encode (.typeVar name) := by
  intro text
  simp only [TypeSig.Canonical, TypeSig.encode]
  constructor
  · rintro ⟨⟩
    next text derives =>
      obtain ⟨valid, rfl⟩ := (spelled_identifier name _).mp derives
      exact ⟨valid, rfl⟩
  · rintro ⟨valid, rfl⟩
    exact .mk (.mk valid)

theorem spelled_suffix {suffix : String × List TypeArg}
    (args : ∀ arg ∈ suffix.2, Spelled DerivesArg TypeArg.Canonical TypeArg.encode arg) :
    Spelled DerivesSuffix (fun suffix => IsIdentifier suffix.1 ∧ ∀ arg ∈ suffix.2, arg.Canonical)
      encodeSuffix suffix := by
  intro text
  constructor
  · rintro ⟨name, bracketed⟩
    obtain ⟨valid, rfl⟩ := (spelled_identifier _ _).mp name
    obtain ⟨canonical, rfl⟩ := (spelled_bracketed _ args _).mp bracketed
    exact ⟨⟨valid, canonical⟩, rfl⟩
  · rintro ⟨⟨valid, canonical⟩, rfl⟩
    exact .mk (.mk valid) ((spelled_bracketed _ args _).mpr ⟨canonical, rfl⟩)

/-- The parts of a class name after the first one. -/
theorem spelled_parts (parts : List String) :
    Spelled (Repeats (Marked '/' DerivesIdentifier))
      (fun parts => ∀ part ∈ parts, IsIdentifier part)
      (fun parts => parts.flatMap fun part => '/' :: part.toList) parts :=
  spelled_repeats parts fun part _ => (spelled_identifier part).marked '/'

theorem spelled_classRef (name : String) {args : List TypeArg} (suffixes : List String)
    {suffixArgs : List (List TypeArg)}
    (spelledArgs : ∀ arg ∈ args, Spelled DerivesArg TypeArg.Canonical TypeArg.encode arg)
    (spelledLists : ∀ args ∈ suffixArgs, ∀ arg ∈ args,
      Spelled DerivesArg TypeArg.Canonical TypeArg.encode arg) :
    Spelled DerivesClassRef TypeSig.Canonical TypeSig.encode
      (.classRef name args suffixes suffixArgs) := by
  intro text
  simp only [TypeSig.Canonical, TypeSig.encode, canonicalArgs_iff, canonicalArgLists_iff,
    encodeArgs_eq, encodeSuffixes_eq]
  constructor
  · rintro ⟨⟩
    next outerText partsText argsText suffixesText outer parts pairs outerOk partsOk pairsOk
        argsOk =>
      have spelledPairs : ∀ pair ∈ pairs, Spelled DerivesSuffix _ encodeSuffix pair :=
        fun pair member => spelled_suffix (spelledLists pair.2 (List.mem_map_of_mem member))
      obtain ⟨first, rfl⟩ := (spelled_identifier outer _).mp outerOk
      obtain ⟨others, rfl⟩ := (spelled_parts parts _).mp partsOk
      obtain ⟨canonical, rfl⟩ := (spelled_bracketed _ spelledArgs _).mp argsOk
      obtain ⟨valid, rfl⟩ := (spelled_repeats _ spelledPairs _).mp pairsOk
      refine ⟨⟨?_, canonical, ?_, ?_, ?_⟩, ?_⟩
      · exact ⟨outer :: parts, List.cons_ne_nil _ _, List.forall_mem_cons.mpr ⟨first, others⟩, rfl⟩
      · exact List.forall_mem_map.mpr fun pair member => (valid pair member).1
      · rw [List.length_map, List.length_map]
      · exact List.forall_mem_map.mpr fun pair member => (valid pair member).2
      · have zipped : pairs = (pairs.map Prod.fst).zip (pairs.map Prod.snd) :=
          List.zip_of_prod rfl rfl
        rw [slashed_intercalate first others, ← zipped]
        rfl
  · rintro ⟨⟨⟨parts, some, valid, rfl⟩, canonical, names, lengths, lists⟩, rfl⟩
    obtain ⟨outer, parts, rfl⟩ := List.exists_cons_of_ne_nil some
    obtain ⟨first, others⟩ := List.forall_mem_cons.mp valid
    -- names and arguments have one length, so no nested class is lost in the pairs
    have spelledPairs : ∀ pair ∈ suffixes.zip suffixArgs,
        Spelled DerivesSuffix _ encodeSuffix pair := fun pair member =>
      spelled_suffix (spelledLists pair.2 (List.of_mem_zip member).2)
    have canonicalPairs : ∀ pair ∈ suffixes.zip suffixArgs,
        IsIdentifier pair.1 ∧ ∀ arg ∈ pair.2, arg.Canonical := fun pair member =>
      ⟨names pair.1 (List.of_mem_zip member).1, lists pair.2 (List.of_mem_zip member).2⟩
    have derives := DerivesClassRef.mk (.mk first) ((spelled_parts parts _).mpr ⟨others, rfl⟩)
      ((spelled_bracketed _ spelledArgs _).mpr ⟨canonical, rfl⟩)
      ((spelled_repeats _ spelledPairs _).mpr ⟨canonicalPairs, rfl⟩)
    rw [List.map_fst_zip (Nat.le_of_eq lengths), List.map_snd_zip (Nat.le_of_eq lengths.symm)]
      at derives
    rw [slashed_intercalate first others]
    simpa using derives

theorem spelled_type_of_reference {tree : TypeSig}
    (spelled : Spelled DerivesReference (fun tree => tree.IsReference ∧ tree.Canonical)
      TypeSig.encode tree) : Spelled DerivesType TypeSig.Canonical TypeSig.encode tree := by
  intro text
  constructor
  · rintro ⟨⟩
    · next code type member =>
        obtain rfl := BaseType.code_of_ofCode? (mem_primitives_iff.mp member)
        simp [TypeSig.Canonical, TypeSig.encode]
    · next derives =>
        obtain ⟨⟨_, canonical⟩, rfl⟩ := (spelled text).mp derives
        exact ⟨canonical, rfl⟩
  · rintro ⟨canonical, rfl⟩
    cases tree with
    | base type =>
        rw [TypeSig.encode]
        exact .primitive (mem_primitives_iff.mpr (BaseType.ofCode?_code type))
    | classRef => exact .reference ((spelled _).mpr ⟨⟨trivial, canonical⟩, rfl⟩)
    | typeVar => exact .reference ((spelled _).mpr ⟨⟨trivial, canonical⟩, rfl⟩)
    | array => exact .reference ((spelled _).mpr ⟨⟨trivial, canonical⟩, rfl⟩)

/-- Only the descriptors of arrays start with a bracket. -/
theorem encode_head_iff {tree : TypeSig} (canonical : tree.Canonical) :
    tree.encode.head? = some '[' ↔ tree.IsArray := by
  cases tree with
  | base type => cases type <;> simp [TypeSig.encode, TypeSig.IsArray, BaseType.code]
  | classRef => simp [TypeSig.encode, TypeSig.IsArray]
  | typeVar => simp [TypeSig.encode, TypeSig.IsArray]
  | array dims elem =>
      rw [TypeSig.Canonical] at canonical
      obtain ⟨k, positive⟩ : ∃ k, dims.toNat = k + 1 := ⟨dims.toNat - 1, by omega⟩
      simp [TypeSig.encode, TypeSig.IsArray, positive, List.replicate_succ]

theorem spelled_array {dims : Int} {elem : TypeSig}
    (spelled : Spelled DerivesType TypeSig.Canonical TypeSig.encode elem) :
    Spelled DerivesReference (fun tree => tree.IsReference ∧ tree.Canonical) TypeSig.encode
      (.array dims elem) := by
  intro text
  simp only [TypeSig.IsReference, TypeSig.Canonical, TypeSig.encode, true_and]
  constructor
  · rintro ⟨⟩
    · next derives => cases derives
    · next derives => cases derives
    · next dims text positive single derives =>
        obtain ⟨canonical, rfl⟩ := (spelled _).mp derives
        refine ⟨⟨by omega, ?_, canonical⟩, rfl⟩
        -- an element that is an array would start with a bracket of its own
        exact fun array => single ((encode_head_iff canonical).mpr array)
  · rintro ⟨⟨positive, other, canonical⟩, rfl⟩
    have some : 0 < dims.toNat := by omega
    have derives := DerivesReference.array some ((spelled _).mpr ⟨canonical, rfl⟩)
      fun head => other ((encode_head_iff canonical).mp head)
    rwa [Int.toNat_of_nonneg (by omega)] at derives

theorem spelled_bare (wildcard : Wildcard) :
    Spelled DerivesArg TypeArg.Canonical TypeArg.encode (.mk wildcard none) := by
  intro text
  simp only [TypeArg.Canonical, TypeArg.encode]
  constructor
  · rintro ⟨⟩
    exact ⟨rfl, rfl⟩
  · rintro ⟨rfl, rfl⟩
    exact .any

theorem spelled_bound (wildcard : Wildcard) {type : TypeSig}
    (spelled : Spelled DerivesReference (fun tree => tree.IsReference ∧ tree.Canonical)
      TypeSig.encode type) :
    Spelled DerivesArg TypeArg.Canonical TypeArg.encode (.mk wildcard (some type)) := by
  intro text
  simp only [TypeArg.Canonical, TypeArg.encode]
  constructor
  · rintro ⟨⟩ <;>
    · next derives =>
        obtain ⟨canonical, rfl⟩ := (spelled _).mp derives
        exact ⟨⟨nofun, canonical⟩, rfl⟩
  · rintro ⟨⟨other, canonical⟩, rfl⟩
    have derives := (spelled _).mpr ⟨canonical, rfl⟩
    cases wildcard with
    | exactly => exact .exactly derives
    | any => exact absurd rfl other
    | upper => exact .upper derives
    | lower => exact .lower derives

mutual

theorem spelled_reference : (tree : TypeSig) →
    Spelled DerivesReference (fun tree => tree.IsReference ∧ tree.Canonical) TypeSig.encode tree
  | .base type => by
      intro text
      constructor
      · rintro ⟨⟩
        · next derives => cases derives
        · next derives => cases derives
      · rintro ⟨⟨reference, _⟩, _⟩
        cases reference
  | .classRef name args suffixes suffixArgs => by
      have spelled := spelled_classRef name suffixes (spelled_args args)
        (spelled_argLists suffixArgs)
      intro text
      constructor
      · rintro ⟨⟩
        · next derives =>
            obtain ⟨canonical, rfl⟩ := (spelled _).mp derives
            exact ⟨⟨trivial, canonical⟩, rfl⟩
        · next derives => cases derives
      · rintro ⟨⟨_, canonical⟩, rfl⟩
        exact .classRef ((spelled _).mpr ⟨canonical, rfl⟩)
  | .typeVar name => by
      intro text
      constructor
      · rintro ⟨⟩
        · next derives => cases derives
        · next derives =>
            obtain ⟨canonical, rfl⟩ := (spelled_typeVar name _).mp derives
            exact ⟨⟨trivial, canonical⟩, rfl⟩
      · rintro ⟨⟨_, canonical⟩, rfl⟩
        exact .typeVar ((spelled_typeVar name _).mpr ⟨canonical, rfl⟩)
  | .array dims elem => spelled_array (spelled_type_of_reference (spelled_reference elem))

theorem spelled_arg : (arg : TypeArg) →
    Spelled DerivesArg TypeArg.Canonical TypeArg.encode arg
  | .mk wildcard none => spelled_bare wildcard
  | .mk wildcard (some type) => spelled_bound wildcard (spelled_reference type)

theorem spelled_args : (args : List TypeArg) → ∀ arg ∈ args,
    Spelled DerivesArg TypeArg.Canonical TypeArg.encode arg
  | [] => nofun
  | arg :: args => List.forall_mem_cons.mpr ⟨spelled_arg arg, spelled_args args⟩

theorem spelled_argLists : (lists : List (List TypeArg)) → ∀ args ∈ lists, ∀ arg ∈ args,
    Spelled DerivesArg TypeArg.Canonical TypeArg.encode arg
  | [] => nofun
  | args :: lists => List.forall_mem_cons.mpr ⟨spelled_args args, spelled_argLists lists⟩

end

theorem spelled_type (tree : TypeSig) :
    Spelled DerivesType TypeSig.Canonical TypeSig.encode tree :=
  spelled_type_of_reference (spelled_reference tree)

theorem spelled_class_of_reference (tree : TypeSig) :
    Spelled DerivesClassRef (fun tree => tree.IsClass ∧ tree.Canonical) TypeSig.encode tree := by
  intro text
  constructor
  · intro derives
    have isClass : tree.IsClass := by
      obtain ⟨_, _, _, _⟩ := derives
      trivial
    obtain ⟨⟨_, canonical⟩, written⟩ := (spelled_reference tree text).mp (.classRef derives)
    exact ⟨⟨isClass, canonical⟩, written⟩
  · rintro ⟨⟨isClass, canonical⟩, rfl⟩
    cases tree with
    | classRef name args suffixes suffixArgs =>
        exact (spelled_classRef name suffixes (spelled_args args) (spelled_argLists suffixArgs)
          _).mpr ⟨canonical, rfl⟩
    | base => cases isClass
    | typeVar => cases isClass
    | array => cases isClass

theorem spelled_thrown (tree : TypeSig) :
    Spelled DerivesThrown (fun tree => tree.IsThrowable ∧ tree.Canonical) TypeSig.encode tree := by
  intro text
  constructor
  · rintro ⟨⟩
    · next derives =>
        obtain ⟨⟨isClass, canonical⟩, rfl⟩ := (spelled_class_of_reference tree text).mp derives
        cases tree with
        | classRef => exact ⟨⟨trivial, canonical⟩, rfl⟩
        | base => cases isClass
        | typeVar => cases isClass
        | array => cases isClass
    · next derives =>
        have throwable : tree.IsThrowable := by
          obtain ⟨_⟩ := derives
          trivial
        obtain ⟨⟨_, canonical⟩, written⟩ := (spelled_reference tree text).mp (.typeVar derives)
        exact ⟨⟨throwable, canonical⟩, written⟩
  · rintro ⟨⟨throwable, canonical⟩, rfl⟩
    cases tree with
    | classRef =>
        exact .classRef ((spelled_class_of_reference _ _).mpr ⟨⟨trivial, canonical⟩, rfl⟩)
    | typeVar name => exact .typeVar ((spelled_typeVar name _).mpr ⟨canonical, rfl⟩)
    | base => cases throwable
    | array => cases throwable

end Grammar

/-! ## Declarations -/

/-- A type parameter with the shape of one that was read. -/
def TypeParam.Canonical (param : TypeParam) : Prop :=
  IsIdentifier param.name ∧
    (∀ bound ∈ param.bound, bound.IsReference ∧ bound.Canonical) ∧
    ∀ iface ∈ param.ifaces, iface.IsReference ∧ iface.Canonical

/-- Type parameters with the shape of a list that was read: only the last one may be without
bounds. -/
def CanonicalParams (params : List TypeParam) : Prop :=
  (∀ param ∈ params, param.Canonical) ∧ BoundedBeforeLast params

/-- A method signature with the shape of one that was read. -/
def MethodSig.Canonical (sig : MethodSig) : Prop :=
  CanonicalParams sig.tparams ∧ (∀ param ∈ sig.params, param.Canonical) ∧ sig.result.Canonical ∧
    ∀ thrown ∈ sig.throws, thrown.IsThrowable ∧ thrown.Canonical

/-- A class signature with the shape of one that was read. -/
def ClassSig.Canonical (sig : ClassSig) : Prop :=
  CanonicalParams sig.tparams ∧ (sig.super.IsClass ∧ sig.super.Canonical) ∧
    ∀ iface ∈ sig.ifaces, iface.IsClass ∧ iface.Canonical

namespace Grammar

theorem spelled_param (param : TypeParam) :
    Spelled DerivesParam TypeParam.Canonical TypeParam.encode param := by
  have bounds := spelled_optional param.bound fun bound _ => spelled_reference bound
  have ifaces := spelled_repeats param.ifaces fun iface _ =>
    (spelled_reference iface).marked ':'
  intro text
  constructor
  · rintro ⟨name, boundOk, ifacesOk⟩
    obtain ⟨valid, rfl⟩ := (spelled_identifier _ _).mp name
    obtain ⟨canonicalBound, rfl⟩ := (bounds _).mp boundOk
    obtain ⟨canonicalIfaces, rfl⟩ := (ifaces _).mp ifacesOk
    exact ⟨⟨valid, canonicalBound, canonicalIfaces⟩, rfl⟩
  · rintro ⟨⟨valid, canonicalBound, canonicalIfaces⟩, rfl⟩
    exact .mk (.mk valid) ((bounds _).mpr ⟨canonicalBound, rfl⟩)
      ((ifaces _).mpr ⟨canonicalIfaces, rfl⟩)

theorem spelled_params (params : List TypeParam) :
    Spelled DerivesParams CanonicalParams encodeParams params := by
  have bracketed := spelled_bracketed params fun param _ => spelled_param param
  intro text
  constructor
  · rintro ⟨listed, bounded⟩
    obtain ⟨canonical, rfl⟩ := (bracketed _).mp listed
    exact ⟨⟨canonical, bounded⟩, rfl⟩
  · rintro ⟨⟨canonical, bounded⟩, rfl⟩
    exact .mk ((bracketed _).mpr ⟨canonical, rfl⟩) bounded

theorem spelled_method (sig : MethodSig) :
    Spelled DerivesMethod MethodSig.Canonical MethodSig.encode sig := by
  have params := spelled_repeats sig.params fun param _ => spelled_type param
  have throws := spelled_repeats sig.throws fun thrown _ =>
    (spelled_thrown thrown).marked '^'
  intro text
  constructor
  · rintro ⟨tparamsOk, paramsOk, resultOk, throwsOk⟩
    obtain ⟨canonicalTparams, rfl⟩ := (spelled_params _ _).mp tparamsOk
    obtain ⟨canonicalParams, rfl⟩ := (params _).mp paramsOk
    obtain ⟨canonicalResult, rfl⟩ := (spelled_type _ _).mp resultOk
    obtain ⟨canonicalThrows, rfl⟩ := (throws _).mp throwsOk
    exact ⟨⟨canonicalTparams, canonicalParams, canonicalResult, canonicalThrows⟩, rfl⟩
  · rintro ⟨⟨canonicalTparams, canonicalParams, canonicalResult, canonicalThrows⟩, rfl⟩
    exact .mk ((spelled_params _ _).mpr ⟨canonicalTparams, rfl⟩)
      ((params _).mpr ⟨canonicalParams, rfl⟩) ((spelled_type _ _).mpr ⟨canonicalResult, rfl⟩)
      ((throws _).mpr ⟨canonicalThrows, rfl⟩)

theorem spelled_class (sig : ClassSig) :
    Spelled DerivesClass ClassSig.Canonical ClassSig.encode sig := by
  have ifaces := spelled_repeats sig.ifaces fun iface _ =>
    spelled_class_of_reference iface
  intro text
  constructor
  · rintro ⟨tparamsOk, superOk, ifacesOk⟩
    obtain ⟨canonicalTparams, rfl⟩ := (spelled_params _ _).mp tparamsOk
    obtain ⟨canonicalSuper, rfl⟩ := (spelled_class_of_reference _ _).mp superOk
    obtain ⟨canonicalIfaces, rfl⟩ := (ifaces _).mp ifacesOk
    exact ⟨⟨canonicalTparams, canonicalSuper, canonicalIfaces⟩, rfl⟩
  · rintro ⟨⟨canonicalTparams, canonicalSuper, canonicalIfaces⟩, rfl⟩
    exact .mk ((spelled_params _ _).mpr ⟨canonicalTparams, rfl⟩)
      ((spelled_class_of_reference _ _).mpr ⟨canonicalSuper, rfl⟩)
      ((ifaces _).mpr ⟨canonicalIfaces, rfl⟩)

end Grammar

/-! ## Round trips -/

theorem Grammar.Spelled.written {α : Type} {L : Language α} {Kind : α → Prop}
    {encode : α → List Char} {tree : α} {text : String} (spelled : Spelled L Kind encode tree)
    (derives : L text.toList tree) : String.ofList (encode tree) = text := by
  rw [← ((spelled _).mp derives).2, String.ofList_toList]

theorem Grammar.Spelled.derives_iff {α : Type} {L : Language α} {Kind : α → Prop}
    {encode : α → List Char} {tree : α} (spelled : Spelled L Kind encode tree) :
    L (String.ofList (encode tree)).toList tree ↔ Kind tree := by
  rw [String.toList_ofList, spelled]
  exact and_iff_left rfl

theorem MethodSig.canonical_of_parse {limit : Nat} {text : String} {tree : MethodSig}
    {names : List String} (read : MethodSig.parse limit text = .ok (tree, names)) :
    tree.Canonical :=
  ((spelled_method tree _).mp (decides_methodOnly.derives read)).1

theorem ClassSig.canonical_of_parse {limit : Nat} {text : String} {tree : ClassSig}
    {names : List String} (read : ClassSig.parse limit text = .ok (tree, names)) :
    tree.Canonical :=
  ((spelled_class tree _).mp (decides_classOnly.derives read)).1

/-- Nothing in a text is lost or changed by parsing it: the descriptor of the tree is the text.  The
contexts of a method are the classes of the session (`ClassInfo`), and no others are modelled. -/
theorem descriptor_of_parsed (session : Session) (text : String) :
    (∀ tree, (SessionM.parseType text).Returns session tree → tree.descriptor = text) ∧
    (∀ context tree, (SessionM.parseMethod text context).Returns session tree →
      tree.descriptor = text) ∧
    (∀ tree, (SessionM.parseClass text).Returns session tree → tree.descriptor = text) := by
  refine ⟨?_, ?_, ?_⟩
  · rintro tree ⟨id, after, answers⟩
    obtain ⟨limit, names, parsed⟩ := SessionM.read_of_parseType answers
    exact (spelled_type tree).written (decides_typeOnly.derives parsed)
  · rintro context tree ⟨id, after, answers⟩
    obtain ⟨limit, names, parsed⟩ := SessionM.read_of_parseMethod answers
    exact (spelled_method tree).written (decides_methodOnly.derives parsed)
  · rintro tree ⟨id, after, answers⟩
    obtain ⟨limit, names, parsed⟩ := SessionM.read_of_parseClass answers
    exact (spelled_class tree).written (decides_classOnly.derives parsed)

theorem descriptor_of_parsed_at_start :
    (SessionM.parseType "[I").Returns (Session.start .empty) (.array 1 (.base .int)) ∧
      TypeSig.descriptor (.array 1 (.base .int)) = "[I" := by
  have returns : (SessionM.parseType "[I").Returns (Session.start .empty)
      (.array 1 (.base .int)) := ⟨⟨0⟩, _, rfl⟩
  exact ⟨returns, (descriptor_of_parsed (Session.start .empty) "[I").1 _ returns⟩

/-- Parsing the descriptor of a tree, built in any way, gives the tree back exactly if the tree is
canonical.  The context of a method is a class of the session or none. -/
theorem reparses_iff_canonical {session : Session} {settings : Settings} (fresh : session.Fresh)
    (valid : session.inForce = .valid settings) :
    (∀ tree : TypeSig, tree.descriptor.length ≤ settings.maxLength →
      ((SessionM.parseType tree.descriptor).Returns session tree ↔ tree.Canonical)) ∧
    (∀ (context : Option ClassId) (sig : MethodSig), session.ContextReads settings context →
      sig.descriptor.length ≤ settings.maxLength →
      ((SessionM.parseMethod sig.descriptor context).Returns session sig ↔ sig.Canonical)) ∧
    (∀ sig : ClassSig, sig.descriptor.length ≤ settings.maxLength →
      ((SessionM.parseClass sig.descriptor).Returns session sig ↔ sig.Canonical)) := by
  refine ⟨?_, ?_, ?_⟩
  · intro tree short
    rw [(exact_parseType valid short).returns_iff]
    exact (spelled_type tree).derives_iff
  · intro context sig reads short
    rw [(exact_parseMethod fresh valid short reads).returns_iff]
    exact (spelled_method sig).derives_iff
  · intro sig short
    rw [(exact_parseClass fresh valid short).returns_iff]
    exact (spelled_class sig).derives_iff

theorem reparses_iff_canonical_at_start :
    (SessionM.parseType "[[I").Returns (Session.start .empty) (.array 2 (.base .int)) ∧
      ¬ (SessionM.parseType "[[I").Returns (Session.start .empty)
        (.array 1 (.array 1 (.base .int))) := by
  have types := (reparses_iff_canonical (Session.fresh_start .empty) inForce_start).1
  constructor
  · exact (types (.array 2 (.base .int)) (by decide)).mpr
      (by simp [TypeSig.Canonical, TypeSig.IsArray])
  · exact mt (types (.array 1 (.array 1 (.base .int))) (by decide)).mp
      (by simp [TypeSig.Canonical, TypeSig.IsArray])

end GenericSignature
