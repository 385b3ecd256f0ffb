import GenericSignature.Proofs.Documents

/-!
# Which documents are accepted

A document is checked for its shape first, and then its descriptor is parsed.

1. `Json.DescribesMethod` says what shape a document has to have, without a word about how it is
   checked: which members there have to be, which there may be, and of which kind each one is.
2. A check is passed exactly by the values of the kind that it checks, from texts and lists
   (`Json.passes_asList`) over members (`Json.passes_required`, `Json.passes_optional`) to whole
   documents (`MethodSummary.ofJson_iff`).
3. So a document of that shape stands for its descriptor, whatever else it holds, and any other
   document is refused before its descriptor is looked at (`documents_stand_for_descriptors`).
-/

namespace GenericSignature

/-! ## Shapes -/

namespace Json

/-- The value is a text. -/
def IsText (value : Json) : Prop := ∃ text, value = .str text

/-- The value is null or a text. -/
def IsTextOrNull (value : Json) : Prop := value = .null ∨ value.IsText

/-- The value is a list with items of one kind. -/
def IsListOf (Item : Json → Prop) (value : Json) : Prop :=
  ∃ items, value = .arr items ∧ ∀ item ∈ items, Item item

/-- There is a member with the name, and it is of the kind. -/
def Has (members : List (String × Json)) (name : String) (Kind : Json → Prop) : Prop :=
  ∃ value, member? members name = some value ∧ Kind value

/-- If there is a member with the name, it is of the kind. -/
def MayHave (members : List (String × Json)) (name : String) (Kind : Json → Prop) : Prop :=
  ∀ value, member? members name = some value → Kind value

/-- The members of an object that stands for a type parameter. -/
structure ParamMembers (members : List (String × Json)) : Prop where
  name : Has members "name" IsText
  bound : MayHave members "class_bound" IsTextOrNull
  ifaces : MayHave members "interface_bounds" (IsListOf IsText)

/-- The value is an object that stands for a type parameter. -/
def IsParam (value : Json) : Prop := ∃ members, value = .obj members ∧ ParamMembers members

/-- The members of an object that stands for a method. -/
structure MethodMembers (members : List (String × Json)) : Prop where
  descriptor : Has members "descriptor" IsText
  display : Has members "display" IsText
  tparams : MayHave members "type_parameters" (IsListOf IsParam)
  params : MayHave members "parameter_types" (IsListOf IsText)
  result : Has members "result_type" IsText
  throws : MayHave members "throws" (IsListOf IsText)
  classes : MayHave members "referenced_classes" (IsListOf IsText)

/-- The document has the shape of a method, with this descriptor. -/
def DescribesMethod (document : Json) (descriptor : String) : Prop :=
  ∃ members, document = .obj members ∧ MethodMembers members ∧
    member? members "descriptor" = some (.str descriptor)

end Json

/-! ## Checks -/

namespace Validated

variable {α β : Type}

/-- The value passed the check. -/
def Passes (checked : Validated α) : Prop := ∃ value, checked = .valid value

theorem map_eq_valid {f : α → β} {checked : Validated α} {value : β} :
    f <$> checked = .valid value ↔ ∃ part, checked = .valid part ∧ f part = value := by
  cases checked with
  | valid part => simp
  | invalid issues => exact ⟨nofun, nofun⟩

theorem seq_eq_valid {first : Validated (α → β)} {second : Validated α} {value : β} :
    first <*> second = .valid value ↔
      ∃ f part, first = .valid f ∧ second = .valid part ∧ f part = value := by
  cases first with
  | valid f =>
      cases second with
      | valid part => simp
      | invalid issues => exact ⟨nofun, nofun⟩
  | invalid issues => cases second <;> exact ⟨nofun, nofun⟩

theorem under_eq_valid {name : String} {checked : Validated α} {value : α} :
    checked.under name = .valid value ↔ checked = .valid value := by
  cases checked with
  | valid part => rfl
  | invalid issues => exact ⟨nofun, nofun⟩

theorem passes_map {f : α → β} {checked : Validated α} :
    (f <$> checked).Passes ↔ checked.Passes := by
  simp only [Passes, map_eq_valid]
  exact ⟨fun ⟨_, part, passed, _⟩ => ⟨part, passed⟩,
    fun ⟨part, passed⟩ => ⟨_, part, passed, rfl⟩⟩

theorem passes_seq {first : Validated (α → β)} {second : Validated α} :
    (first <*> second).Passes ↔ first.Passes ∧ second.Passes := by
  simp only [Passes, seq_eq_valid]
  constructor
  · intro ⟨_, f, part, function, argument, _⟩
    exact ⟨⟨f, function⟩, part, argument⟩
  · intro ⟨⟨f, function⟩, part, argument⟩
    exact ⟨_, f, part, function, argument, rfl⟩

theorem passes_under {name : String} {checked : Validated α} :
    (checked.under name).Passes ↔ checked.Passes := by
  simp only [Passes, under_eq_valid]

theorem passes_valid (value : α) : (valid value).Passes := ⟨value, rfl⟩

/-- A list passes if all its items do. -/
theorem passes_items {check : α → Validated β} {values : List α} :
    (items check values).Passes ↔ ∀ value ∈ values, (check value).Passes := by
  -- the numbers of the items lead to their issues only, so any names do
  have named : ∀ name : Nat → String,
      ((values.mapIdx fun i value => (check value).under (name i)).foldr
        (fun head tail => List.cons <$> head <*> tail) (valid [])).Passes ↔
        ∀ value ∈ values, (check value).Passes := by
    induction values with
    | nil => exact fun _ => ⟨nofun, fun _ => passes_valid []⟩
    | cons value values ih =>
        intro name
        rw [List.mapIdx_cons, List.foldr_cons, passes_seq, passes_map, passes_under,
          ih fun i => name (i + 1), List.forall_mem_cons]
  exact named toString

end Validated

open Validated

namespace Json

variable {α : Type} {members : List (String × Json)} {name : String} {value : Json}
  {check : Json → Validated α} {Kind : Json → Prop}

theorem passes_asText : value.asText.Passes ↔ value.IsText := by
  cases value with
  | str text => exact ⟨fun _ => ⟨text, rfl⟩, fun _ => passes_valid text⟩
  | _ => exact ⟨nofun, nofun⟩

theorem passes_asOptionalText : value.asOptionalText.Passes ↔ value.IsTextOrNull := by
  cases value with
  | null => exact ⟨fun _ => .inl rfl, fun _ => passes_valid none⟩
  | str text => exact ⟨fun _ => .inr ⟨text, rfl⟩, fun _ => passes_valid (some text)⟩
  | _ => exact ⟨nofun, nofun⟩

theorem passes_asList (item : ∀ {value}, (check value).Passes ↔ Kind value) :
    (value.asList check).Passes ↔ value.IsListOf Kind := by
  cases value with
  | arr items =>
      unfold asList IsListOf
      rw [passes_items]
      simp [item]
  | _ => exact ⟨nofun, nofun⟩

theorem passes_required (kind : ∀ {value}, (check value).Passes ↔ Kind value) :
    (required members name check).Passes ↔ Has members name Kind := by
  unfold required Has
  cases member? members name with
  | none => exact ⟨nofun, nofun⟩
  | some value => simp [passes_under, kind]

theorem required_asText_eq_valid {text : String} :
    required members name asText = .valid text ↔ member? members name = some (.str text) := by
  unfold required
  cases member? members name with
  | none => exact ⟨nofun, nofun⟩
  | some value =>
      rw [under_eq_valid, Option.some.injEq]
      cases value <;> simp [asText, problem]

theorem passes_optional (kind : ∀ {value}, (check value).Passes ↔ Kind value) {otherwise : α} :
    (optional members name check otherwise).Passes ↔ MayHave members name Kind := by
  unfold optional MayHave
  cases member? members name with
  | none => exact ⟨nofun, fun _ => passes_valid otherwise⟩
  | some value => simp [passes_under, kind]

end Json

theorem ParamSummary.passes_ofJson {value : Json} : (ofJson value).Passes ↔ value.IsParam := by
  cases value with
  | obj members =>
      have shape : (ofJson (.obj members)).Passes ↔ Json.ParamMembers members := by
        unfold ofJson
        simp only [passes_seq, passes_map, Json.passes_required Json.passes_asText,
          Json.passes_optional Json.passes_asOptionalText,
          Json.passes_optional (Json.passes_asList Json.passes_asText)]
        exact ⟨fun ⟨⟨name, bound⟩, ifaces⟩ => ⟨name, bound, ifaces⟩,
          fun ⟨name, bound, ifaces⟩ => ⟨⟨name, bound⟩, ifaces⟩⟩
      rw [shape]
      constructor
      · exact fun named => ⟨members, rfl, named⟩
      · rintro ⟨_, ⟨rfl⟩, named⟩
        exact named
  | _ => exact ⟨nofun, nofun⟩

namespace MethodSummary

theorem passes_ofJson {members : List (String × Json)} :
    (ofJson (.obj members)).Passes ↔ Json.MethodMembers members := by
  unfold ofJson
  simp only [passes_seq, passes_map, Json.passes_required Json.passes_asText,
    Json.passes_optional (Json.passes_asList Json.passes_asText),
    Json.passes_optional (Json.passes_asList ParamSummary.passes_ofJson)]
  constructor
  · intro ⟨⟨⟨⟨⟨⟨descriptor, display⟩, tparams⟩, params⟩, result⟩, throws⟩, classes⟩
    exact ⟨descriptor, display, tparams, params, result, throws, classes⟩
  · intro ⟨descriptor, display, tparams, params, result, throws, classes⟩
    exact ⟨⟨⟨⟨⟨⟨descriptor, display⟩, tparams⟩, params⟩, result⟩, throws⟩, classes⟩

/-- The descriptor of a summary is the member with that name. -/
theorem descriptor_of_ofJson {members : List (String × Json)} {summary : MethodSummary}
    (accepted : ofJson (.obj members) = .valid summary) :
    Json.member? members "descriptor" = some (.str summary.descriptor) := by
  unfold ofJson at accepted
  simp only [seq_eq_valid, map_eq_valid] at accepted
  -- the descriptor is checked first, so it stands innermost
  obtain ⟨_, _, ⟨_, _, ⟨_, _, ⟨_, _, ⟨_, _, ⟨_, _, ⟨descriptor, found, rfl⟩, _, rfl⟩, _, rfl⟩,
    _, rfl⟩, _, rfl⟩, _, rfl⟩, _, rfl⟩ := accepted
  exact Json.required_asText_eq_valid.mp found

/-- A document passes its check exactly if it has the shape of a method, and its descriptor is
kept. -/
theorem ofJson_iff {document : Json} {descriptor : String} :
    (∃ summary, ofJson document = .valid summary ∧ summary.descriptor = descriptor) ↔
      document.DescribesMethod descriptor := by
  cases document with
  | obj members =>
      constructor
      · rintro ⟨summary, accepted, rfl⟩
        exact ⟨members, rfl, passes_ofJson.mp ⟨summary, accepted⟩, descriptor_of_ofJson accepted⟩
      · rintro ⟨_, ⟨rfl⟩, shape, named⟩
        obtain ⟨summary, accepted⟩ := passes_ofJson.mpr shape
        have same := (descriptor_of_ofJson accepted).symm.trans named
        exact ⟨summary, accepted, Json.str.inj (Option.some.inj same)⟩
  | _ => exact ⟨nofun, nofun⟩

theorem ofJson_invalid_iff {document : Json} :
    (∃ issues, ofJson document = .invalid issues) ↔
      ∀ descriptor, ¬ document.DescribesMethod descriptor := by
  constructor
  · rintro ⟨issues, refused⟩ descriptor described
    obtain ⟨summary, accepted, _⟩ := ofJson_iff.mpr described
    cases refused.symm.trans accepted
  · intro misshapen
    cases checked : ofJson document with
    | valid summary => exact absurd (ofJson_iff.mp ⟨summary, checked, rfl⟩) (misshapen _)
    | invalid issues => exact ⟨issues, rfl⟩

end MethodSummary

/-! ## Import -/

namespace SessionM

variable {session : Session} {settings : Settings} {document : Json} {descriptor : String}

/-- A document with the shape of a method is as good as its descriptor, except that a grammar error
becomes an error of the document. -/
theorem outcome_importJson (described : document.DescribesMethod descriptor) (session : Session) :
    (importJson document).outcome session =
      match (parseMethod descriptor none).outcome session with
      | (.error (.grammar error), after) => (.error (.document (.badDescriptor error)), after)
      | (answer, after) => (answer, after) := by
  obtain ⟨summary, accepted, rfl⟩ := MethodSummary.ofJson_iff.mpr described
  unfold importJson
  rw [accepted]
  show (tryGrammar (parseMethod summary.descriptor none) >>= _).outcome session = _
  rw [outcome_bind, outcome_tryGrammar]
  rcases (parseMethod summary.descriptor none).outcome session with ⟨failure | sig, after⟩
  · cases failure <;> rfl
  · rfl

/-- A document of another shape is refused, and nothing has happened in the session. -/
theorem importJson_invalid {issues : List Issue}
    (refused : MethodSummary.ofJson document = .invalid issues) :
    (importJson document).Fails session (.document (.badShape issues)) session := by
  unfold Fails importJson
  rw [refused]
  rfl

/-- Importing the document fails with an error of the document. -/
def Rejects (document : Json) (session : Session) (error : DocumentError) : Prop :=
  ∃ after, (importJson document).Fails session (.document error) after

/-- What importing a document of the right shape comes to is decided by its descriptor. -/
theorem importJson_of_describes (fresh : session.Fresh) (valid : session.inForce = .valid settings)
    (described : document.DescribesMethod descriptor) :
    (∀ tree, (importJson document).Returns session tree ↔
      (parseMethod descriptor none).Returns session tree) ∧
    (∀ error, Rejects document session error ↔
      ∃ cause, (parseMethod descriptor none).Refuses session cause ∧
        error = .badDescriptor cause) ∧
    ((∃ tree, (parseMethod descriptor none).Returns session tree) ∨
      ∃ cause, (parseMethod descriptor none).Refuses session cause) := by
  have alone : session.ContextReads settings none := nofun
  obtain ⟨id, after, given⟩ := outcome_parseMethod fresh valid alone descriptor
  have imported := outcome_importJson described session
  simp only [returns_iff_read given, refuses_iff_read given]
  rw [given] at imported
  unfold Returns Rejects Answers Fails
  rw [imported]
  rcases MethodSig.parse settings.maxLength descriptor with error | ⟨tree, names⟩
  · simp [answerOf, eq_comm]
  · simp [answerOf, eq_comm]

theorem importJson_returns_iff (fresh : session.Fresh) (valid : session.inForce = .valid settings)
    {tree : MethodSig} :
    (importJson document).Returns session tree ↔ ∃ descriptor,
      document.DescribesMethod descriptor ∧ (parseMethod descriptor none).Returns session tree := by
  constructor
  · rintro ⟨id, after, answers⟩
    cases checked : MethodSummary.ofJson document with
    | invalid issues => cases answers.symm.trans (importJson_invalid checked)
    | valid summary =>
        have described := MethodSummary.ofJson_iff.mp ⟨summary, checked, rfl⟩
        have returns := (importJson_of_describes fresh valid described).1 tree
        exact ⟨_, described, returns.mp ⟨id, after, answers⟩⟩
  · rintro ⟨descriptor, described, returns⟩
    exact ((importJson_of_describes fresh valid described).1 tree).mpr returns

/-- A document is rejected for its shape or else for its descriptor. -/
theorem rejects_iff (fresh : session.Fresh) (valid : session.inForce = .valid settings)
    {error : DocumentError} :
    Rejects document session error ↔
      (∃ issues, MethodSummary.ofJson document = .invalid issues ∧ error = .badShape issues) ∨
      ∃ descriptor cause, document.DescribesMethod descriptor ∧
        (parseMethod descriptor none).Refuses session cause ∧ error = .badDescriptor cause := by
  constructor
  · rintro ⟨after, fails⟩
    cases checked : MethodSummary.ofJson document with
    | invalid issues =>
        cases fails.symm.trans (importJson_invalid checked)
        exact .inl ⟨issues, rfl, rfl⟩
    | valid summary =>
        have described := MethodSummary.ofJson_iff.mp ⟨summary, checked, rfl⟩
        have rejects := (importJson_of_describes fresh valid described).2.1 error
        obtain ⟨cause, refused, rfl⟩ := rejects.mp ⟨after, fails⟩
        exact .inr ⟨_, cause, described, refused, rfl⟩
  · rintro (⟨issues, refused, rfl⟩ | ⟨descriptor, cause, described, refused, rfl⟩)
    · exact ⟨session, importJson_invalid refused⟩
    · exact ((importJson_of_describes fresh valid described).2.1 _).mpr ⟨cause, refused, rfl⟩

end SessionM

/-- A document is accepted exactly if it has the shape of a method and its descriptor is one, and it
gives the method that its descriptor gives, whatever else is in it.  A document of another shape is
refused for its shape, and one with a malformed descriptor for the grammar error in the
descriptor; there is no third way to be refused. -/
theorem documents_stand_for_descriptors {session : Session} {settings : Settings}
    (fresh : session.Fresh) (valid : session.inForce = .valid settings) (document : Json) :
    (∀ tree, (SessionM.importJson document).Returns session tree ↔
      ∃ descriptor, document.DescribesMethod descriptor ∧
        (SessionM.parseMethod descriptor none).Returns session tree) ∧
    ((∃ error, SessionM.Rejects document session error ∧
        error.message = "Method signature validation failed") ↔
      ∀ descriptor, ¬ document.DescribesMethod descriptor) ∧
    (∀ details, (∃ error, SessionM.Rejects document session error ∧
        error.message = "Invalid method signature descriptor" ∧ error.details = details) ↔
      ∃ descriptor cause, document.DescribesMethod descriptor ∧
        (SessionM.parseMethod descriptor none).Refuses session cause ∧
        details = cause.describe) ∧
    ((∃ tree, (SessionM.importJson document).Returns session tree) ∨
      ∃ error, SessionM.Rejects document session error ∧
        (error.message = "Method signature validation failed" ∨
          error.message = "Invalid method signature descriptor")) := by
  simp only [SessionM.rejects_iff fresh valid]
  refine ⟨fun tree => SessionM.importJson_returns_iff fresh valid, ?_, fun details => ?_, ?_⟩
  · rw [← MethodSummary.ofJson_invalid_iff]
    constructor
    · rintro ⟨error, ⟨issues, refused, _⟩ | ⟨_, cause, _, _, rfl⟩, message⟩
      · exact ⟨issues, refused⟩
      · exact absurd message (by simp [DocumentError.message])
    · exact fun ⟨issues, refused⟩ => ⟨_, .inl ⟨issues, refused, rfl⟩, rfl⟩
  · constructor
    · rintro ⟨error, ⟨issues, _, rfl⟩ | ⟨descriptor, cause, described, refused, rfl⟩, message, rfl⟩
      · exact absurd message (by simp [DocumentError.message])
      · exact ⟨descriptor, cause, described, refused, rfl⟩
    · rintro ⟨descriptor, cause, described, refused, rfl⟩
      exact ⟨_, .inr ⟨descriptor, cause, described, refused, rfl⟩, rfl, rfl⟩
  · cases checked : MethodSummary.ofJson document with
    | invalid issues => exact .inr ⟨_, .inl ⟨issues, rfl, rfl⟩, .inl rfl⟩
    | valid summary =>
        have described := MethodSummary.ofJson_iff.mp ⟨summary, checked, rfl⟩
        obtain ⟨returns, _, answered⟩ := SessionM.importJson_of_describes fresh valid described
        rcases answered with ⟨tree, returned⟩ | ⟨cause, refused⟩
        · exact .inl ⟨tree, (returns tree).mpr returned⟩
        · exact .inr ⟨_, .inr ⟨_, cause, described, refused, rfl⟩, .inr rfl⟩

/-- A document with a member that nobody knows gives the method of its descriptor. -/
theorem documents_stand_for_descriptors_with_unknown_member :
    let document : Json := .obj [("extra", .arr [.null]), ("result_type", .str ""),
      ("class_bound", .int 1), ("display", .str "?"), ("descriptor", .str "()V")]
    (SessionM.importJson document).Returns (Session.start .empty) ⟨[], [], .base .void, []⟩ := by
  intro document
  have fresh := Session.fresh_start .empty
  have described : document.DescribesMethod "()V" :=
    ⟨_, rfl, ⟨⟨_, rfl, "()V", rfl⟩, ⟨_, rfl, "?", rfl⟩, nofun, nofun, ⟨_, rfl, "", rfl⟩, nofun,
      nofun⟩, rfl⟩
  have short : "()V".length ≤ Settings.standard.maxLength := by decide
  have alone : (Session.start .empty).ContextReads .standard none := nofun
  have void := ((exact_parseMethod fresh inForce_start short alone).returns_iff
    ⟨[], [], .base .void, []⟩).mpr (.mk (.mk .absent nofun) .nil (.primitive (by decide)) .nil)
  exact ((documents_stand_for_descriptors fresh inForce_start document).1 _).mpr
    ⟨"()V", described, void⟩

end GenericSignature
