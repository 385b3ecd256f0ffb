import GenericSignature.Proofs.BackLinks
import GenericSignature.Proofs.Canonical
import GenericSignature.Proofs.JsonRoundTrip
import GenericSignature.Session.Export

/-!
# Documents are read back

What is exported comes back when it is imported.

1. Every summary passes its own check (`MethodSummary.ofJson_toJson`), and its document can be read
   (`MethodSummary.readable_toJson`).
2. So importing the document of a method parses its descriptor, and nothing else can go wrong
   (`SessionM.outcome_importJson`, `SessionM.importText_toDocument`).
3. The descriptor of a parsed method is the text that it was parsed from, which is read again
   under the same settings: the method comes back (`documents_restore`).
-/

namespace GenericSignature

open Grammar

/-! ## Checks -/

namespace Validated

variable {α β : Type}

@[simp]
theorem under_valid (name : String) (value : α) : (valid value).under name = .valid value := rfl

@[simp]
theorem map_valid (f : α → β) (value : α) : f <$> valid value = .valid (f value) := rfl

@[simp]
theorem seq_valid (f : α → β) (value : α) : valid f <*> valid value = .valid (f value) := rfl

/-- A list of encoded values passes the check if each value does. -/
theorem items_map {check : α → Validated β} {encode : β → α} {values : List β}
    (passes : ∀ value ∈ values, check (encode value) = .valid value) :
    items check (values.map encode) = .valid values := by
  -- the numbers of the items lead to their issues only, so any names do
  have named : ∀ name : Nat → String,
      ((values.map encode).mapIdx fun i value => (check value).under (name i)).foldr
        (fun head tail => List.cons <$> head <*> tail) (valid []) = .valid values := by
    induction values with
    | nil => exact fun _ => rfl
    | cons value values ih =>
        intro name
        have rest := ih (fun value member => passes value (List.mem_cons_of_mem _ member))
          fun i => name (i + 1)
        rw [List.map_cons, List.mapIdx_cons, List.foldr_cons, rest,
          passes value List.mem_cons_self, under_valid, map_valid, seq_valid]
  exact named toString

end Validated

namespace Json

theorem asList_texts (values : List String) : asList asText (texts values) = .valid values :=
  Validated.items_map fun _ _ => rfl

theorem asOptionalText_str (value : Option String) :
    asOptionalText ((value.map str).getD null) = .valid value := by
  cases value <;> rfl

theorem readable_texts (values : List String) : Readable (texts values) := by
  refine .arr fun item member => ?_
  obtain ⟨value, _, rfl⟩ := List.mem_map.mp member
  exact .str value

end Json

/-! ## Summaries -/

namespace ParamSummary

theorem ofJson_toJson (param : ParamSummary) : ofJson param.toJson = .valid param := by
  unfold toJson ofJson
  simp [Json.required, Json.optional, Json.member?, Json.asText, Json.asList_texts,
    Json.asOptionalText_str]

theorem readable_toJson (param : ParamSummary) : param.toJson.Readable := by
  refine .obj fun entry member => ?_
  simp only [List.mem_cons, List.not_mem_nil, or_false] at member
  rcases member with rfl | rfl | rfl
  · exact .str _
  · cases param.bound with
    | none => exact .null
    | some bound => exact .str bound
  · exact Json.readable_texts _

end ParamSummary

namespace MethodSummary

/-- Every summary passes its own check. -/
theorem ofJson_toJson (summary : MethodSummary) : ofJson summary.toJson = .valid summary := by
  have params : Json.asList ParamSummary.ofJson (.arr (summary.tparams.map ParamSummary.toJson)) =
      .valid summary.tparams := Validated.items_map fun param _ => param.ofJson_toJson
  unfold toJson ofJson
  simp [Json.required, Json.optional, Json.member?, Json.asText, Json.asList_texts, params]

/-- Every document of a summary can be read. -/
theorem readable_toJson (summary : MethodSummary) : summary.toJson.Readable := by
  refine .obj fun entry member => ?_
  simp only [List.mem_cons, List.not_mem_nil, or_false] at member
  rcases member with rfl | rfl | rfl | rfl | rfl | rfl | rfl
  · exact .str _
  · exact .str _
  · refine .arr fun item listed => ?_
    obtain ⟨param, _, rfl⟩ := List.mem_map.mp listed
    exact param.readable_toJson
  · exact Json.readable_texts _
  · exact .str _
  · exact Json.readable_texts _
  · exact Json.readable_texts _

end MethodSummary

/-! ## Import -/

namespace SessionM

variable {session after : Session} {settings : Settings}

/-- The text of a document is as good as the document. -/
theorem importText_toDocument (tree : MethodSig) :
    importText tree.toDocument = importJson (MethodSummary.ofMethod tree).toJson := by
  unfold importText MethodSig.toDocument
  rw [Json.parse_render (MethodSummary.ofMethod tree).readable_toJson]
  rfl

/-- Importing a summary comes to parsing its descriptor. -/
theorem importJson_answers {summary : MethodSummary} {sig : Registered MethodSig}
    (answers : (parseMethod summary.descriptor none).Answers session sig after) :
    (importJson summary.toJson).Answers session sig after := by
  unfold Answers importJson at *
  rw [MethodSummary.ofJson_toJson]
  show (tryGrammar (parseMethod summary.descriptor none) >>= _).outcome session = _
  rw [outcome_bind, outcome_tryGrammar, answers]
  rfl

/-- A text that is read under the settings in force is answered where there is no class, and linked
to none. -/
theorem parseMethod_alone {text : String} {tree : MethodSig} {names : List String}
    (fresh : session.Fresh) (valid : session.inForce = .valid settings)
    (read : MethodSig.parse settings.maxLength text = .ok (tree, names)) :
    ∃ id after, (parseMethod text none).Answers session ⟨id, tree⟩ after ∧
      after.LinksOf id tree.typeVars.length ⟨some id, none⟩ := by
  have alone : session.ContextReads settings none := nofun
  obtain ⟨id, after, outcome⟩ := outcome_parseMethod fresh valid alone text
  rw [read] at outcome
  obtain ⟨cls, _, untold, _, _, linked, _⟩ := parseMethod_linked fresh outcome
  obtain rfl := untold nofun
  exact ⟨id, after, outcome, linked⟩

end SessionM

/-- The document of a parsed method gives the method back wherever the same settings are in force:
the same tree, with its type variables linked to the new method and to no class, and with the same
document again. -/
theorem documents_restore {session after later : Session} {text : String}
    {context : Option ClassId} {sig : Registered MethodSig} (fresh : session.Fresh)
    (answers : (SessionM.parseMethod text context).Answers session sig after)
    (freshLater : later.Fresh) (same : later.inForce = session.inForce) :
    (∃ restored finish,
      (SessionM.importText sig.tree.toDocument).Answers later restored finish ∧
      restored.tree = sig.tree ∧ restored.tree.toDocument = sig.tree.toDocument ∧
      finish.LinksOf restored.id restored.tree.typeVars.length ⟨some restored.id, none⟩) ∧
    ∃ restored finish,
      (SessionM.importJson (MethodSummary.ofMethod sig.tree).toJson).Answers later restored
        finish ∧
      restored.tree = sig.tree := by
  have noted : (session.noted (.readingMethod text)).Fresh := fresh
  obtain ⟨settings, cls, middle, opened, validMiddle, read⟩ :=
    SessionM.parseMethod_cases fresh answers
  have kept := (SessionM.contextSignature_extends noted opened).inForce_eq
  have valid : later.inForce = .valid settings := (same.trans kept.symm).trans validMiddle
  obtain ⟨names, parsed⟩ := Session.methodRead_ok read
  have written : sig.tree.descriptor = text :=
    (spelled_method sig.tree).written (decides_methodOnly.derives parsed)
  -- the descriptor in the document is the text itself, so it keeps within the limit again
  rw [← written] at parsed
  obtain ⟨id, finish, again, linked⟩ := SessionM.parseMethod_alone freshLater valid parsed
  have imported : (SessionM.importJson (MethodSummary.ofMethod sig.tree).toJson).Answers later
      ⟨id, sig.tree⟩ finish := SessionM.importJson_answers again
  refine ⟨⟨⟨id, sig.tree⟩, finish, ?_, rfl, rfl, linked⟩, ⟨id, sig.tree⟩, finish, imported, rfl⟩
  rw [SessionM.importText_toDocument]
  exact imported

theorem documents_restore_quoted :
    ∃ sig after restored finish,
      (SessionM.parseMethod "(T\"\\\n;)V" none).Answers (Session.start .empty) sig after ∧
      (SessionM.importText sig.tree.toDocument).Answers (Session.start .empty) restored finish ∧
      restored.tree = ⟨[], [.typeVar "\"\\\n"], .base .void, []⟩ ∧
      finish.LinksOf restored.id 1 ⟨some restored.id, none⟩ := by
  have fresh := Session.fresh_start .empty
  have short : "(T\"\\\n;)V".length ≤ Settings.standard.maxLength := by decide
  have reads : (Session.start .empty).ContextReads .standard none := nofun
  have name : DerivesIdentifier "\"\\\n".toList "\"\\\n" := .mk (by decide)
  have param : DerivesType "T\"\\\n;".toList (.typeVar "\"\\\n") :=
    .reference (.typeVar (.mk name))
  have method : DerivesMethod "(T\"\\\n;)V".toList
      ⟨[], [.typeVar "\"\\\n"], .base .void, []⟩ :=
    .mk (.mk .absent nofun) (.cons param .nil) (.primitive (by decide)) .nil
  obtain ⟨id, after, answers⟩ := ((exact_parseMethod fresh inForce_start short reads).returns_iff
    _).mpr method
  obtain ⟨⟨restored, finish, imported, tree, _, linked⟩, _⟩ :=
    documents_restore fresh answers fresh rfl
  rw [tree] at linked
  exact ⟨_, after, restored, finish, answers, imported, tree, linked⟩

end GenericSignature
