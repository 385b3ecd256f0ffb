import GenericSignature.Proofs.Batches

/-!
# Files

A file is a batch written down: its lines one below the other, as UTF-8.

1. A text is cut where a line ends, and nowhere else (`Text.cutLines_line`, `Text.cutLines_end`), so
   the lines of a text are those that it was written from, but for an empty one at the end
   (`LineEnd.lines_join`).
2. An empty line at the end is nothing to a batch (`SessionM.runLines_append_empty`).
3. So parsing the file is parsing its lines (`runFile_join`).
-/

namespace GenericSignature

/-- What the lines of a text can end with. -/
inductive LineEnd where
  | lf
  | crlf
  | cr
deriving DecidableEq, Repr, Inhabited

/-- The characters of a line end. -/
def LineEnd.text : LineEnd → String
  | lf => "\n"
  | crlf => "\r\n"
  | cr => "\r"

/-- The text with the given lines, with or without a line end after the last. -/
def LineEnd.join (ending : LineEnd) (final : Bool) (lines : List String) : String :=
  String.intercalate ending.text lines ++ if final then ending.text else ""

/-- The text has no line end in it. -/
def Text.Whole (text : List Char) : Prop := ∀ c ∈ text, c ≠ '\n' ∧ c ≠ '\r'

instance (text : List Char) : Decidable (Text.Whole text) :=
  List.decidableBAll (fun c => c ≠ '\n' ∧ c ≠ '\r') text

/-! ## Cutting a text -/

namespace Text

variable {line rest read : List Char} {lines done : List (List Char)}

theorem cutLines_line (whole : Whole line) (rest read : List Char) (done : List (List Char)) :
    cutLines (line ++ rest) read done = cutLines rest (line.reverse ++ read) done := by
  induction line generalizing read with
  | nil => rfl
  | cons c line ih =>
      have ⟨here, later⟩ := List.forall_mem_cons.mp whole
      have step : cutLines (c :: (line ++ rest)) read done =
          cutLines (line ++ rest) (c :: read) done := by
        rw [cutLines]
        · rw [if_neg (not_or.mpr here)]
        · intro _ is
          exact absurd is here.2
      rw [List.cons_append, step, ih later, List.reverse_cons, List.append_assoc]
      rfl

/-- A carriage return is a line end of its own only if no line feed comes after it. -/
theorem cutLines_end {ending : LineEnd} (after : ending = .cr → '\n' ∉ rest) (read : List Char)
    (done : List (List Char)) :
    cutLines (ending.text.toList ++ rest) read done = cutLines rest [] (read.reverse :: done) := by
  cases ending with
  | lf => rfl
  | crlf => rfl
  | cr =>
      show cutLines ('\r' :: rest) read done = _
      rw [cutLines]
      · rw [if_pos (.inr rfl)]
      · rintro text - rfl
        exact after rfl List.mem_cons_self

theorem cutLines_lines {ending : LineEnd} (whole : ∀ line ∈ lines, Whole line)
    (after : ending = .cr → '\n' ∉ rest) (done : List (List Char)) :
    cutLines (lines.flatMap (· ++ ending.text.toList) ++ rest) [] done =
      cutLines rest [] (lines.reverse ++ done) := by
  induction lines generalizing done with
  | nil => rfl
  | cons line lines ih =>
      have ⟨here, later⟩ := List.forall_mem_cons.mp whole
      have none : ending = .cr → '\n' ∉ lines.flatMap (· ++ ending.text.toList) ++ rest := by
        rintro rfl member
        rcases List.mem_append.mp member with member | member
        · obtain ⟨other, among, member⟩ := List.mem_flatMap.mp member
          rcases List.mem_append.mp member with member | member
          · exact (later other among _ member).1 rfl
          · cases List.mem_singleton.mp member
        · exact after rfl member
      rw [List.flatMap_cons, List.append_assoc, List.append_assoc, cutLines_line here,
        cutLines_end none, ih later, List.append_nil, List.reverse_reverse, List.reverse_cons,
        List.append_assoc]
      rfl

/-- A text that does not end with a line end has one more line, unless it would be empty. -/
theorem lines_of_ends {ending : LineEnd} {last : List Char} (whole : ∀ line ∈ lines, Whole line)
    (wholeLast : Whole last) :
    Text.lines (lines.flatMap (· ++ ending.text.toList) ++ last) =
      lines ++ if last = [] then [] else [last] := by
  have none : '\n' ∉ last := fun member => (wholeLast _ member).1 rfl
  have cut := cutLines_line wholeLast [] [] (lines.reverse ++ [])
  rw [List.append_nil, List.append_nil, List.append_nil] at cut
  unfold Text.lines
  rw [cutLines_lines whole fun _ => none, List.append_nil, cut]
  cases last with
  | nil =>
      rw [if_pos rfl, List.append_nil]
      exact List.reverse_reverse lines
  | cons c last =>
      rw [if_neg (List.cons_ne_nil c last)]
      have some : (c :: last).reverse ≠ [] := List.reverse_ne_nil_iff.mpr (List.cons_ne_nil c last)
      rw [cutLines.eq_2 _ _ some, List.reverse_reverse, List.reverse_cons, List.reverse_reverse]

end Text

/-! ## Joining lines -/

theorem intercalate_concat {α : Type} (between last : List α) (lines : List (List α)) :
    between.intercalate (lines ++ [last]) = lines.flatMap (· ++ between) ++ last := by
  induction lines with
  | nil => exact List.intercalate_singleton
  | cons first lines ih =>
      have more : lines ++ [last] ≠ [] := List.concat_ne_nil last lines
      rw [List.cons_append, List.intercalate_cons_of_ne_nil more, ih, List.flatMap_cons,
        List.append_assoc, List.append_assoc, List.append_assoc]

namespace LineEnd

variable {ending : LineEnd} {lines : List String}

theorem lines_intercalate (whole : ∀ line ∈ lines, Text.Whole line.toList) {last : String}
    (wholeLast : Text.Whole last.toList) :
    (Text.lines (String.intercalate ending.text (lines ++ [last])).toList).map String.ofList =
      lines ++ if last = "" then [] else [last] := by
  have each : ∀ text ∈ lines.map String.toList, Text.Whole text := List.forall_mem_map.mpr whole
  have back : (lines.map String.toList).map String.ofList = lines := by
    rw [List.map_map]
    exact (List.map_congr_left fun _ _ => String.ofList_toList).trans (List.map_id lines)
  rw [String.toList_intercalate, List.map_append, List.map_singleton, intercalate_concat,
    Text.lines_of_ends each wholeLast, List.map_append, back]
  by_cases empty : last = ""
  · subst empty
    rfl
  · have some : last.toList ≠ [] := mt String.toList_eq_nil_iff.mp empty
    rw [if_neg empty, if_neg some, List.map_singleton, String.ofList_toList]

/-- The lines of a text are those that it was written from, but for an empty line at the end. -/
theorem lines_join (final : Bool) (whole : ∀ line ∈ lines, Text.Whole line.toList) :
    let read := (Text.lines (ending.join final lines).toList).map String.ofList
    read = lines ∨ read = lines ++ [""] ∨ read ++ [""] = lines := by
  unfold join
  cases final with
  | true =>
      by_cases none : lines = []
      · subst none
        exact .inr (.inl (by cases ending <;> rfl))
      · -- an end after the last line is an end before an empty one
        have closed : String.intercalate ending.text (lines ++ [""]) =
            String.intercalate ending.text lines ++ ending.text := by
          rw [String.intercalate_append_of_ne_nil none (List.cons_ne_nil _ _),
            String.intercalate_singleton, String.append_empty]
        have empty : Text.Whole "".toList := List.forall_mem_nil _
        rw [if_pos rfl, ← closed, lines_intercalate whole empty, if_pos rfl, List.append_nil]
        exact .inl rfl
  | false =>
      rw [if_neg Bool.false_ne_true, String.append_empty]
      rcases List.eq_nil_or_concat lines with rfl | ⟨before, last, rfl⟩
      · exact .inl rfl
      · rw [List.concat_eq_append] at whole ⊢
        have ⟨wholeBefore, each⟩ := List.forall_mem_append.mp whole
        have wholeLast : Text.Whole last.toList := each last List.mem_cons_self
        rw [lines_intercalate wholeBefore wholeLast]
        split
        · next empty => exact .inr (.inr (by rw [List.append_nil, empty]))
        · exact .inl rfl

end LineEnd

/-! ## Parsing a file -/

theorem fromUTF8?_toUTF8 (text : String) : String.fromUTF8? text.toUTF8 = some text := by
  simp only [String.fromUTF8?, String.toUTF8_eq_toByteArray, dif_pos text.isValidUTF8]
  rfl

namespace SessionM

/-- An empty line at the end of a batch is passed over. -/
theorem runLines_append_empty (plan : BatchPlan) (number : Nat) (lines : List String)
    (parsed : List ParsedLine) (failures : List FailedLine) :
    runLines plan number (lines ++ [""]) parsed failures =
      runLines plan number lines parsed failures := by
  induction lines generalizing number parsed failures with
  | nil => exact runLines_passed rfl
  | cons line lines ih =>
      rw [List.cons_append, runLines, runLines]
      simp only [ih]

theorem finishBatch_append_empty (plan : BatchPlan) (lines : List String) :
    finishBatch plan (lines ++ [""]) = finishBatch plan lines := by
  unfold finishBatch
  rw [runLines_append_empty]

/-- Parsing a file is parsing the lines of its text. -/
theorem runFile_eq_runBatch (plan : BatchPlan) {bytes : ByteArray} {text : String}
    (decoded : String.fromUTF8? bytes = some text) :
    runFile plan bytes = runBatch plan ((Text.lines text.toList).map String.ofList) := by
  unfold runFile runBatch decodeLines
  rw [decoded, pure_bind]

end SessionM

/-- Parsing a file is parsing its lines, in whatever context and whether or not the batch ends at
the first malformed line: it does not matter what the lines end with, as long as they all end with
the same, nor whether the last line has an end.  The context is a class of the session or none. -/
theorem runFile_join (plan : BatchPlan) (ending : LineEnd) (final : Bool) {lines : List String}
    (whole : ∀ line ∈ lines, Text.Whole line.toList) :
    SessionM.runFile plan (ending.join final lines).toUTF8 = SessionM.runBatch plan lines := by
  have finished : ∀ read, read = lines ∨ read = lines ++ [""] ∨ read ++ [""] = lines →
      SessionM.finishBatch plan read = SessionM.finishBatch plan lines := by
    rintro read (rfl | rfl | rfl)
    · rfl
    · exact SessionM.finishBatch_append_empty plan lines
    · exact (SessionM.finishBatch_append_empty plan read).symm
  rw [SessionM.runFile_eq_runBatch plan (fromUTF8?_toUTF8 _)]
  unfold SessionM.runBatch
  rw [finished _ (LineEnd.lines_join final whole)]

/-- A byte order mark, and what other programs take for the end of a line, are characters of the
lines. -/
theorem runFile_join_crlf :
    let lines := ["\uFEFF()V", "\u2028", "a\u0085\u000Cb"]
    (∀ line ∈ lines, Text.Whole line.toList) ∧
      SessionM.runFile ⟨some ⟨0⟩, true⟩ (LineEnd.crlf.join true lines).toUTF8 =
        SessionM.runBatch ⟨some ⟨0⟩, true⟩ lines := by
  intro lines
  have whole : ∀ line ∈ lines, Text.Whole line.toList :=
    List.forall_mem_cons.mpr ⟨by decide, List.forall_mem_cons.mpr ⟨by decide,
      List.forall_mem_singleton.mpr (by decide)⟩⟩
  exact ⟨whole, runFile_join ⟨some ⟨0⟩, true⟩ .crlf true whole⟩

end GenericSignature
