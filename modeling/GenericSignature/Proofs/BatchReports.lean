import GenericSignature.Proofs.DocumentShapes
import GenericSignature.Proofs.Files
import GenericSignature.Proofs.Printing
import Mathlib.Algebra.Group.Nat.Defs
import Mathlib.Data.List.Forall2
import Mathlib.Data.List.Nodup

/-!
# Reports of batches

What the program shows of a file: a table or a JSON document, and an exit code.

1. What a batch makes of its lines depends on the lines and the settings alone, not on the session
   (`Session.Sorts.lists_eq`).
2. Sorting the rows merges the two lists of a result again: there is one row for each candidate, in
   their order (`batchRows_eq`).
3. The document is read back (`readable_batchJson`), and each method in it is imported
   (`SessionM.importJson_ofMethod`).
4. A call runs its command in a session in which nothing happened yet (`run_command`), and a batch
   reports what the lines were sorted into, or ends with the first failure (`shown_batchCommand`).
5. So all reports tell the same of the file (`batch_reports_agree`).
-/

namespace GenericSignature

open CommandLine

/-! ## What the lines come to -/

section Lines

variable (limit : Nat) (line : Nat × String)

/-- The method that the text of a line is parsed into. -/
def parsedOf? : Option (Nat × MethodSig) :=
  match MethodSig.parse limit line.2 with
  | .ok (tree, _) => some (line.1, tree)
  | .error _ => none

/-- The line if its text is malformed. -/
def failedOf? : Option FailedLine :=
  match MethodSig.parse limit line.2 with
  | .ok _ => none
  | .error error => some ⟨line.1, line.2, error⟩

/-- The row of a line in the table. -/
def rowOf : BatchRow :=
  match MethodSig.parse limit line.2 with
  | .ok (tree, _) => ⟨line.1, true, tree.display⟩
  | .error error => ⟨line.1, false, line.2 ++ ": " ++ error.message⟩

theorem rowOf_line : (rowOf limit line).line = line.1 := by
  unfold rowOf
  split <;> rfl

variable {limit} {tree : MethodSig} {names : List String} {error : GrammarError}

theorem line_ok (read : MethodSig.parse limit line.2 = .ok (tree, names)) :
    parsedOf? limit line = some (line.1, tree) ∧ failedOf? limit line = none ∧
      rowOf limit line = ⟨line.1, true, tree.display⟩ := by
  unfold parsedOf? failedOf? rowOf
  rw [read]
  exact ⟨rfl, rfl, rfl⟩

theorem line_error (read : MethodSig.parse limit line.2 = .error error) :
    parsedOf? limit line = none ∧ failedOf? limit line = some ⟨line.1, line.2, error⟩ ∧
      rowOf limit line = ⟨line.1, false, line.2 ++ ": " ++ error.message⟩ := by
  unfold parsedOf? failedOf? rowOf
  rw [read]
  exact ⟨rfl, rfl, rfl⟩

end Lines

/-- What is known of a parsed line apart from identities. -/
def ParsedLine.numbered (entry : ParsedLine) : Nat × MethodSig := (entry.line, entry.sig.tree)

/-- What becomes of the lines does not depend on the session, apart from identities. -/
theorem Session.Sorts.lists_eq {session after : Session} {settings : Settings}
    {link : Option SigId} {number : Nat} {lines : List String} {parsed : List ParsedLine}
    {failures : List FailedLine}
    (sorts : Sorts settings link session number lines parsed failures after) :
    parsed.map ParsedLine.numbered =
        (candidatesFrom number lines).filterMap (parsedOf? settings.maxLength) ∧
      failures = (candidatesFrom number lines).filterMap (failedOf? settings.maxLength) := by
  induction sorts with
  | done => exact ⟨rfl, rfl⟩
  | passed is _ ih =>
      rw [candidatesFrom_cons, is]
      exact ih
  | @parsed _ _ _ number _ text _ sig _ _ is read _ ih =>
      obtain ⟨names, accepted⟩ := methodRead_ok read
      obtain ⟨kept, notFailed, _⟩ := line_ok (number, text) accepted
      rw [candidatesFrom_cons, is]
      exact ⟨(congrArg (_ :: ·) ih.1).trans (List.filterMap_cons_some kept).symm,
        ih.2.trans (List.filterMap_cons_none notFailed).symm⟩
  | @failed _ _ _ number _ text _ error _ _ is read _ ih =>
      obtain ⟨notKept, failed, _⟩ := line_error (number, text) (methodRead_error read)
      rw [candidatesFrom_cons, is]
      exact ⟨ih.1.trans (List.filterMap_cons_none notKept).symm,
        (congrArg (_ :: ·) ih.2).trans (List.filterMap_cons_some failed).symm⟩

/-! ## The table -/

theorem ascending_candidatesFrom (first : Nat) (lines : List String) :
    (candidatesFrom first lines).Pairwise fun line later => line.1 < later.1 := by
  induction lines generalizing first with
  | nil => exact .nil
  | cons line lines ih =>
      rw [candidatesFrom_cons]
      cases candidate? line with
      | none => exact ih (first + 1)
      | some text => exact .cons (fun _ member => le_of_mem_candidatesFrom member) (ih (first + 1))

/-- The row of a method that was parsed. -/
def parsedRow (entry : Nat × MethodSig) : BatchRow := ⟨entry.1, true, entry.2.display⟩

/-- The row of a line that was left out. -/
def FailedLine.row (entry : FailedLine) : BatchRow :=
  ⟨entry.line, false, entry.text ++ ": " ++ entry.error.message⟩

/-- Lines sorted into those that are parsed and those that are not have the same rows. -/
theorem rows_perm (limit : Nat) (lines : List (Nat × String)) :
    ((lines.filterMap (parsedOf? limit)).map parsedRow ++
      (lines.filterMap (failedOf? limit)).map FailedLine.row).Perm (lines.map (rowOf limit)) := by
  induction lines with
  | nil => exact .refl _
  | cons line lines ih =>
      cases read : MethodSig.parse limit line.2 with
      | ok given =>
          obtain ⟨kept, notFailed, row⟩ := line_ok line read
          rw [List.filterMap_cons_some kept, List.filterMap_cons_none notFailed, List.map_cons,
            List.map_cons, row]
          exact .cons _ ih
      | error error =>
          obtain ⟨notKept, failed, row⟩ := line_error line read
          rw [List.filterMap_cons_none notKept, List.filterMap_cons_some failed, List.map_cons,
            List.map_cons, row]
          exact List.perm_middle.trans (.cons _ ih)

theorem batchRows_perm (result : BatchResult) :
    (batchRows result).Perm ((result.parsed.map ParsedLine.numbered).map parsedRow ++
      result.failures.map FailedLine.row) := by
  rw [List.map_map]
  exact List.mergeSort_perm _ _

theorem sorted_batchRows (result : BatchResult) :
    (batchRows result).Pairwise fun row later => row.line ≤ later.line := by
  have trans : ∀ row other later : BatchRow, Nat.ble row.line other.line = true →
      Nat.ble other.line later.line = true → Nat.ble row.line later.line = true := by
    intro row other later first second
    exact Nat.ble_eq.mpr (Nat.le_trans (Nat.ble_eq.mp first) (Nat.ble_eq.mp second))
  have total : ∀ row other : BatchRow,
      (Nat.ble row.line other.line || Nat.ble other.line row.line) = true := by
    intro row other
    rw [Bool.or_eq_true, Nat.ble_eq, Nat.ble_eq]
    exact Nat.le_total _ _
  exact (List.pairwise_mergeSort trans total _).imp Nat.ble_eq.mp

/-- There is one row for each candidate, in the order of the lines. -/
theorem batchRows_eq {session after : Session} {settings : Settings} {link : Option SigId}
    {number : Nat} {lines : List String} {parsed : List ParsedLine} {failures : List FailedLine}
    (sorts : Session.Sorts settings link session number lines parsed failures after) :
    batchRows ⟨parsed, failures⟩ =
      (candidatesFrom number lines).map (rowOf settings.maxLength) := by
  let rows := (candidatesFrom number lines).map (rowOf settings.maxLength)
  have same : (batchRows ⟨parsed, failures⟩).Perm rows := by
    have merged := rows_perm settings.maxLength (candidatesFrom number lines)
    rw [← sorts.lists_eq.1, ← sorts.lists_eq.2] at merged
    exact (batchRows_perm _).trans merged
  have ascending : rows.Pairwise fun row later => row.line < later.line := by
    refine List.pairwise_map.mpr ((ascending_candidatesFrom number lines).imp ?_)
    intro line later less
    rwa [rowOf_line, rowOf_line]
  have distinct : (rows.map BatchRow.line).Nodup :=
    List.pairwise_map.mpr (ascending.imp Nat.ne_of_lt)
  refine List.Perm.eq_of_pairwise ?_ (sorted_batchRows _) (ascending.imp Nat.le_of_lt) same
  -- no two rows are about one line
  intro row other member among first second
  exact List.inj_on_of_nodup_map distinct (same.subset member) among (Nat.le_antisymm first second)

/-! ## The document -/

/-- The item of a line that was parsed. -/
def ParsedLine.item (entry : ParsedLine) : Json :=
  .obj [("line", .int entry.line), ("signature", (MethodSummary.ofMethod entry.sig.tree).toJson)]

/-- The item of a line that was left out. -/
def FailedLine.item (entry : FailedLine) : Json :=
  .obj [("line", .int entry.line), ("text", .str entry.text),
    ("message", .str entry.error.message), ("position", .int entry.error.position)]

theorem batchJson_eq (result : BatchResult) :
    batchJson result = .obj [("parsed", .arr (result.parsed.map ParsedLine.item)),
      ("failures", .arr (result.failures.map FailedLine.item))] := rfl

/-- The document depends on the numbers and trees of the parsed lines, not on identities. -/
theorem batchJson_congr {result other : BatchResult}
    (parsed : result.parsed.map ParsedLine.numbered = other.parsed.map ParsedLine.numbered)
    (failures : result.failures = other.failures) : batchJson result = batchJson other := by
  let item (entry : Nat × MethodSig) : Json :=
    .obj [("line", .int entry.1), ("signature", (MethodSummary.ofMethod entry.2).toJson)]
  have items := congrArg (List.map item) parsed
  rw [List.map_map, List.map_map] at items
  rw [batchJson_eq, batchJson_eq, failures]
  exact congrArg (fun parsed => Json.obj [("parsed", .arr parsed), _]) items

/-! ### Its numbers -/

namespace Settings

variable {settings : Settings}

theorem checkLength_le {text : String} {n : Nat} (checked : checkLength text = .valid n) :
    n ≤ lengthBounds.2.toNat := by
  unfold checkLength at checked
  split at checked
  · cases checked
  · next value _ =>
      split at checked
      · cases checked
      · split at checked
        · cases checked
        · next above =>
            cases checked
            exact Int.toNat_le_toNat (Int.not_lt.mp above)

/-- No settings allow longer texts. -/
theorem maxLength_le {sources : Sources} (valid : load sources = .valid settings) :
    settings.maxLength ≤ lengthBounds.2.toNat := by
  unfold load at valid
  simp only [Validated.seq_eq_valid, Validated.map_eq_valid] at valid
  obtain ⟨_, _, ⟨_, _, ⟨limit, found, rfl⟩, _, rfl⟩, _, rfl⟩ := valid
  unfold field at found
  split at found
  · cases found
    show standard.maxLength ≤ lengthBounds.2.toNat
    decide
  · exact checkLength_le (Validated.under_eq_valid.mp found)

end Settings

/-- The position of an error is within what is allowed for a text. -/
theorem position_le_limit {α : Type} {reader : Grammar.Reader α} {limit : Nat} {text : String}
    {error : GrammarError} (failed : parseWithin limit reader text = .error error) :
    error.position.natAbs ≤ limit := by
  obtain ⟨_, low, high⟩ := place_of_parseWithin failed
  unfold parseWithin at failed
  split at failed
  · next short => omega
  · cases failed
    exact Nat.le_refl limit

theorem Json.readable_int {value : Int} (small : value.natAbs < 10 ^ Text.maxDigits) :
    Readable (.int value) := by
  have digits : 0 < Text.maxDigits := by decide
  exact .int ((Nat.length_toDigits_le_iff (by decide) digits).mpr small)

/-- The document can be read if its numbers are not too long. -/
theorem readable_batchJson {result : BatchResult}
    (parsed : ∀ entry ∈ result.parsed, entry.line < 10 ^ Text.maxDigits)
    (failures : ∀ entry ∈ result.failures, entry.line < 10 ^ Text.maxDigits ∧
      entry.error.position.natAbs < 10 ^ Text.maxDigits) : (batchJson result).Readable := by
  have parsedItems : ∀ item ∈ result.parsed.map ParsedLine.item, item.Readable := by
    intro item member
    obtain ⟨entry, among, rfl⟩ := List.mem_map.mp member
    refine .obj (List.forall_mem_cons.mpr ⟨Json.readable_int (parsed entry among), ?_⟩)
    exact List.forall_mem_singleton.mpr (MethodSummary.readable_toJson _)
  have failedItems : ∀ item ∈ result.failures.map FailedLine.item, item.Readable := by
    intro item member
    obtain ⟨entry, among, rfl⟩ := List.mem_map.mp member
    obtain ⟨line, position⟩ := failures entry among
    refine .obj (List.forall_mem_cons.mpr ⟨Json.readable_int line, List.forall_mem_cons.mpr
      ⟨.str _, List.forall_mem_cons.mpr ⟨.str _, ?_⟩⟩⟩)
    exact List.forall_mem_singleton.mpr (Json.readable_int position)
  rw [batchJson_eq]
  refine .obj (List.forall_mem_cons.mpr ⟨.arr parsedItems, ?_⟩)
  exact List.forall_mem_singleton.mpr (.arr failedItems)

/-! ### Its methods -/

/-- The summary of a method that the settings let pass is imported as the method. -/
theorem SessionM.importJson_ofMethod {session : Session} {settings : Settings} {text : String}
    {tree : MethodSig} {names : List String} (fresh : session.Fresh)
    (valid : session.inForce = .valid settings)
    (read : MethodSig.parse settings.maxLength text = .ok (tree, names)) :
    (importJson (MethodSummary.ofMethod tree).toJson).Returns session tree := by
  have written : tree.descriptor = text :=
    (Grammar.spelled_method tree).written (Grammar.decides_methodOnly.derives read)
  rw [← written] at read
  obtain ⟨id, after, answers, _⟩ := parseMethod_alone fresh valid read
  exact ⟨id, after, importJson_answers answers⟩

/-! ## Calls -/

namespace CommandLine

/-- The command line is understood as a batch. -/
def AsksBatch (arguments : List String) (path : String) (failFast : Option Bool) (json : Bool) :
    Prop :=
  ∃ call, Call.ofArguments? arguments = some call ∧
    call.command? = some (.batch path failFast json)

/-- The options of a batch. -/
def batchOptions (failFast : Option Bool) (json : Bool) : List String :=
  (failFast.map fun failFast => if failFast then "--fail-fast" else "--keep-going").toList ++
    if json then ["--json"] else []

section Scan

variable {specs : List OptionSpec} {argument : String} {given more : List Given}
  {others : List String}

theorem scanFrom_option (dashed : argument.toList.head? = some '-' ∧ 1 < argument.toList.length)
    (known : matchOption specs argument.toList = .complete more) (other : argument ≠ "--")
    (mixed : Bool) (rest : List String) :
    scanFrom specs mixed (argument :: rest) given others =
      scanFrom specs mixed rest (given ++ more) others := by
  rw [scanFrom, if_neg other, if_pos dashed, known]

theorem scanFrom_plain (plain : argument.toList.head? ≠ some '-') (mixed : Bool)
    (rest : List String) :
    scanFrom specs mixed (argument :: rest) given others =
      if mixed then scanFrom specs mixed rest given (others ++ [argument])
      else some ⟨given, others ++ argument :: rest⟩ := by
  have other : argument ≠ "--" := fun same => plain (by rw [same]; rfl)
  rw [scanFrom, if_neg other, if_neg fun dashed => plain dashed.1]

end Scan

/-- The options of a batch and the path of its file are understood. -/
theorem asksBatch_options {path : String} (plain : path.toList.head? ≠ some '-')
    (failFast : Option Bool) (json : Bool) :
    AsksBatch ("batch" :: batchOptions failFast json ++ [path]) path failFast json := by
  have option : ∀ name ∈ ["--fail-fast", "--keep-going", "--json"], ∀ rest given,
      scanFrom CommandName.batch.options true (name :: rest) given [] =
        scanFrom CommandName.batch.options true rest (given ++ [⟨name, none⟩]) [] := by
    intro name member rest given
    simp only [List.mem_cons, List.not_mem_nil, or_false] at member
    rcases member with rfl | rfl | rfl <;>
      exact scanFrom_option (by decide) rfl (by decide) true rest
  have last : ∀ given, scanFrom CommandName.batch.options true [path] given [] =
      some ⟨given, [path]⟩ := by
    intro given
    rw [scanFrom_plain plain, if_pos rfl]
    rfl
  have scanned : scan CommandName.batch.options true (batchOptions failFast json ++ [path]) =
      some ⟨(batchOptions failFast json).map fun name => ⟨name, none⟩, [path]⟩ := by
    unfold scan
    rcases failFast with _ | _ | _ <;> cases json <;> simp [batchOptions, option, last]
  refine ⟨⟨false, .batch, batchOptions failFast json ++ [path]⟩, ?_, ?_⟩
  · unfold Call.ofArguments? scan
    rw [List.cons_append, scanFrom_plain (by decide)]
    rfl
  · unfold Call.command?
    simp only [scanned]
    rcases failFast with _ | _ | _ <;> cases json <;> rfl

/-- A call of a command is not one for help on the program. -/
theorem not_asksProgramHelp {arguments : List String} {call : Call}
    (understood : Call.ofArguments? arguments = some call) : asksProgramHelp arguments = false := by
  unfold asksProgramHelp
  unfold Call.ofArguments? at understood
  cases found : scan programOptions false arguments with
  | none => rfl
  | some scanned =>
      rw [found] at understood
      cases help : scanned.asksHelp with
      | false => exact help
      | true => simp [help] at understood

section Runs

variable (terminal : Terminal)

/-- What is shown of the answer of a command, apart from the log: its output and the exit code. -/
def shown : Except Failure Report → String × Nat
  | .ok report =>
      let (stdout, complete) := terminal.out.printAll report.prints
      (stdout, if complete then report.exitCode else 1)
  | .error _ => ("", 1)

theorem finish_shown (verbose : Bool) (threshold : LogLevel) (answer : Except Failure Report)
    (session : Session) :
    ((finish terminal verbose threshold answer session).stdout,
      (finish terminal verbose threshold answer session).exitCode) = shown terminal answer := by
  rcases answer with failure | report
  · cases failure <;> rfl
  · rfl

variable {files : String → FileEntry} {call : Call} {command : Command}
  {operation : SessionM Report}

theorem runCall_eq (asked : call.command? = some command)
    (found : runCommand files command = some operation) (threshold : LogLevel)
    (session : Session) :
    runCall terminal files call threshold session =
      finish terminal call.verbose threshold (operation.outcome session).1
        (operation.outcome session).2 := by
  unfold runCall
  simp only [asked, found]
  rfl

/-- A call runs its command in a session in which nothing happened, and puts a log before what the
command reports of errors.  If the settings are not understood it may end before. -/
theorem run_command {arguments : List String}
    (understood : Call.ofArguments? arguments = some call) (asked : call.command? = some command)
    (found : runCommand files command = some operation) (sources : Sources) :
    (∃ (session : Session) (threshold : LogLevel) (log : String), session.Fresh ∧
      session.inForce = Settings.load sources ∧
      let ended := finish terminal call.verbose threshold (operation.outcome session).1
        (operation.outcome session).2
      runAt terminal sources files arguments = { ended with stderr := log ++ ended.stderr }) ∨
    ∃ issues log, Settings.load sources = .invalid issues ∧
      runAt terminal sources files arguments = ⟨1, "", log, "", some (.settings issues)⟩ := by
  let start := Session.start sources
  have fresh := Session.fresh_start sources
  have inForce : start.inForce = Settings.load sources := rfl
  have loading := SessionM.outcome_settings start
  rw [inForce] at loading
  unfold runAt
  simp only [not_asksProgramHelp understood, Bool.false_eq_true, if_false, understood]
  split
  · refine .inl ⟨start, .debug, "", fresh, inForce, ?_⟩
    rw [runCall_eq terminal asked found, String.empty_append]
  · cases loaded : Settings.load sources with
    | valid settings =>
        rw [loaded] at inForce loading
        let quiet := { start.loaded settings with log := [] }
        have freshQuiet : quiet.Fresh := (fresh.loaded settings).congr rfl rfl
        have same : quiet.inForce = .valid settings := start.inForce_loaded settings inForce
        refine .inl ⟨quiet, settings.logLevel, earlyLog (start.loaded settings), freshQuiet, same,
          ?_⟩
        have known : SessionM.settings.run (Session.start sources) =
          (.ok settings, start.loaded settings) := loading
        simp only [known]
        rw [runCall_eq terminal asked found]
    | invalid issues =>
        rw [loaded] at loading
        have unknown : SessionM.settings.run (Session.start sources) = _ := loading
        simp only [unknown]
        exact .inr ⟨issues, _, rfl, rfl⟩

/-- A call for a batch shows what the command answers in a session in which nothing happened. -/
theorem run_batch {sources : Sources} {settings : Settings} {arguments : List String}
    {path : String} {failFast : Option Bool} {json : Bool} {bytes : ByteArray}
    (valid : Settings.load sources = .valid settings) (found : files path = .file bytes)
    (asks : AsksBatch arguments path failFast json) :
    ∃ session : Session, session.Fresh ∧ session.inForce = .valid settings ∧
      ((runAt terminal sources files arguments).stdout,
        (runAt terminal sources files arguments).exitCode) =
          shown terminal ((runBatchCommand bytes failFast json).outcome session).1 := by
  obtain ⟨call, understood, asked⟩ := asks
  have operation : runCommand files (.batch path failFast json) =
      some (runBatchCommand bytes failFast json) := by
    unfold runCommand
    simp only [found]
  rcases run_command terminal understood asked operation sources with
    ⟨session, threshold, _, fresh, inForce, ended⟩ | ⟨issues, _, invalid, _⟩
  · refine ⟨session, fresh, inForce.trans valid, ?_⟩
    rw [ended]
    exact finish_shown terminal _ threshold _ _
  · cases valid.symm.trans invalid

end Runs

end CommandLine

/-! ## The command -/

namespace SessionM

variable {session after : Session} {settings : Settings} {context : Option ClassId}
  {cls : Option (Registered ClassSig)} {lines : List String} {parsed : List ParsedLine}
  {failures : List FailedLine} {failFast : Bool}

/-- A batch that does not stop answers what the lines were sorted into. -/
theorem finishBatch_answers
    (sorts : Session.Sorts settings (cls.map Registered.id) session 1 lines parsed failures after)
    (ready : session.Ready settings context cls) (clean : failFast = true → failures = []) :
    ∃ ended, (finishBatch ⟨context, failFast⟩ lines).Answers session ⟨parsed, failures⟩ ended := by
  cases failFast with
  | false => exact ⟨_, finishBatch_keepGoing sorts ready⟩
  | true =>
      obtain rfl := clean rfl
      exact ⟨_, (finishBatch_same sorts ready).trans (finishBatch_keepGoing sorts ready)⟩

theorem outcome_runFile {bytes : ByteArray} {text : String}
    (decoded : String.fromUTF8? bytes = some text) (failFast : Bool) (session : Session) :
    (runFile ⟨none, failFast⟩ bytes).outcome session =
      (finishBatch ⟨none, failFast⟩ ((Text.lines text.toList).map String.ofList)).outcome
        session := by
  have opened : (contextSignature none).Answers session none session := rfl
  rw [runFile_eq_runBatch _ decoded]
  exact outcome_openContext_bind opened _

end SessionM

/-- The exit code of a batch says whether a line was left out, whether or not the batch ended there.
A batch that did not end there shows its result. -/
theorem shown_batchCommand {terminal : Terminal} (documented : terminal.Documented)
    {session : Session} {settings : Settings} {bytes : ByteArray} {text : String}
    (fresh : session.Fresh) (valid : session.inForce = .valid settings)
    (decoded : String.fromUTF8? bytes = some text) (failFast : Option Bool) (json : Bool) :
    ∃ begun after parsed failures,
      Session.Sorts settings none begun 1 ((Text.lines text.toList).map String.ofList) parsed
        failures after ∧
      let answer := ((runBatchCommand bytes failFast json).outcome session).1
      (shown terminal answer).2 = (if failures = [] then 0 else 1) ∧
      (json = true → (failFast.getD settings.failFast = true → failures = []) →
        (shown terminal answer).1 = (batchJson ⟨parsed, failures⟩).render ++ "\n") := by
  obtain ⟨begun, planned, quiet⟩ := SessionM.planBatch_answers valid none failFast
  have ready : begun.Ready settings none none :=
    ⟨quiet.fresh fresh, quiet.inForce_eq.trans valid, rfl⟩
  obtain ⟨parsed, failures, after, sorts⟩ := Session.sorts_exists settings none begun 1
    ((Text.lines text.toList).map String.ofList)
  refine ⟨begun, after, parsed, failures, sorts, ?_⟩
  unfold SessionM.Answers at planned
  unfold runBatchCommand
  rw [SessionM.outcome_bind, planned]
  simp only []
  rw [SessionM.outcome_bind, SessionM.outcome_runFile decoded]
  by_cases clean : failFast.getD settings.failFast = true → failures = []
  · obtain ⟨ended, answers⟩ := SessionM.finishBatch_answers sorts ready clean
    rw [answers]
    refine ⟨?_, ?_⟩
    · cases failures with
      | cons failure more => exact ite_self 1
      | nil =>
          cases json with
          | true => rfl
          | false =>
              -- without malformed lines, all that is to be printed can be
              exact if_pos (documented.out.complete_batchPrints rfl fun entry member =>
                have ⟨_, read⟩ := sorts.parsed_read entry member
                MethodSig.canonical_of_parse read)
    · rintro rfl _
      exact String.append_empty
  · obtain ⟨stops, some⟩ := Classical.not_imp.mp clean
    obtain ⟨failure, more, rfl⟩ := List.exists_cons_of_ne_nil some
    obtain ⟨stop, fails, _⟩ := SessionM.finishBatch_stops sorts ready
    refine ⟨?_, fun _ ends => absurd ends clean⟩
    rw [stops, fails]
    rfl

/-! ## All reports -/

/-- The value of a member of an object. -/
def Json.field? (value : Json) (name : String) : Option Json :=
  match value with
  | .obj members => member? members name
  | _ => none

/-- The number of the line that an item is about, as it is written. -/
def Json.lineShown (item : Json) : String :=
  match item.field? "line" with
  | some (.int number) => toString number
  | _ => ""

/-- The cells of the row for a line: it shows the method, or the text and the error. -/
inductive Session.ShowsLine (session : Session) : Nat × String → List String → Prop
  | ok {number : Nat} {text : String} {tree : MethodSig} :
      (SessionM.parseMethod text none).Returns session tree →
      ShowsLine session (number, text) [toString number, "ok", tree.display]
  | error {number : Nat} {text : String} {error : GrammarError} :
      (SessionM.parseMethod text none).Refuses session error →
      ShowsLine session (number, text) [toString number, "error", text ++ ": " ++ error.message]

/-- The document with these items tells of the same lines as the table, and each method in it is
imported as the method that the text of its line is parsed into. -/
structure Json.TellsLines (document : Json) (parsed failures : List Json) (session : Session)
    (lines : List String) (table : Table) : Prop where
  parsed_eq : document.field? "parsed" = some (.arr parsed)
  failures_eq : document.field? "failures" = some (.arr failures)
  same_statuses : (parsed.map (fun item => [item.lineShown, "ok"]) ++
    failures.map fun item => [item.lineShown, "error"]).Perm (table.rows.map (List.take 2))
  imported : ∀ item ∈ parsed, ∃ number text tree signature,
    (number, text) ∈ candidates lines ∧ item.field? "line" = some (.int (number : Nat)) ∧
    item.field? "signature" = some signature ∧
    (SessionM.parseMethod text none).Returns session tree ∧
    ∀ later : Session, later.Fresh → later.inForce = session.inForce →
      (SessionM.importJson signature).Returns later tree

/-- The cells of a row. -/
def CommandLine.BatchRow.cells (row : BatchRow) : List String :=
  [toString row.line, if row.parsed then "ok" else "error", row.shown]

theorem rows_batchTable (result : BatchResult) :
    (batchTable result).rows = (batchRows result).map BatchRow.cells := rfl

theorem le_length_of_mem_candidates {number : Nat} {text : String} {lines : List String}
    (member : (number, text) ∈ candidates lines) : number ≤ lines.length := by
  obtain ⟨index, _, rfl, found, _⟩ := mem_candidatesFrom.mp member
  obtain ⟨within, _⟩ := List.getElem?_eq_some_iff.mp found
  rw [Nat.add_comm]
  exact within

section Reports

variable {session after : Session} {settings : Settings} {lines : List String}
  {parsed : List ParsedLine} {failures : List FailedLine}

theorem parseMethod_returns_iff (fresh : session.Fresh) (valid : session.inForce = .valid settings)
    {text : String} {tree : MethodSig} :
    (SessionM.parseMethod text none).Returns session tree ↔
      ∃ names, MethodSig.parse settings.maxLength text = .ok (tree, names) := by
  have alone : session.ContextReads settings none := nofun
  obtain ⟨id, after, given⟩ := SessionM.outcome_parseMethod fresh valid alone text
  exact SessionM.returns_iff_read given

theorem parseMethod_refuses_iff (fresh : session.Fresh) (valid : session.inForce = .valid settings)
    {text : String} {error : GrammarError} :
    (SessionM.parseMethod text none).Refuses session error ↔
      MethodSig.parse settings.maxLength text = .error error := by
  have alone : session.ContextReads settings none := nofun
  obtain ⟨id, after, given⟩ := SessionM.outcome_parseMethod fresh valid alone text
  exact SessionM.refuses_iff_read given

theorem showsLine_rowOf (fresh : session.Fresh) (valid : session.inForce = .valid settings)
    (line : Nat × String) : session.ShowsLine line (rowOf settings.maxLength line).cells := by
  obtain ⟨number, text⟩ := line
  cases read : MethodSig.parse settings.maxLength text with
  | ok given =>
      obtain ⟨tree, names⟩ := given
      rw [(line_ok (number, text) read).2.2]
      exact .ok ((parseMethod_returns_iff fresh valid).mpr ⟨names, read⟩)
  | error error =>
      rw [(line_error (number, text) read).2.2]
      exact .error ((parseMethod_refuses_iff fresh valid).mpr read)

theorem readable_of_sorts {sources : Sources} {link : Option SigId}
    (valid : Settings.load sources = .valid settings)
    (sorts : Session.Sorts settings link session 1 lines parsed failures after)
    (countable : lines.length < 10 ^ Text.maxDigits) : (batchJson ⟨parsed, failures⟩).Readable := by
  have limit : settings.maxLength < 10 ^ Text.maxDigits := by
    have most : Settings.lengthBounds.2.toNat < 10 ^ 7 := by decide
    have fits : 7 ≤ Text.maxDigits := by decide
    exact Nat.lt_of_le_of_lt (Settings.maxLength_le valid)
      (Nat.lt_of_lt_of_le most (Nat.pow_le_pow_right (by decide) fits))
  refine readable_batchJson (fun entry member => ?_) fun entry member => ⟨?_, ?_⟩
  · exact Nat.lt_of_le_of_lt (le_length_of_mem_candidates (sorts.parsed_mem entry member)) countable
  · exact Nat.lt_of_le_of_lt (le_length_of_mem_candidates (sorts.failures_mem entry member))
      countable
  · exact Nat.lt_of_le_of_lt (position_le_limit (sorts.failures_read entry member)) limit

theorem tellsLines_batchJson {link : Option SigId} (fresh : session.Fresh)
    (valid : session.inForce = .valid settings)
    (sorts : Session.Sorts settings link session 1 lines parsed failures after) :
    (batchJson ⟨parsed, failures⟩).TellsLines (parsed.map ParsedLine.item)
      (failures.map FailedLine.item) session lines (batchTable ⟨parsed, failures⟩) where
  parsed_eq := rfl
  failures_eq := rfl
  same_statuses := by
    have merged := ((batchRows_perm ⟨parsed, failures⟩).map (List.take 2 ∘ BatchRow.cells)).symm
    rw [List.map_append, List.map_map, List.map_map, List.map_map] at merged
    rw [rows_batchTable, List.map_map, List.map_map, List.map_map]
    exact merged
  imported := by
    intro item member
    obtain ⟨⟨number, text, id, tree⟩, among, rfl⟩ := List.mem_map.mp member
    obtain ⟨names, read⟩ := sorts.parsed_read _ among
    refine ⟨number, text, tree, _, sorts.parsed_mem _ among, rfl, rfl, ?_, ?_⟩
    · exact (parseMethod_returns_iff fresh valid).mpr ⟨names, read⟩
    · intro later freshLater same
      exact SessionM.importJson_ofMethod freshLater (same.trans valid) read

theorem exists_refused_iff {link : Option SigId} (fresh : session.Fresh)
    (valid : session.inForce = .valid settings)
    (sorts : Session.Sorts settings link session 1 lines parsed failures after) :
    (∃ line ∈ candidates lines, ∃ error,
      (SessionM.parseMethod line.2 none).Refuses session error) ↔ failures ≠ [] := by
  constructor
  · intro ⟨line, candidate, error, refused⟩
    have read := (parseMethod_refuses_iff fresh valid).mp refused
    exact List.ne_nil_of_mem (sorts.failures_iff.mpr ⟨candidate, read⟩)
  · intro some
    obtain ⟨entry, member⟩ := List.exists_mem_of_ne_nil failures some
    exact ⟨_, sorts.failures_mem entry member, entry.error,
      (parseMethod_refuses_iff fresh valid).mpr (sorts.failures_read entry member)⟩

/-- A call reports what the lines are sorted into, whatever the session they are sorted in. -/
theorem run_reports {sources : Sources} {files : String → FileEntry} {arguments : List String}
    {path : String} {failFast : Option Bool} {json : Bool} {bytes : ByteArray} {text : String}
    {link : Option SigId} (valid : Settings.load sources = .valid settings)
    (decoded : String.fromUTF8? bytes = some text) (found : files path = .file bytes)
    (asks : AsksBatch arguments path failFast json)
    (sorts : Session.Sorts settings link session 1 ((Text.lines text.toList).map String.ofList)
      parsed failures after) :
    (run sources files arguments).exitCode = (if failures = [] then 0 else 1) ∧
      (json = true → (failFast.getD settings.failFast = true → failures = []) →
        (run sources files arguments).stdout = (batchJson ⟨parsed, failures⟩).render ++ "\n") := by
  obtain ⟨begun, fresh, inForce, shows⟩ := run_batch .wide valid found asks
  obtain ⟨_, _, parsed', failures', sorts', code, output⟩ :=
    shown_batchCommand Terminal.wide_documented fresh inForce decoded failFast json
  -- the methods of the call have identities of their own, which are not shown
  obtain rfl : failures' = failures := sorts'.lists_eq.2.trans sorts.lists_eq.2.symm
  have document : batchJson ⟨parsed', failures'⟩ = batchJson ⟨parsed, failures'⟩ :=
    batchJson_congr (sorts'.lists_eq.1.trans sorts.lists_eq.1.symm) rfl
  rw [document] at output
  exact ⟨(congrArg Prod.snd shows).trans code,
    fun asked clean => (congrArg Prod.fst shows).trans (output asked clean)⟩

end Reports

/-- The reports on a file agree.  The table has one row for each line with a signature, in the order
of the lines.  The document tells of the same lines, and its methods can be imported.  The exit code
says whether a line is malformed, in whatever form the report is asked for and whether or not the
batch ends at such a line.  JSON numbers of more than `Text.maxDigits` digits are not read; only the
numbers of the lines could ever be as long. -/
theorem batch_reports_agree {sources : Sources} {settings : Settings} {bytes : ByteArray}
    {text : String} (valid : Settings.load sources = .valid settings)
    (decoded : String.fromUTF8? bytes = some text) :
    let session := Session.start sources
    let lines := (Text.lines text.toList).map String.ofList
    let rejected := ∃ line ∈ candidates lines, ∃ error,
      (SessionM.parseMethod line.2 none).Refuses session error
    ∃ result after, (SessionM.runFile ⟨none, false⟩ bytes).Answers session result after ∧
      (candidates lines).Pairwise (fun line later => line.1 < later.1) ∧
      List.Forall₂ session.ShowsLine (candidates lines) (batchTable result).rows ∧
      ∀ files path arguments failFast json, files path = .file bytes →
        AsksBatch arguments path failFast json →
        let outcome := run sources files arguments
        (rejected → outcome.exitCode = 1) ∧ (¬ rejected → outcome.exitCode = 0) ∧
        (json = true → (failFast.getD settings.failFast = true → ¬ rejected) →
          lines.length < 10 ^ Text.maxDigits →
          ∃ document parsed failures, Json.parse outcome.stdout = .ok document ∧
            document.TellsLines parsed failures session lines (batchTable result)) := by
  intro session lines rejected
  have fresh : session.Fresh := Session.fresh_start sources
  have inForce : session.inForce = .valid settings := valid
  have ready : session.Ready settings none none := ⟨fresh, inForce, rfl⟩
  obtain ⟨parsed, failures, after, sorts⟩ := Session.sorts_exists settings none session 1 lines
  have goesOn : false = true → failures = [] := nofun
  obtain ⟨ended, answers⟩ := SessionM.finishBatch_answers sorts ready goesOn
  have rejected_iff : rejected ↔ failures ≠ [] := exists_refused_iff fresh inForce sorts
  have clean_of : ¬ rejected → failures = [] := fun none => not_not.mp (mt rejected_iff.mpr none)
  refine ⟨⟨parsed, failures⟩, ended, (SessionM.outcome_runFile decoded false session).trans answers,
    ascending_candidatesFrom 1 lines, ?_, ?_⟩
  · rw [rows_batchTable, batchRows_eq sorts, List.forall₂_map_right_iff, List.forall₂_map_right_iff]
    exact List.forall₂_same.mpr fun line _ => showsLine_rowOf fresh inForce line
  · intro files path arguments failFast json found asks outcome
    obtain ⟨code, output⟩ := run_reports valid decoded found asks sorts
    refine ⟨fun some => ?_, fun none => ?_, fun asked clean countable => ?_⟩
    · exact code.trans (if_neg (rejected_iff.mp some))
    · exact code.trans (if_pos (clean_of none))
    · have newLine : Json.Ends "\n".toList := Json.ends_newLine 0 []
      have read := Json.parse_render_append (readable_of_sorts valid sorts countable) newLine rfl
      rw [← output asked fun ends => clean_of (clean ends)] at read
      exact ⟨_, _, _, read, tellsLines_batchJson fresh inForce sorts⟩

theorem batch_reports_agree_after_comment :
    let files := fun _ => FileEntry.file "# ()\n()V".toUTF8
    let outcome := run .empty files ["batch", "--fail-fast", "--json", "lines"]
    outcome.exitCode = 0 ∧ ∃ document, Json.parse outcome.stdout = .ok document := by
  intro files outcome
  have fresh := Session.fresh_start .empty
  have short : "()V".length ≤ Settings.standard.maxLength := by decide
  have reads : (Session.start .empty).ContextReads .standard none := nofun
  have exact := exact_parseMethod fresh inForce_start short reads
  have void : Grammar.DerivesMethod "()V".toList ⟨[], [], .base .void, []⟩ :=
    .mk (.mk .absent nofun) .nil (.primitive (by decide)) .nil
  have one : candidates ((Text.lines "# ()\n()V".toList).map String.ofList) = [(2, "()V")] := by
    decide
  have plain : "lines".toList.head? ≠ some '-' := by decide
  have asks := asksBatch_options plain (some true) true
  obtain ⟨result, after, _, _, _, reports⟩ := batch_reports_agree inForce_start
    (fromUTF8?_toUTF8 "# ()\n()V")
  obtain ⟨_, fine, read⟩ := reports files _ _ _ _ rfl asks
  have clean : ¬ ∃ line ∈ candidates ((Text.lines "# ()\n()V".toList).map String.ofList),
      ∃ error, (SessionM.parseMethod line.2 none).Refuses (Session.start .empty) error := by
    rw [one]
    intro ⟨line, candidate, refused⟩
    cases List.mem_singleton.mp candidate
    exact exact.refuses_iff.mp refused _ void
  have digits : 1 ≤ Text.maxDigits := by decide
  have countable : 2 < 10 ^ Text.maxDigits :=
    Nat.lt_of_lt_of_le (by decide) (Nat.pow_le_pow_right (by decide) digits)
  obtain ⟨document, _, _, parsed, _⟩ := read rfl (fun _ => clean) countable
  exact ⟨fine clean, document, parsed⟩

end GenericSignature
