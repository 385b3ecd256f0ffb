import GenericSignature.Grammar.Production

/-!
# What a reader does with a text

A run of a reader ends in one of two ways: it reads a value and leaves a rest (`Reader.Reads`), or
it finds a fault and leaves the text from there on (`Reader.Faults`).  A production has a third
way, it does not start (`Production.Passes`).

Every reader and production of the grammar is put together from a few operations.  Below, each
operation is described once by what its parts do; the later modules never look at `run` again,
except where they compare two runs.
-/

namespace GenericSignature.Grammar

variable {α β γ : Type}

/-! ## Readers -/

namespace Reader

/-- The reader reads the value off the front of the text and leaves the rest. -/
def Reads (reader : Reader α) (text : List Char) (value : α) (rest : List Char) : Prop :=
  (reader.run text).result = .ok value ∧ (reader.run text).rest = rest

/-- The reader finds the fault where the rest starts. -/
def Faults (reader : Reader α) (text : List Char) (fault : Fault) (rest : List Char) : Prop :=
  (reader.run text).result = .error fault ∧ (reader.run text).rest = rest

theorem reads_or_faults (reader : Reader α) (text : List Char) :
    (∃ value rest, reader.Reads text value rest) ∨ ∃ fault rest, reader.Faults text fault rest := by
  cases outcome : (reader.run text).result with
  | ok value => exact .inl ⟨value, _, outcome, rfl⟩
  | error fault => exact .inr ⟨fault, _, outcome, rfl⟩

theorem Reads.not_faults {reader : Reader α} {text rest rest' : List Char} {value : α}
    {fault : Fault} (reads : reader.Reads text value rest) :
    ¬ reader.Faults text fault rest' := by
  rintro ⟨failed, _⟩
  rw [reads.1] at failed
  cases failed

theorem Reads.unique {reader : Reader α} {text rest rest' : List Char} {value value' : α}
    (reads : reader.Reads text value rest) (reads' : reader.Reads text value' rest') :
    value = value' ∧ rest = rest' := by
  refine ⟨?_, reads.2.symm.trans reads'.2⟩
  exact Except.ok.inj (reads.1.symm.trans reads'.1)

theorem Reads.suffix {reader : Reader α} {text rest : List Char} {value : α}
    (reads : reader.Reads text value rest) : rest <:+ text :=
  reads.2 ▸ reader.suffix text

theorem Faults.suffix {reader : Reader α} {text rest : List Char} {fault : Fault}
    (faults : reader.Faults text fault rest) : rest <:+ text :=
  faults.2 ▸ reader.suffix text

@[simp]
theorem reads_pure {given value : α} {text rest : List Char} :
    (pure given : Reader α).Reads text value rest ↔ value = given ∧ rest = text := by
  show (Except.ok given = Except.ok value ∧ text = rest) ↔ _
  rw [Except.ok.injEq, eq_comm, eq_comm (a := text)]

@[simp]
theorem faults_pure {given : α} {text rest : List Char} {fault : Fault} :
    ¬ (pure given : Reader α).Faults text fault rest :=
  fun faults => nomatch faults.1

theorem run_bind_ok {first : Reader α} {next : α → Reader β} {text rest : List Char} {value : α}
    {names : List String} (read : first.run text = ⟨.ok value, rest, names⟩) :
    (first >>= next).run text =
      ⟨((next value).run rest).result, ((next value).run rest).rest,
        names ++ ((next value).run rest).names⟩ := by
  show (Reader.bind first next).run text = _
  unfold Reader.bind
  simp only [read]

theorem run_bind_error {first : Reader α} {next : α → Reader β} {text rest : List Char}
    {fault : Fault} {names : List String} (failed : first.run text = ⟨.error fault, rest, names⟩) :
    (first >>= next).run text = ⟨.error fault, rest, names⟩ := by
  show (Reader.bind first next).run text = _
  unfold Reader.bind
  simp only [failed]

@[ext]
theorem ext {first second : Reader α} (same : ∀ text, first.run text = second.run text) :
    first = second := by
  obtain ⟨run, _⟩ := first
  obtain ⟨run', _⟩ := second
  obtain rfl : run = run' := funext same
  rfl

theorem run_pure_bind (value : α) (next : α → Reader β) (text : List Char) :
    (pure value >>= next).run text = (next value).run text := by
  have read : (pure value : Reader α).run text = ⟨.ok value, text, []⟩ := rfl
  rw [run_bind_ok read, List.nil_append]

theorem run_bind_pure (reader : Reader α) (text : List Char) :
    (reader >>= pure).run text = reader.run text := by
  rcases reply : reader.run text with ⟨fault | value, rest, names⟩
  · exact run_bind_error reply
  · rw [run_bind_ok reply]
    show Reply.mk (.ok value) rest (names ++ []) = _
    rw [List.append_nil]

theorem run_bind_assoc (first : Reader α) (next : α → Reader β) (last : β → Reader γ)
    (text : List Char) :
    (first >>= next >>= last).run text = (first >>= fun value => next value >>= last).run text := by
  rcases reply : first.run text with ⟨fault | value, between, names⟩
  · rw [run_bind_error (run_bind_error reply), run_bind_error reply]
  · rcases later : (next value).run between with ⟨fault | value', rest, names'⟩
    · have failed : (first >>= next).run text = ⟨.error fault, rest, names ++ names'⟩ := by
        rw [run_bind_ok reply, later]
      rw [run_bind_error failed, run_bind_ok reply, run_bind_error later]
    · have read : (first >>= next).run text = ⟨.ok value', rest, names ++ names'⟩ := by
        rw [run_bind_ok reply, later]
      rw [run_bind_ok read, run_bind_ok reply, run_bind_ok later, List.append_assoc]

/-- A sequence of readers can be cut anywhere. -/
instance : LawfulMonad Reader :=
  .mk' Reader (fun reader => ext (run_bind_pure reader))
    (fun value next => ext (run_pure_bind value next))
    fun first next last => ext (run_bind_assoc first next last)

@[simp]
theorem reads_bind {first : Reader α} {next : α → Reader β} {text rest : List Char} {value : β} :
    (first >>= next).Reads text value rest ↔
      ∃ middle between, first.Reads text middle between ∧
        (next middle).Reads between value rest := by
  unfold Reads
  rcases reply : first.run text with ⟨_ | middle, between, names⟩
  · rw [run_bind_error reply]
    simp
  · rw [run_bind_ok reply]
    constructor
    · intro reads
      exact ⟨middle, between, ⟨rfl, rfl⟩, reads⟩
    · rintro ⟨_, _, ⟨⟨⟩, rfl⟩, reads⟩
      exact reads

@[simp]
theorem faults_bind {first : Reader α} {next : α → Reader β} {text rest : List Char}
    {fault : Fault} :
    (first >>= next).Faults text fault rest ↔
      first.Faults text fault rest ∨
        ∃ middle between, first.Reads text middle between ∧
          (next middle).Faults between fault rest := by
  unfold Reads Faults
  rcases reply : first.run text with ⟨_ | middle, between, names⟩
  · rw [run_bind_error reply]
    simp
  · rw [run_bind_ok reply]
    constructor
    · intro faults
      exact .inr ⟨middle, between, ⟨rfl, rfl⟩, faults⟩
    · rintro (⟨⟨⟩, _⟩ | ⟨_, _, ⟨⟨⟩, rfl⟩, faults⟩)
      exact faults

@[simp]
theorem reads_map {reader : Reader α} {f : α → β} {text rest : List Char} {value : β} :
    (f <$> reader).Reads text value rest ↔
      ∃ given, reader.Reads text given rest ∧ value = f given := by
  show (reader >>= fun given => pure (f given)).Reads text value rest ↔ _
  simp only [reads_bind, reads_pure]
  constructor
  · rintro ⟨given, between, reads, rfl, rfl⟩
    exact ⟨given, reads, rfl⟩
  · rintro ⟨given, reads, rfl⟩
    exact ⟨given, rest, reads, rfl, rfl⟩

@[simp]
theorem faults_map {reader : Reader α} {f : α → β} {text rest : List Char} {fault : Fault} :
    (f <$> reader).Faults text fault rest ↔ reader.Faults text fault rest := by
  show (reader >>= fun given => pure (f given)).Faults text fault rest ↔ _
  simp only [faults_bind, faults_pure, and_false, exists_false, or_false]

@[simp]
theorem reads_fail {fault : Fault} {text rest : List Char} {value : α} :
    ¬ (fail fault : Reader α).Reads text value rest :=
  fun reads => nomatch reads.1

@[simp]
theorem faults_fail {given fault : Fault} {text rest : List Char} :
    (fail given : Reader α).Faults text fault rest ↔ fault = given ∧ rest = text := by
  show (Except.error given = Except.error fault ∧ text = rest) ↔ _
  rw [Except.error.injEq, eq_comm, eq_comm (a := text)]

@[simp]
theorem reads_record {name : String} {text rest : List Char} {value : Unit} :
    (record name).Reads text value rest ↔ rest = text := by
  show (Except.ok () = Except.ok value ∧ text = rest) ↔ _
  rw [eq_comm (a := text)]
  exact and_iff_right rfl

@[simp]
theorem faults_record {name : String} {text rest : List Char} {fault : Fault} :
    ¬ (record name).Faults text fault rest :=
  fun faults => nomatch faults.1

@[simp]
theorem reads_expect {literal : Char} {text rest : List Char} {value : Unit} :
    (expect literal).Reads text value rest ↔ text = literal :: rest := by
  unfold Reads expect
  rcases text with _ | ⟨c, tail⟩
  · simp
  · by_cases same : c = literal <;> simp [same]

@[simp]
theorem faults_expect {literal : Char} {text rest : List Char} {fault : Fault} :
    (expect literal).Faults text fault rest ↔
      fault = .expected (String.singleton literal) text.head? ∧ rest = text ∧
        text.head? ≠ some literal := by
  unfold Faults expect
  rcases text with _ | ⟨c, tail⟩
  · simp only [List.head?_nil, Except.error.injEq, ne_eq, reduceCtorEq, not_false_eq_true, and_true]
    exact and_congr eq_comm eq_comm
  · by_cases same : c = literal
    · simp [same]
    · simp only [same, if_false, List.head?_cons, Except.error.injEq, ne_eq, Option.some.injEq,
        not_false_eq_true, and_true]
      exact and_congr eq_comm eq_comm

@[simp]
theorem reads_takeWhile {accepts : Char → Bool} {text rest value : List Char} :
    (takeWhile accepts).Reads text value rest ↔
      text = value ++ rest ∧ (∀ c ∈ value, accepts c = true) ∧
        rest.head?.any accepts = false := by
  constructor
  · rintro ⟨⟨⟩, rfl⟩
    refine ⟨List.takeWhile_append_dropWhile.symm, List.all_eq_true.mp List.all_takeWhile, ?_⟩
    have stops := List.head?_dropWhile_not accepts text
    show (text.dropWhile accepts).head?.any accepts = false
    generalize (text.dropWhile accepts).head? = next at stops ⊢
    cases next with
    | none => rfl
    | some c => exact stops
  · rintro ⟨rfl, all, stops⟩
    have stopped : rest.takeWhile accepts = [] ∧ rest.dropWhile accepts = rest := by
      rcases rest with _ | ⟨c, rest⟩
      · exact ⟨rfl, rfl⟩
      · have refused : accepts c = false := stops
        simp [refused]
    refine ⟨congrArg Except.ok ?_, ?_⟩
    · rw [List.takeWhile_append_of_pos all, stopped.1, List.append_nil]
    · show (value ++ rest).dropWhile accepts = rest
      rw [List.dropWhile_append_of_pos all, stopped.2]

@[simp]
theorem faults_takeWhile {accepts : Char → Bool} {text rest : List Char} {fault : Fault} :
    ¬ (takeWhile accepts).Faults text fault rest :=
  fun faults => nomatch faults.1

@[simp]
theorem reads_demand {accepts : Char → Bool} {given : Fault} {text rest : List Char}
    {value : Unit} :
    (demand accepts given).Reads text value rest ↔ text.head?.any accepts = true ∧ rest = text := by
  unfold Reads demand
  by_cases next : text.head?.any accepts = true <;> simp [next, eq_comm]

@[simp]
theorem faults_demand {accepts : Char → Bool} {given fault : Fault} {text rest : List Char} :
    (demand accepts given).Faults text fault rest ↔
      text.head?.any accepts = false ∧ fault = given ∧ rest = text := by
  unfold Faults demand
  by_cases next : text.head?.any accepts = true <;> simp [next, eq_comm]

@[simp]
theorem reads_refuse {rejects : Char → Bool} {given : Fault} {text rest : List Char}
    {value : Unit} :
    (refuse rejects given).Reads text value rest ↔
      text.head?.any rejects = false ∧ rest = text := by
  unfold Reads refuse
  by_cases next : text.head?.any rejects = true <;> simp [next, eq_comm]

@[simp]
theorem faults_refuse {rejects : Char → Bool} {given fault : Fault} {text rest : List Char} :
    (refuse rejects given).Faults text fault rest ↔
      text.head?.any rejects = true ∧ fault = given ∧ rest = text := by
  unfold Faults refuse
  by_cases next : text.head?.any rejects = true <;> simp [next, eq_comm]

@[simp]
theorem reads_sized {readers : Nat → Reader α} {text rest : List Char} {value : α} :
    (sized readers).Reads text value rest ↔ (readers text.length).Reads text value rest :=
  Iff.rfl

@[simp]
theorem faults_sized {readers : Nat → Reader α} {text rest : List Char} {fault : Fault} :
    (sized readers).Faults text fault rest ↔ (readers text.length).Faults text fault rest :=
  Iff.rfl

end Reader

/-! ## Productions -/

namespace Production

/-- The production starts at the front of the text, reads the value and leaves the rest. -/
def Reads (production : Production α) (text : List Char) (value : α) (rest : List Char) : Prop :=
  ∃ c tail body, text = c :: tail ∧ production c = .commit body ∧ body.Reads tail value rest

/-- The production does not start at the front of the text. -/
def Passes (production : Production α) (text : List Char) : Prop :=
  ∀ c ∈ text.head?, production c = .pass

/-- The production refuses the text, or it starts and finds a fault where the rest starts. -/
def Faults (production : Production α) (text : List Char) (fault : Fault) (rest : List Char) :
    Prop :=
  ∃ c tail, text = c :: tail ∧
    (production c = .refuse fault ∧ rest = text ∨
      ∃ body, production c = .commit body ∧ body.Faults tail fault rest)

@[simp]
theorem passes_nil {production : Production α} : production.Passes [] :=
  fun _ next => nomatch next

@[simp]
theorem passes_cons {production : Production α} {c : Char} {tail : List Char} :
    production.Passes (c :: tail) ↔ production c = .pass := by
  simp [Passes]

theorem reads_cons {production : Production α} {c : Char} {tail rest : List Char} {value : α} :
    production.Reads (c :: tail) value rest ↔
      ∃ body, production c = .commit body ∧ body.Reads tail value rest := by
  simp [Reads, and_assoc]

theorem faults_cons {production : Production α} {c : Char} {tail rest : List Char}
    {fault : Fault} :
    production.Faults (c :: tail) fault rest ↔
      production c = .refuse fault ∧ rest = c :: tail ∨
        ∃ body, production c = .commit body ∧ body.Faults tail fault rest := by
  simp [Faults, and_assoc]

@[simp]
theorem not_reads_nil {production : Production α} {rest : List Char} {value : α} :
    ¬ production.Reads [] value rest := by
  rintro ⟨c, tail, body, equal, _⟩
  cases equal

@[simp]
theorem not_faults_nil {production : Production α} {rest : List Char} {fault : Fault} :
    ¬ production.Faults [] fault rest := by
  rintro ⟨c, tail, equal, _⟩
  cases equal

theorem Reads.length_lt {production : Production α} {text rest : List Char} {value : α}
    (reads : production.Reads text value rest) : rest.length < text.length := by
  obtain ⟨c, tail, body, rfl, _, reads⟩ := reads
  exact Nat.lt_succ_of_le reads.suffix.length_le

theorem Faults.ne_nil {production : Production α} {text rest : List Char} {fault : Fault}
    (faults : production.Faults text fault rest) : text ≠ [] := by
  rintro rfl
  exact not_faults_nil faults

theorem run_attempt_pass {production : Production α} {c : Char} {tail : List Char}
    (chosen : production c = .pass) :
    production.attempt.run (c :: tail) = ⟨.ok none, c :: tail, []⟩ := by
  unfold attempt
  simp only [chosen]

theorem run_attempt_refuse {production : Production α} {c : Char} {tail : List Char}
    {fault : Fault} (chosen : production c = .refuse fault) :
    production.attempt.run (c :: tail) = ⟨.error fault, c :: tail, []⟩ := by
  unfold attempt
  simp only [chosen]

theorem run_attempt_commit {production : Production α} {c : Char} {tail : List Char}
    {body : Reader α} (chosen : production c = .commit body) :
    production.attempt.run (c :: tail) = (some <$> body).run tail := by
  unfold attempt
  simp only [chosen]

@[simp]
theorem reads_attempt_none {production : Production α} {text rest : List Char} :
    production.attempt.Reads text none rest ↔ production.Passes text ∧ rest = text := by
  rcases text with _ | ⟨c, tail⟩
  · simp [Reader.Reads, attempt, eq_comm]
  · rw [passes_cons]
    cases chosen : production c with
    | pass => simp [Reader.Reads, run_attempt_pass chosen, eq_comm]
    | refuse fault => simp [Reader.Reads, run_attempt_refuse chosen]
    | commit body =>
        have same : production.attempt.Reads (c :: tail) none rest ↔
            (some <$> body).Reads tail none rest := by
          unfold Reader.Reads
          rw [run_attempt_commit chosen]
        rw [same, Reader.reads_map]
        simp

@[simp]
theorem reads_attempt_some {production : Production α} {text rest : List Char} {value : α} :
    production.attempt.Reads text (some value) rest ↔ production.Reads text value rest := by
  rcases text with _ | ⟨c, tail⟩
  · simp [Reader.Reads, attempt]
  · rw [reads_cons]
    cases chosen : production c with
    | pass => simp [Reader.Reads, run_attempt_pass chosen]
    | refuse fault => simp [Reader.Reads, run_attempt_refuse chosen]
    | commit body =>
        have same : production.attempt.Reads (c :: tail) (some value) rest ↔
            (some <$> body).Reads tail (some value) rest := by
          unfold Reader.Reads
          rw [run_attempt_commit chosen]
        rw [same, Reader.reads_map]
        simp

@[simp]
theorem faults_attempt {production : Production α} {text rest : List Char} {fault : Fault} :
    production.attempt.Faults text fault rest ↔ production.Faults text fault rest := by
  rcases text with _ | ⟨c, tail⟩
  · simp [Reader.Faults, attempt]
  · rw [faults_cons]
    cases chosen : production c with
    | pass => simp [Reader.Faults, run_attempt_pass chosen]
    | refuse other => simp [Reader.Faults, run_attempt_refuse chosen, eq_comm]
    | commit body =>
        have same : production.attempt.Faults (c :: tail) fault rest ↔
            (some <$> body).Faults tail fault rest := by
          unfold Reader.Faults
          rw [run_attempt_commit chosen]
        rw [same, Reader.faults_map]
        simp

@[simp]
theorem reads_require {production : Production α} {missing : Fault} {text rest : List Char}
    {value : α} :
    (production.require missing).Reads text value rest ↔ production.Reads text value rest := by
  unfold require
  rw [Reader.reads_bind]
  constructor
  · rintro ⟨_ | found, between, attempted, reads⟩
    · exact absurd reads Reader.reads_fail
    · obtain ⟨rfl, rfl⟩ := Reader.reads_pure.mp reads
      exact reads_attempt_some.mp attempted
  · intro reads
    exact ⟨some value, rest, reads_attempt_some.mpr reads, Reader.reads_pure.mpr ⟨rfl, rfl⟩⟩

@[simp]
theorem faults_require {production : Production α} {missing fault : Fault}
    {text rest : List Char} :
    (production.require missing).Faults text fault rest ↔
      production.Faults text fault rest ∨
        production.Passes text ∧ fault = missing ∧ rest = text := by
  unfold require
  rw [Reader.faults_bind, faults_attempt]
  refine or_congr_right ⟨?_, ?_⟩
  · rintro ⟨_ | found, between, attempted, faults⟩
    · obtain ⟨passes, rfl⟩ := reads_attempt_none.mp attempted
      exact ⟨passes, Reader.faults_fail.mp faults⟩
    · exact absurd faults Reader.faults_pure
  · rintro ⟨passes, faults⟩
    exact ⟨none, text, reads_attempt_none.mpr ⟨passes, rfl⟩, Reader.faults_fail.mpr faults⟩

/-! ### Productions from productions -/

@[simp]
theorem reads_starting {literal : Char} {body : Reader α} {text rest : List Char} {value : α} :
    (starting literal body).Reads text value rest ↔
      ∃ tail, text = literal :: tail ∧ body.Reads tail value rest := by
  rcases text with _ | ⟨c, tail⟩
  · simp
  · rw [reads_cons]
    by_cases same : c = literal <;> simp [starting, same]

@[simp]
theorem passes_starting {literal : Char} {body : Reader α} {text : List Char} :
    (starting literal body).Passes text ↔ text.head? ≠ some literal := by
  rcases text with _ | ⟨c, tail⟩
  · simp
  · rw [passes_cons]
    by_cases same : c = literal <;> simp [starting, same]

@[simp]
theorem faults_starting {literal : Char} {body : Reader α} {text rest : List Char}
    {fault : Fault} :
    (starting literal body).Faults text fault rest ↔
      ∃ tail, text = literal :: tail ∧ body.Faults tail fault rest := by
  rcases text with _ | ⟨c, tail⟩
  · simp
  · rw [faults_cons]
    by_cases same : c = literal <;> simp [starting, same]

@[simp]
theorem reads_orElse {first second : Production α} {text rest : List Char} {value : α} :
    (first.orElse second).Reads text value rest ↔
      first.Reads text value rest ∨ first.Passes text ∧ second.Reads text value rest := by
  rcases text with _ | ⟨c, tail⟩
  · simp
  · rw [reads_cons, reads_cons, reads_cons, passes_cons]
    cases choice : first c <;> simp [orElse, choice]

@[simp]
theorem passes_orElse {first second : Production α} {text : List Char} :
    (first.orElse second).Passes text ↔ first.Passes text ∧ second.Passes text := by
  rcases text with _ | ⟨c, tail⟩
  · simp
  · rw [passes_cons, passes_cons, passes_cons]
    cases choice : first c <;> simp [orElse, choice]

@[simp]
theorem faults_orElse {first second : Production α} {text rest : List Char} {fault : Fault} :
    (first.orElse second).Faults text fault rest ↔
      first.Faults text fault rest ∨ first.Passes text ∧ second.Faults text fault rest := by
  rcases text with _ | ⟨c, tail⟩
  · simp
  · rw [faults_cons, faults_cons, faults_cons, passes_cons]
    cases choice : first c <;> simp [orElse, choice]

@[simp]
theorem reads_map {production : Production α} {f : α → β} {text rest : List Char} {value : β} :
    (production.map f).Reads text value rest ↔
      ∃ given, production.Reads text given rest ∧ value = f given := by
  rcases text with _ | ⟨c, tail⟩
  · simp
  · simp only [reads_cons]
    cases choice : production c with
    | pass => simp [map, Choice.map, choice]
    | refuse fault => simp [map, Choice.map, choice]
    | commit body =>
        have mapped : production.map f c = .commit (do return f (← body)) := by
          simp only [map, Choice.map, choice]
        rw [mapped]
        simp only [Choice.commit.injEq, exists_eq_left', Reader.reads_bind, Reader.reads_pure]
        constructor
        · rintro ⟨given, between, reads, rfl, rfl⟩
          exact ⟨given, reads, rfl⟩
        · rintro ⟨given, reads, rfl⟩
          exact ⟨given, rest, reads, rfl, rfl⟩

@[simp]
theorem passes_map {production : Production α} {f : α → β} {text : List Char} :
    (production.map f).Passes text ↔ production.Passes text := by
  rcases text with _ | ⟨c, tail⟩
  · simp
  · rw [passes_cons, passes_cons]
    cases choice : production c <;> simp [map, Choice.map, choice]

@[simp]
theorem faults_map {production : Production α} {f : α → β} {text rest : List Char}
    {fault : Fault} :
    (production.map f).Faults text fault rest ↔ production.Faults text fault rest := by
  rcases text with _ | ⟨c, tail⟩
  · simp
  · rw [faults_cons, faults_cons]
    cases choice : production c <;> simp [map, Choice.map, choice]

end Production

/-! ## Loops

The loop of the grammar keeps what it has read in reverse.  Seen from outside it reads one item and
goes on as a loop, so the operations above describe it. -/

namespace Reader

section Loops

variable {step : Char → Step α} {ended : Option Fault} {c : Char} {rest : List Char}

theorem manyFrom_item_error {body : Reader α} {items : List α} {seen names : List String}
    {left : List Char} {fault : Fault} (chosen : step c = .item body)
    (failed : body.run rest = ⟨.error fault, left, names⟩) :
    manyFrom step ended (c :: rest) items seen = ⟨.error fault, left, seen.reverse ++ names⟩ := by
  rw [manyFrom.eq_def]
  simp only [chosen, failed]

theorem manyFrom_item_ok {body : Reader α} {items : List α} {seen names : List String}
    {left : List Char} {value : α} (chosen : step c = .item body)
    (found : body.run rest = ⟨.ok value, left, names⟩) :
    manyFrom step ended (c :: rest) items seen =
      manyFrom step ended left (value :: items) (names.reverseAux seen) := by
  rw [manyFrom.eq_def]
  simp only [chosen, found]

/-- What the loop has read before it goes on stays in front. -/
theorem manyFrom_eq (step : Char → Step α) (ended : Option Fault) (text : List Char)
    (items : List α) (seen : List String) :
    manyFrom step ended text items seen =
      ⟨(manyFrom step ended text [] []).result.map (items.reverse ++ ·),
        (manyFrom step ended text [] []).rest,
        seen.reverse ++ (manyFrom step ended text [] []).names⟩ := by
  rcases text with _ | ⟨c, rest⟩
  · cases ended <;> simp [manyFrom.eq_def, Except.map]
  · cases chosen : step c with
    | stop => simp [manyFrom.eq_def, chosen, Except.map]
    | close => simp [manyFrom.eq_def, chosen, Except.map]
    | fail fault => simp [manyFrom.eq_def, chosen, Except.map]
    | item body =>
        rcases reply : body.run rest with ⟨_ | value, left, names⟩
        · rw [manyFrom_item_error chosen reply, manyFrom_item_error chosen reply]
          rfl
        · have shorter : left.length ≤ rest.length := by
            simpa [reply] using body.length_rest_le rest
          rw [manyFrom_item_ok chosen reply, manyFrom_item_ok chosen reply,
            manyFrom_eq step ended left (value :: items), manyFrom_eq step ended left [value]]
          cases (manyFrom step ended left [] []).result <;>
            simp [Except.map, List.reverseAux_eq]
termination_by text.length
decreasing_by all_goals exact Nat.lt_succ_of_le shorter

theorem run_many_nil :
    (many step ended).run [] =
      ⟨match ended with
        | none => .ok []
        | some fault => .error fault, [], []⟩ := by
  show manyFrom step ended [] [] [] = _
  cases ended <;> simp [manyFrom.eq_def]

theorem run_many_stop (chosen : step c = .stop) :
    (many step ended).run (c :: rest) = ⟨.ok [], c :: rest, []⟩ := by
  show manyFrom step ended (c :: rest) [] [] = _
  simp [manyFrom.eq_def, chosen]

theorem run_many_close (chosen : step c = .close) :
    (many step ended).run (c :: rest) = ⟨.ok [], rest, []⟩ := by
  show manyFrom step ended (c :: rest) [] [] = _
  simp [manyFrom.eq_def, chosen]

theorem run_many_fail {fault : Fault} (chosen : step c = .fail fault) :
    (many step ended).run (c :: rest) = ⟨.error fault, c :: rest, []⟩ := by
  show manyFrom step ended (c :: rest) [] [] = _
  simp [manyFrom.eq_def, chosen]

/-- A loop that meets an item reads the item and then goes on as a loop. -/
theorem run_many_item {body : Reader α} (chosen : step c = .item body) :
    (many step ended).run (c :: rest) =
      (do
        let value ← body
        let values ← many step ended
        return value :: values : Reader (List α)).run rest := by
  show manyFrom step ended (c :: rest) [] [] = _
  rcases reply : body.run rest with ⟨_ | value, left, names⟩
  · rw [manyFrom_item_error chosen reply, run_bind_error reply]
    rfl
  · rw [manyFrom_item_ok chosen reply, run_bind_ok reply, manyFrom_eq]
    rcases loop : manyFrom step ended left [] [] with ⟨_ | values, last, more⟩
    · have failed : (many step ended).run left = _ := loop
      rw [run_bind_error failed]
      simp [Except.map]
    · have found : (many step ended).run left = _ := loop
      rw [run_bind_ok found]
      simp [Except.map, pure, Reader.pure]

end Loops

/-- Items up to a closing character. -/
def closedBy (close : Char) (item : Production α) (missing unclosed : Fault) : Reader (List α) :=
  many (fun c => if c = close then .close else (item c).orFail missing) (some unclosed)

/-- Items up to the end of the text. -/
def toEnd (item : Production α) (extra : Fault) : Reader (List α) :=
  many (fun c => (item c).orFail extra) none

end Reader

theorem Choice.orFail_eq_item {choice : Choice α} {fault : Fault} {body : Reader α} :
    choice.orFail fault = .item body ↔ choice = .commit body := by
  cases choice <;> simp [orFail]

theorem Choice.orFail_ne_stop {choice : Choice α} {fault : Fault} :
    choice.orFail fault ≠ .stop := by
  cases choice <;> simp [orFail]

theorem Choice.orFail_ne_close {choice : Choice α} {fault : Fault} :
    choice.orFail fault ≠ .close := by
  cases choice <;> simp [orFail]

end GenericSignature.Grammar
