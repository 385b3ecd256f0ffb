import GenericSignature.Proofs.Reading

/-!
# One character of lookahead

A run of a reader depends on what it reads and on the one character after that.  The relation
`Reader.Alike` says so of two readers at once: if the first one reads some text and leaves a rest,
the second one reads the same text and leaves any other rest that starts alike, with the same
result and the same names.

The two readers differ in the nesting depth that they are made for.  The depth limits the length of
the texts that they can be told apart by, hence the two bounds of `Alike`: the longer texts are
not spoken of.  One relation therefore gives both that a reader looks one character ahead and that
a depth which is enough is as good as any other.
-/

namespace GenericSignature.Grammar

variable {α β : Type}

theorem cons_append_ne (c : Char) (read rest : List Char) : c :: (read ++ rest) ≠ rest := by
  intro equal
  have longer := congrArg List.length equal
  simp only [List.length_cons, List.length_append] at longer
  omega

/-! ## Readers -/

namespace Reader

/-- On texts up to the two lengths the readers give the same answer, whatever comes after the next
character. -/
def Alike (m n : Nat) (first second : Reader α) : Prop :=
  ∀ ⦃read rest other : List Char⦄ ⦃result : Except Fault α⦄ ⦃names : List String⦄,
    rest.head? = other.head? → (read ++ rest).length ≤ m → (read ++ other).length ≤ n →
    first.run (read ++ rest) = ⟨result, rest, names⟩ →
    second.run (read ++ other) = ⟨result, other, names⟩

variable {m n : Nat}

theorem Alike.mono {first second : Reader α} {m' n' : Nat} (alike : Alike m n first second)
    (less : m' ≤ m) (less' : n' ≤ n) : Alike m' n' first second :=
  fun _ _ _ _ _ head short short' =>
    alike head (Nat.le_trans short less) (Nat.le_trans short' less')

/-- A reader that reads nothing and answers by the next character. -/
theorem alike_of_still {reader : Reader α} (answer : Option Char → Except Fault α)
    (seen : List String) (still : ∀ text, reader.run text = ⟨answer text.head?, text, seen⟩) :
    Alike m n reader reader := by
  intro read rest other result names head _ _ run
  rw [still, Reply.mk.injEq] at run
  obtain ⟨rfl, nothing, rfl⟩ := run
  obtain rfl : read = [] := List.append_left_eq_self.mp nothing
  rw [still, List.nil_append, List.nil_append, head]

theorem alike_pure (value : α) : Alike m n (pure value : Reader α) (pure value) :=
  alike_of_still (fun _ => .ok value) [] fun _ => rfl

theorem alike_fail (fault : Fault) : Alike m n (fail fault : Reader α) (fail fault) :=
  alike_of_still (fun _ => .error fault) [] fun _ => rfl

theorem alike_record (name : String) : Alike m n (record name) (record name) :=
  alike_of_still (fun _ => .ok ()) [name] fun _ => rfl

theorem alike_demand (accepts : Char → Bool) (fault : Fault) :
    Alike m n (demand accepts fault) (demand accepts fault) := by
  refine alike_of_still (fun next => if next.any accepts then .ok () else .error fault) []
    fun text => ?_
  by_cases next : text.head?.any accepts = true <;> simp [demand, next]

theorem alike_refuse (rejects : Char → Bool) (fault : Fault) :
    Alike m n (refuse rejects fault) (refuse rejects fault) := by
  refine alike_of_still (fun next => if next.any rejects then .error fault else .ok ()) []
    fun text => ?_
  by_cases next : text.head?.any rejects = true <;> simp [refuse, next]

theorem alike_expect (literal : Char) : Alike m n (expect literal) (expect literal) := by
  intro read rest other result names head _ _ run
  rcases read with _ | ⟨c, read⟩
  · -- nothing was read: the next character is another one, or there is none
    rcases rest with _ | ⟨c, rest⟩
    · obtain rfl := List.head?_eq_none_iff.mp head.symm
      exact run
    · obtain ⟨other, rfl⟩ := List.head?_eq_some_iff.mp head.symm
      by_cases same : c = literal <;> simp_all [expect]
  · by_cases same : c = literal
    · simp_all [expect]
    · simp only [expect, List.cons_append, same, if_false, Reply.mk.injEq] at run
      have longer := congrArg List.length run.2.1
      simp only [List.length_cons, List.length_append] at longer
      omega

theorem alike_takeWhile (accepts : Char → Bool) :
    Alike m n (takeWhile accepts) (takeWhile accepts) := by
  intro read rest other result names head _ _ run
  obtain ⟨value, rfl⟩ : ∃ value, result = .ok value := ⟨_, (congrArg Reply.result run).symm⟩
  have reads : (takeWhile accepts).Reads (read ++ rest) value rest :=
    ⟨congrArg Reply.result run, congrArg Reply.rest run⟩
  obtain ⟨split, all, stops⟩ := reads_takeWhile.mp reads
  obtain rfl := List.append_cancel_right split
  rw [head] at stops
  obtain ⟨same, left⟩ := reads_takeWhile.mpr ⟨rfl, all, stops⟩
  have silent : [] = names := congrArg Reply.names run
  rw [← same, ← silent]
  exact congrArg (Reply.mk _ · _) left

/-- A reader that is told how many characters are left, where the number makes no difference. -/
theorem alike_sized {readers : Nat → Reader α}
    (alike : ∀ m n, Alike m n (readers m) (readers n)) :
    Alike m n (sized readers) (sized readers) :=
  fun _ _ _ _ _ head _ _ run => alike _ _ head (Nat.le_refl _) (Nat.le_refl _) run

theorem Alike.bind {first second : Reader α} {next next' : α → Reader β}
    (start : Alike m n first second) (go : ∀ value, Alike m n (next value) (next' value)) :
    Alike m n (first >>= next) (second >>= next') := by
  intro read rest other result names head short short' run
  rcases reply : first.run (read ++ rest) with ⟨fault | value, between, seen⟩
  · rw [run_bind_error reply, Reply.mk.injEq] at run
    obtain ⟨rfl, rfl, rfl⟩ := run
    exact run_bind_error (start head short short' reply)
  · rw [run_bind_ok reply, Reply.mk.injEq] at run
    obtain ⟨same, left, rfl⟩ := run
    -- what the first part reads, and what the second part reads after it
    obtain ⟨back, rfl⟩ : rest <:+ between := left ▸ (next value).suffix between
    obtain ⟨front, split⟩ : back ++ rest <:+ read ++ rest := by
      simpa only [reply] using first.suffix (read ++ rest)
    obtain rfl : front ++ back = read := by
      refine (List.append_left_inj rest).mp ?_
      rw [List.append_assoc, split]
    rw [List.append_assoc] at reply short short'
    have headed : (back ++ rest).head? = (back ++ other).head? := by
      rw [List.head?_append, List.head?_append, head]
    have further := start headed short short' reply
    have within : (back ++ rest).length ≤ m :=
      Nat.le_trans (List.suffix_append front (back ++ rest)).length_le short
    have within' : (back ++ other).length ≤ n :=
      Nat.le_trans (List.suffix_append front (back ++ other)).length_le short'
    have last : (next value).run (back ++ rest) =
        ⟨result, rest, ((next value).run (back ++ rest)).names⟩ := by
      rcases outcome : (next value).run (back ++ rest) with ⟨answer, remains, later⟩
      rw [outcome] at same left
      obtain ⟨rfl, rfl⟩ : answer = result ∧ remains = rest := ⟨same, left⟩
      rfl
    rw [List.append_assoc, run_bind_ok further, go value head within within' last]

end Reader

/-! ## Productions -/

/-- The same choice, with bodies that are alike. -/
inductive Choice.Alike (m n : Nat) : Choice α → Choice α → Prop
  | pass : Alike m n .pass .pass
  | refuse (fault : Fault) : Alike m n (.refuse fault) (.refuse fault)
  | commit {body other : Reader α} :
      Reader.Alike m n body other → Alike m n (.commit body) (.commit other)

theorem Choice.Alike.mono {choice choice' : Choice α} {m n m' n' : Nat}
    (alike : choice.Alike m n choice') (less : m' ≤ m) (less' : n' ≤ n) :
    choice.Alike m' n' choice' := by
  cases alike with
  | pass => exact .pass
  | refuse fault => exact .refuse fault
  | commit bodies => exact .commit (bodies.mono less less')

namespace Production

/-- The same choice on every character.  The character counts for the lengths. -/
def Alike (m n : Nat) (first second : Production α) : Prop :=
  ∀ c, 0 < m → 0 < n → (first c).Alike (m - 1) (n - 1) (second c)

variable {m n : Nat} {first second : Production α}

theorem Alike.mono {m' n' : Nat} (alike : Alike m n first second) (less : m' ≤ m)
    (less' : n' ≤ n) : Alike m' n' first second := fun c positive positive' =>
  (alike c (Nat.lt_of_lt_of_le positive less) (Nat.lt_of_lt_of_le positive' less')).mono
    (Nat.sub_le_sub_right less 1) (Nat.sub_le_sub_right less' 1)

theorem Alike.attempt (alike : Alike m n first second) :
    Reader.Alike m n first.attempt second.attempt := by
  intro read rest other result names head short short' run
  rcases read with _ | ⟨c, read⟩
  · rcases rest with _ | ⟨c, rest⟩
    · obtain rfl := List.head?_eq_none_iff.mp head.symm
      exact run
    · obtain ⟨other, rfl⟩ := List.head?_eq_some_iff.mp head.symm
      have choices := alike c (Nat.zero_lt_of_lt short) (Nat.zero_lt_of_lt short')
      generalize chosen : first c = choice at choices
      generalize chosen' : second c = choice' at choices
      rw [List.nil_append] at run
      cases choices with
      | pass =>
          rw [run_attempt_pass chosen, Reply.mk.injEq] at run
          obtain ⟨rfl, _, rfl⟩ := run
          exact run_attempt_pass chosen'
      | refuse fault =>
          rw [run_attempt_refuse chosen, Reply.mk.injEq] at run
          obtain ⟨rfl, _, rfl⟩ := run
          exact run_attempt_refuse chosen'
      | @commit body body' =>
          -- a production that commits has read its first character
          rw [run_attempt_commit chosen] at run
          have shorter := (some <$> body).length_rest_le rest
          rw [run] at shorter
          exact absurd shorter (Nat.not_succ_le_self _)
  · have choices := alike c (Nat.zero_lt_of_lt short) (Nat.zero_lt_of_lt short')
    generalize chosen : first c = choice at choices
    generalize chosen' : second c = choice' at choices
    rw [List.cons_append] at run
    cases choices with
    | pass =>
        rw [run_attempt_pass chosen, Reply.mk.injEq] at run
        exact absurd run.2.1 (cons_append_ne c read rest)
    | refuse fault =>
        rw [run_attempt_refuse chosen, Reply.mk.injEq] at run
        exact absurd run.2.1 (cons_append_ne c read rest)
    | @commit body body' bodies =>
        rw [run_attempt_commit chosen] at run
        rw [List.cons_append, run_attempt_commit chosen']
        exact (bodies.bind fun value => Reader.alike_pure (some value)) head
          (Nat.le_sub_one_of_lt short) (Nat.le_sub_one_of_lt short') run

theorem Alike.require (alike : Alike m n first second) (missing : Fault) :
    Reader.Alike m n (first.require missing) (second.require missing) := by
  refine alike.attempt.bind fun found => ?_
  cases found with
  | none => exact Reader.alike_fail missing
  | some value => exact Reader.alike_pure value

theorem Alike.attemptList {first second : Production (List α)} (alike : Alike m n first second) :
    Reader.Alike m n first.attemptList second.attemptList :=
  alike.attempt.bind fun found => Reader.alike_pure (found.getD [])

theorem alike_starting (literal : Char) {body other : Reader α}
    (bodies : Reader.Alike (m - 1) (n - 1) body other) :
    Alike m n (starting literal body) (starting literal other) := by
  intro c _ _
  unfold starting
  split
  · exact .commit bodies
  · exact .pass

theorem Alike.orElse {third fourth : Production α} (alike : Alike m n first second)
    (alike' : Alike m n third fourth) : Alike m n (first.orElse third) (second.orElse fourth) := by
  intro c positive positive'
  have choices := alike c positive positive'
  unfold Production.orElse
  generalize first c = choice at choices
  generalize second c = choice' at choices
  cases choices with
  | pass => exact alike' c positive positive'
  | refuse fault => exact .refuse fault
  | commit bodies => exact .commit bodies

theorem Alike.map {f : α → β} (alike : Alike m n first second) :
    Alike m n (first.map f) (second.map f) := by
  intro c positive positive'
  have choices := alike c positive positive'
  unfold Production.map
  generalize first c = choice at choices
  generalize second c = choice' at choices
  cases choices with
  | pass => exact .pass
  | refuse fault => exact .refuse fault
  | commit bodies => exact .commit (bodies.bind fun value => Reader.alike_pure (f value))

end Production

/-! ## Loops -/

/-- The same step, with items that are alike. -/
inductive Step.Alike (m n : Nat) : Step α → Step α → Prop
  | stop : Alike m n .stop .stop
  | close : Alike m n .close .close
  | fail (fault : Fault) : Alike m n (.fail fault) (.fail fault)
  | item {body other : Reader α} :
      Reader.Alike m n body other → Alike m n (.item body) (.item other)

theorem Step.Alike.mono {step step' : Step α} {m n m' n' : Nat} (alike : step.Alike m n step')
    (less : m' ≤ m) (less' : n' ≤ n) : step.Alike m' n' step' := by
  cases alike with
  | stop => exact .stop
  | close => exact .close
  | fail fault => exact .fail fault
  | item bodies => exact .item (bodies.mono less less')

theorem Choice.Alike.orFail {choice choice' : Choice α} {m n : Nat}
    (alike : choice.Alike m n choice') (fault : Fault) :
    (choice.orFail fault).Alike m n (choice'.orFail fault) := by
  cases alike with
  | pass => exact .fail fault
  | refuse other => exact .fail other
  | commit bodies => exact .item bodies

namespace Reader

/-- The induction is on the length of the text: after an item there is less of it. -/
theorem alike_many {step step' : Char → Step α} {ended : Option Fault} {m n : Nat}
    (steps : ∀ c, 0 < m → 0 < n → (step c).Alike (m - 1) (n - 1) (step' c)) :
    Alike m n (many step ended) (many step' ended) := by
  induction m generalizing n with
  | zero =>
      intro read rest other result names head short _ run
      have empty := List.length_eq_zero_iff.mp (Nat.le_zero.mp short)
      obtain ⟨rfl, rfl⟩ := List.append_eq_nil_iff.mp empty
      obtain rfl := List.head?_eq_none_iff.mp head.symm
      rw [List.nil_append, run_many_nil] at run ⊢
      exact run
  | succ m ih =>
      have later : ∀ {k}, n = k + 1 → Alike m k (many step ended) (many step' ended) := by
        rintro k rfl
        refine ih fun c _ _ => (steps c (Nat.succ_pos m) (Nat.succ_pos k)).mono ?_ ?_
        · exact Nat.sub_le m 1
        · exact Nat.sub_le k 1
      intro read rest other result names head short short' run
      rcases read with _ | ⟨c, read⟩
      · rcases rest with _ | ⟨c, rest⟩
        · obtain rfl := List.head?_eq_none_iff.mp head.symm
          rw [List.nil_append, run_many_nil] at run ⊢
          exact run
        · obtain ⟨other, rfl⟩ := List.head?_eq_some_iff.mp head.symm
          have chosen := steps c (Nat.succ_pos m) (Nat.zero_lt_of_lt short')
          generalize taken : step c = first at chosen
          generalize taken' : step' c = second at chosen
          rw [List.nil_append] at run
          cases chosen with
          | stop =>
              rw [run_many_stop taken, Reply.mk.injEq] at run
              obtain ⟨rfl, _, rfl⟩ := run
              exact run_many_stop taken'
          | close =>
              rw [run_many_close taken, Reply.mk.injEq] at run
              exact absurd run.2.1.symm (List.cons_ne_self c rest)
          | fail fault =>
              rw [run_many_fail taken, Reply.mk.injEq] at run
              obtain ⟨rfl, _, rfl⟩ := run
              exact run_many_fail taken'
          | @item body body' =>
              rw [run_many_item taken] at run
              have shorter := Reader.length_rest_le (do
                let value ← body
                let values ← many step ended
                return value :: values : Reader (List α)) rest
              rw [run] at shorter
              exact absurd shorter (Nat.not_succ_le_self _)
      · have chosen := steps c (Nat.succ_pos m) (Nat.zero_lt_of_lt short')
        generalize taken : step c = first at chosen
        generalize taken' : step' c = second at chosen
        rw [List.cons_append] at run
        cases chosen with
        | stop =>
            rw [run_many_stop taken, Reply.mk.injEq] at run
            exact absurd run.2.1 (cons_append_ne c read rest)
        | close =>
            rw [run_many_close taken, Reply.mk.injEq] at run
            obtain ⟨rfl, nothing, rfl⟩ := run
            obtain rfl := List.append_left_eq_self.mp nothing
            exact run_many_close taken'
        | fail fault =>
            rw [run_many_fail taken, Reply.mk.injEq] at run
            exact absurd run.2.1 (cons_append_ne c read rest)
        | @item body body' bodies =>
            obtain ⟨k, rfl⟩ := Nat.exists_eq_succ_of_ne_zero
              (Nat.ne_of_gt (Nat.zero_lt_of_lt short'))
            rw [run_many_item taken] at run
            rw [List.cons_append, run_many_item taken']
            exact (bodies.bind fun value => (later rfl).bind fun values =>
              alike_pure (value :: values)) head (Nat.le_of_succ_le_succ short)
              (Nat.le_of_succ_le_succ short') run

variable {m n : Nat}

theorem Alike.marked {item item' : Reader α} (mark : Char) (alike : Alike m n item item') :
    Alike m n (marked mark item) (marked mark item') := by
  refine alike_many fun c _ _ => ?_
  split
  · exact .item (alike.mono (Nat.sub_le m 1) (Nat.sub_le n 1))
  · exact .stop

theorem alike_closedBy {item item' : Production α} (close : Char) (missing unclosed : Fault)
    (alike : Production.Alike m n item item') :
    Alike m n (closedBy close item missing unclosed) (closedBy close item' missing unclosed) := by
  refine alike_many fun c positive positive' => ?_
  split
  · exact .close
  · exact (alike c positive positive').orFail missing

theorem alike_toEnd {item item' : Production α} (extra : Fault)
    (alike : Production.Alike m n item item') : Alike m n (toEnd item extra) (toEnd item' extra) :=
  alike_many fun c positive positive' => (alike c positive positive').orFail extra

end Reader

theorem alike_bracketList {item item' : Production α} {m n : Nat} {unclosed missing empty : Fault}
    (alike : Production.Alike m n item item') :
    Production.Alike m n (bracketList item unclosed missing empty)
      (bracketList item' unclosed missing empty) := by
  refine Production.alike_starting '<' ((Reader.alike_refuse _ empty).bind fun _ => ?_)
  exact Reader.alike_closedBy '>' missing unclosed (alike.mono (Nat.sub_le m 1) (Nat.sub_le n 1))

end GenericSignature.Grammar
