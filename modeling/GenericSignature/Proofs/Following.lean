import GenericSignature.Proofs.Language
import GenericSignature.Proofs.Reading

/-!
# Readers that follow a language

A reader follows a language when it never leaves it: what it reads is a text of the language, and
where it finds a fault, what it has read so far can still be continued to a text of the language.
The first half is the soundness of a reader, the second says that no fault comes too late.

Both halves go through every operation of readers (`Reader.Follows.bind`, `Reader.follows_many` and
the lemmas around them), so a production follows its language because its parts do.
-/

namespace GenericSignature.Grammar

variable {α β : Type}

/-! ## Languages of sequences -/

/-- The empty text, for one value. -/
def Done (value : α) : Language α := fun text found => text = [] ∧ found = value

/-- One character. -/
def Literal (literal : Char) : Language Unit := fun text _ => text = [literal]

/-- A text of one language and then a text of another, which may depend on the first value. -/
def Joined (First : Language α) (Next : α → Language β) : Language β := fun text value =>
  ∃ front back middle, text = front ++ back ∧ First front middle ∧ Next middle back value

/-- Texts of a language, of which all but the last are of an open kind, and an ending. -/
def Listed (Item : Language α) (Open : α → Prop) (Ends : List Char → Prop) : Language (List α) :=
  fun text values => ∃ items ending, text = items ++ ending ∧ Repeats Item items values ∧
    (∀ value ∈ values.dropLast, Open value) ∧ Ends ending

theorem Repeats.mono {Item Other : Language α} {text : List Char} {values : List α}
    (implies : ∀ {text value}, Item text value → Other text value)
    (repeats : Repeats Item text values) : Repeats Other text values := by
  induction repeats with
  | nil => exact .nil
  | cons item _ ih => exact .cons (implies item) ih

/-! ## Readers -/

namespace Reader

/-- The reader reads texts of the language only, and finds a fault only where it has read the
beginning of one. -/
structure Follows (reader : Reader α) (L : Language α) : Prop where
  inhabited : ∃ text value, L text value
  sound : ∀ {text rest value}, reader.Reads text value rest →
    ∃ read, text = read ++ rest ∧ L read value
  viable : ∀ {text rest fault}, reader.Faults text fault rest →
    ∃ read more value, text = read ++ rest ∧ L (read ++ more) value

theorem Follows.mono {reader : Reader α} {L M : Language α} (follows : reader.Follows L)
    (implies : ∀ {text value}, L text value → M text value) : reader.Follows M where
  inhabited := by
    obtain ⟨text, value, member⟩ := follows.inhabited
    exact ⟨text, value, implies member⟩
  sound reads := by
    obtain ⟨read, split, member⟩ := follows.sound reads
    exact ⟨read, split, implies member⟩
  viable faults := by
    obtain ⟨read, more, value, split, member⟩ := follows.viable faults
    exact ⟨read, more, value, split, implies member⟩

theorem follows_pure (value : α) : (pure value : Reader α).Follows (Done value) where
  inhabited := ⟨[], value, rfl, rfl⟩
  sound reads := by
    obtain ⟨rfl, rfl⟩ := reads_pure.mp reads
    exact ⟨[], rfl, rfl, rfl⟩
  viable faults := absurd faults faults_pure

theorem Follows.bind {first : Reader α} {next : α → Reader β} {L : Language α}
    {M : α → Language β} (start : first.Follows L)
    (go : ∀ middle, (next middle).Follows (M middle)) :
    (first >>= next).Follows (Joined L M) where
  inhabited := by
    obtain ⟨front, middle, opening⟩ := start.inhabited
    obtain ⟨back, value, closing⟩ := (go middle).inhabited
    exact ⟨front ++ back, value, front, back, middle, rfl, opening, closing⟩
  sound reads := by
    obtain ⟨middle, between, reads, reads'⟩ := reads_bind.mp reads
    obtain ⟨front, rfl, opening⟩ := start.sound reads
    obtain ⟨back, rfl, closing⟩ := (go middle).sound reads'
    exact ⟨front ++ back, (List.append_assoc ..).symm, front, back, middle, rfl, opening, closing⟩
  viable failed := by
    rcases faults_bind.mp failed with faults | ⟨middle, between, reads, faults⟩
    · -- the first part can be completed, and some text of the second part put after it
      obtain ⟨read, more, middle, rfl, opening⟩ := start.viable faults
      obtain ⟨back, value, closing⟩ := (go middle).inhabited
      refine ⟨read, more ++ back, value, rfl, read ++ more, back, middle, ?_, opening, closing⟩
      rw [List.append_assoc]
    · obtain ⟨front, rfl, opening⟩ := start.sound reads
      obtain ⟨read, more, value, rfl, closing⟩ := (go middle).viable faults
      refine ⟨front ++ read, more, value, (List.append_assoc ..).symm, front, read ++ more, middle,
        ?_, opening, closing⟩
      rw [List.append_assoc]

theorem follows_expect (literal : Char) : (expect literal).Follows (Literal literal) where
  inhabited := ⟨[literal], (), rfl⟩
  sound reads := ⟨[literal], reads_expect.mp reads, rfl⟩
  viable faults := by
    obtain ⟨_, rfl, _⟩ := faults_expect.mp faults
    exact ⟨[], [literal], (), rfl, rfl⟩

theorem follows_record (name : String) : (record name).Follows (Done ()) where
  inhabited := ⟨[], (), rfl, rfl⟩
  sound reads := ⟨[], (reads_record.mp reads).symm, rfl, rfl⟩
  viable faults := absurd faults faults_record

theorem follows_demand (accepts : Char → Bool) (fault : Fault) :
    (demand accepts fault).Follows (Done ()) where
  inhabited := ⟨[], (), rfl, rfl⟩
  sound reads := ⟨[], (reads_demand.mp reads).2.symm, rfl, rfl⟩
  viable faults := by
    obtain ⟨_, _, rfl⟩ := faults_demand.mp faults
    exact ⟨[], [], (), rfl, rfl, rfl⟩

theorem follows_refuse (rejects : Char → Bool) (fault : Fault) :
    (refuse rejects fault).Follows (Done ()) where
  inhabited := ⟨[], (), rfl, rfl⟩
  sound reads := ⟨[], (reads_refuse.mp reads).2.symm, rfl, rfl⟩
  viable faults := by
    obtain ⟨_, _, rfl⟩ := faults_refuse.mp faults
    exact ⟨[], [], (), rfl, rfl, rfl⟩

theorem follows_takeWhile (accepts : Char → Bool) :
    (takeWhile accepts).Follows fun text value => value = text ∧ ∀ c ∈ text, accepts c = true where
  inhabited := ⟨[], [], rfl, fun _ member => nomatch member⟩
  sound reads := by
    obtain ⟨split, all, _⟩ := reads_takeWhile.mp reads
    exact ⟨_, split, rfl, all⟩
  viable faults := absurd faults faults_takeWhile

end Reader

/-! ## Productions -/

namespace Production

/-- Whatever character the production starts with, it follows the language from there on. -/
structure Follows (production : Production α) (L : Language α) : Prop where
  inhabited : ∃ text value, L text value
  commits : ∀ {c body}, production c = .commit body →
    body.Follows fun text value => L (c :: text) value

variable {production : Production α} {L : Language α}

theorem Follows.mono {M : Language α} (follows : production.Follows L)
    (implies : ∀ {text value}, L text value → M text value) : production.Follows M where
  inhabited := by
    obtain ⟨text, value, member⟩ := follows.inhabited
    exact ⟨text, value, implies member⟩
  commits committed := (follows.commits committed).mono implies

theorem Follows.sound (follows : production.Follows L) {text rest : List Char} {value : α}
    (reads : production.Reads text value rest) : ∃ read, text = read ++ rest ∧ L read value := by
  obtain ⟨c, tail, body, rfl, committed, reads⟩ := reads
  obtain ⟨read, rfl, member⟩ := (follows.commits committed).sound reads
  exact ⟨c :: read, rfl, member⟩

theorem Follows.viable (follows : production.Follows L) {text rest : List Char} {fault : Fault}
    (faults : production.Faults text fault rest) :
    ∃ read more value, text = read ++ rest ∧ L (read ++ more) value := by
  obtain ⟨c, tail, rfl, ⟨_, rfl⟩ | ⟨body, committed, faults⟩⟩ := faults
  · obtain ⟨more, value, member⟩ := follows.inhabited
    exact ⟨[], more, value, rfl, member⟩
  · obtain ⟨read, more, value, rfl, member⟩ := (follows.commits committed).viable faults
    exact ⟨c :: read, more, value, rfl, member⟩

theorem Follows.attempt (follows : production.Follows L) :
    production.attempt.Follows (Optional L) where
  inhabited := ⟨[], none, .absent⟩
  sound {text rest value} reads := by
    cases value with
    | none =>
        obtain ⟨_, rfl⟩ := reads_attempt_none.mp reads
        exact ⟨[], rfl, .absent⟩
    | some value =>
        obtain ⟨read, split, member⟩ := follows.sound (reads_attempt_some.mp reads)
        exact ⟨read, split, .present member⟩
  viable faults := by
    obtain ⟨read, more, value, split, member⟩ := follows.viable (faults_attempt.mp faults)
    exact ⟨read, more, some value, split, .present member⟩

theorem Follows.require (follows : production.Follows L) (missing : Fault) :
    (production.require missing).Follows L where
  inhabited := follows.inhabited
  sound reads := follows.sound (reads_require.mp reads)
  viable faults := by
    rcases faults_require.mp faults with faults | ⟨_, _, rfl⟩
    · exact follows.viable faults
    · obtain ⟨more, value, member⟩ := follows.inhabited
      exact ⟨[], more, value, rfl, member⟩

theorem follows_starting (literal : Char) {body : Reader α} (follows : body.Follows L) :
    (starting literal body).Follows (Marked literal L) where
  inhabited := by
    obtain ⟨text, value, member⟩ := follows.inhabited
    exact ⟨literal :: text, value, .mk member⟩
  commits {c other} committed := by
    unfold starting at committed
    split at committed
    · next same =>
        cases committed
        subst same
        exact follows.mono .mk
    · cases committed

theorem Follows.orElse {second : Production α} (follows : production.Follows L)
    (follows' : second.Follows L) : (production.orElse second).Follows L where
  inhabited := follows.inhabited
  commits {c body} committed := by
    unfold Production.orElse at committed
    split at committed
    · exact follows'.commits committed
    · exact follows.commits committed

theorem Follows.map {M : Language β} {f : α → β} (follows : production.Follows L)
    (implies : ∀ {text value}, L text value → M text (f value)) :
    (production.map f).Follows M where
  inhabited := by
    obtain ⟨text, value, member⟩ := follows.inhabited
    exact ⟨text, f value, implies member⟩
  commits {c body} committed := by
    unfold Production.map Choice.map at committed
    split at committed
    · cases committed
    · cases committed
    · next given chosen =>
        cases committed
        refine ((follows.commits chosen).bind fun value => Reader.follows_pure (f value)).mono ?_
        rintro _ _ ⟨front, back, value, rfl, member, rfl, rfl⟩
        rw [List.append_nil]
        exact implies member

end Production

/-! ## Loops -/

theorem Listed.nil {Item : Language α} {Open : α → Prop} {Ends : List Char → Prop}
    {ending : List Char} (ends : Ends ending) : Listed Item Open Ends ending [] :=
  ⟨[], ending, rfl, .nil, by simp, ends⟩

theorem Listed.cons {Item : Language α} {Open : α → Prop} {Ends : List Char → Prop}
    {front back : List Char} {value : α} {values : List α} (item : Item front value)
    (more : Listed Item Open Ends back values) (last : Open value ∨ values = []) :
    Listed Item Open Ends (front ++ back) (value :: values) := by
  obtain ⟨items, ending, rfl, repeats, opens, ends⟩ := more
  refine ⟨front ++ items, ending, (List.append_assoc ..).symm, .cons item repeats, ?_, ends⟩
  intro other member
  rcases values with _ | ⟨next, values⟩
  · cases member
  · rcases List.mem_cons.mp member with rfl | member
    · exact last.resolve_right (List.cons_ne_nil _ _)
    · exact opens other member

namespace Reader

/-- What is known of the steps of a loop over items of a language: how it ends, and that each item
follows the language.  An item that is not of the open kind is read only where the loop ends. -/
structure Loops (step : Char → Step α) (ended : Option Fault) (Item : Language α)
    (Open : α → Prop) (Ends : List Char → Prop) : Prop where
  inhabited : ∃ text value, Item text value
  finishes : ∃ text, Ends text
  atEnd : ended = none → Ends []
  stops : ∀ {c}, step c = .stop → Ends []
  closes : ∀ {c}, step c = .close → Ends [c]
  items : ∀ {c body}, step c = .item body → body.Follows fun text value => Item (c :: text) value
  lookahead : ∀ {c body text value rest}, step c = .item body → body.Reads text value rest →
    Open value ∨ ∃ next ∈ rest.head?, step next = .stop ∨ step next = .close

variable {step : Char → Step α} {ended : Option Fault} {Item : Language α} {Open : α → Prop}
  {Ends : List Char → Prop}

/-- A loop that is over at once reads no items and finds no fault. -/
theorem run_many_over (ended : Option Fault) {text : List Char}
    (ends : ∃ next ∈ text.head?, step next = .stop ∨ step next = .close) :
    ((many step ended).run text).result = .ok [] := by
  obtain ⟨next, head, chosen⟩ := ends
  obtain ⟨tail, rfl⟩ := List.head?_eq_some_iff.mp head
  rcases chosen with chosen | chosen
  · rw [run_many_stop chosen]
  · rw [run_many_close chosen]

theorem Loops.sound (loops : Loops step ended Item Open Ends) {text rest : List Char}
    {values : List α} (reads : (many step ended).Reads text values rest) :
    ∃ read, text = read ++ rest ∧ Listed Item Open Ends read values := by
  induction size : text.length using Nat.strongRecOn generalizing text values with
  | _ _ ih =>
  subst size
  unfold Reads at reads
  rcases text with _ | ⟨c, tail⟩
  · rw [run_many_nil] at reads
    cases ended with
    | none =>
        obtain ⟨⟨⟩, rfl⟩ := reads
        exact ⟨[], rfl, .nil (loops.atEnd rfl)⟩
    | some fault => cases reads.1
  · cases chosen : step c with
    | stop =>
        rw [run_many_stop chosen] at reads
        obtain ⟨⟨⟩, rfl⟩ := reads
        exact ⟨[], rfl, .nil (loops.stops chosen)⟩
    | close =>
        rw [run_many_close chosen] at reads
        obtain ⟨⟨⟩, rfl⟩ := reads
        exact ⟨[c], rfl, .nil (loops.closes chosen)⟩
    | fail fault =>
        rw [run_many_fail chosen] at reads
        cases reads.1
    | item body =>
        rw [run_many_item chosen] at reads
        obtain ⟨value, between, first, more⟩ := reads_bind.mp reads
        obtain ⟨values', left, more, finish⟩ := reads_bind.mp more
        obtain ⟨rfl, rfl⟩ := reads_pure.mp finish
        have shorter := Nat.lt_succ_of_le first.suffix.length_le
        obtain ⟨back, rfl, listed⟩ := ih between.length shorter more rfl
        obtain ⟨front, rfl, item⟩ := (loops.items chosen).sound first
        refine ⟨c :: front ++ back, by simp, .cons item listed ?_⟩
        refine (loops.lookahead chosen first).imp_right fun ends => ?_
        exact Except.ok.inj (more.1.symm.trans (run_many_over ended ends))

/-- Where the loop finds a fault, the list so far can be continued, by one item at least. -/
theorem Loops.viable (loops : Loops step ended Item Open Ends) {text rest : List Char}
    {fault : Fault} (faults : (many step ended).Faults text fault rest) :
    ∃ read more values, text = read ++ rest ∧ values ≠ [] ∧
      Listed Item Open Ends (read ++ more) values := by
  obtain ⟨ending, ends⟩ := loops.finishes
  have here : ∃ more values, values ≠ [] ∧ Listed Item Open Ends more values := by
    obtain ⟨item, value, member⟩ := loops.inhabited
    exact ⟨item ++ ending, [value], List.cons_ne_nil _ _, .cons member (.nil ends) (.inr rfl)⟩
  induction size : text.length using Nat.strongRecOn generalizing text with
  | _ _ ih =>
  subst size
  unfold Faults at faults
  rcases text with _ | ⟨c, tail⟩
  · rw [run_many_nil] at faults
    obtain ⟨more, values, some, listed⟩ := here
    exact ⟨[], more, values, faults.2, some, listed⟩
  · cases chosen : step c with
    | stop =>
        rw [run_many_stop chosen] at faults
        cases faults.1
    | close =>
        rw [run_many_close chosen] at faults
        cases faults.1
    | fail other =>
        rw [run_many_fail chosen] at faults
        obtain ⟨more, values, some, listed⟩ := here
        exact ⟨[], more, values, faults.2, some, listed⟩
    | item body =>
        rw [run_many_item chosen] at faults
        rcases faults_bind.mp faults with inItem | ⟨value, between, first, later⟩
        · obtain ⟨read, more, value, rfl, item⟩ := (loops.items chosen).viable inItem
          refine ⟨c :: read, more ++ ending, [value], rfl, List.cons_ne_nil _ _, ?_⟩
          rw [← List.append_assoc]
          exact .cons item (.nil ends) (.inr rfl)
        · have later := (faults_bind.mp later).resolve_right (by simp)
          -- the loop goes on after this item, so the item is of the open kind
          have opens : Open value := (loops.lookahead chosen first).resolve_right fun ends => by
            have read := run_many_over ended ends
            rw [later.1] at read
            cases read
          have shorter := Nat.lt_succ_of_le first.suffix.length_le
          obtain ⟨back, more, values, rfl, some, listed⟩ := ih between.length shorter later rfl
          obtain ⟨front, rfl, item⟩ := (loops.items chosen).sound first
          refine ⟨c :: front ++ back, more, value :: values, by simp, List.cons_ne_nil _ _, ?_⟩
          rw [List.append_assoc]
          exact .cons item listed (.inl opens)

theorem Loops.follows (loops : Loops step ended Item Open Ends) :
    (many step ended).Follows (Listed Item Open Ends) where
  inhabited := by
    obtain ⟨ending, ends⟩ := loops.finishes
    exact ⟨ending, [], .nil ends⟩
  sound := loops.sound
  viable faults := by
    obtain ⟨read, more, values, split, _, listed⟩ := loops.viable faults
    exact ⟨read, more, values, split, listed⟩

/-! ## The loops of the grammar -/

theorem Follows.marked {item : Reader α} (mark : Char) (follows : item.Follows Item) :
    (marked mark item).Follows (Repeats (Marked mark Item)) := by
  have loops : Loops (fun c => if c = mark then .item item else .stop) none (Marked mark Item)
      (fun _ => True) (· = []) := by
    refine ⟨?_, ⟨[], rfl⟩, fun _ => rfl, fun _ => rfl, ?_, ?_, fun _ _ => .inl trivial⟩
    · obtain ⟨text, value, member⟩ := follows.inhabited
      exact ⟨mark :: text, value, .mk member⟩
    · intro c chosen
      split at chosen <;> cases chosen
    · intro c body chosen
      split at chosen
      · next same =>
          cases chosen
          subst same
          exact follows.mono .mk
      · cases chosen
  refine loops.follows.mono ?_
  rintro _ _ ⟨items, ending, rfl, repeats, _, rfl⟩
  rwa [List.append_nil]

theorem loops_closedBy {item : Production α} (close : Char) (missing unclosed : Fault)
    (Open : α → Prop) (follows : item.Follows Item)
    (lookahead : ∀ {text value rest}, item.Reads text value rest →
      Open value ∨ rest.head? = some close) :
    Loops (fun c => if c = close then .close else (item c).orFail missing) (some unclosed) Item
      Open (· = [close]) := by
  refine ⟨follows.inhabited, ⟨[close], rfl⟩, nofun, ?_, ?_, ?_, ?_⟩
  · intro c chosen
    split at chosen
    · cases chosen
    · exact absurd chosen Choice.orFail_ne_stop
  · intro c chosen
    split at chosen
    · next same => rw [same]
    · exact absurd chosen Choice.orFail_ne_close
  · intro c body chosen
    split at chosen
    · cases chosen
    · exact follows.commits (Choice.orFail_eq_item.mp chosen)
  · intro c body text value rest chosen reads
    split at chosen
    · cases chosen
    · have committed := Choice.orFail_eq_item.mp chosen
      refine (lookahead ⟨c, text, body, rfl, committed, reads⟩).imp_right fun next => ?_
      exact ⟨close, next, .inr (if_pos rfl)⟩

theorem follows_closedBy {item : Production α} (follows : item.Follows Item) (close : Char)
    (missing unclosed : Fault) :
    (closedBy close item missing unclosed).Follows
      (Joined (Repeats Item) fun values text found => text = [close] ∧ found = values) := by
  have loops := loops_closedBy close missing unclosed (fun _ => True) follows
    fun _ => .inl trivial
  refine loops.follows.mono ?_
  rintro _ values ⟨items, ending, rfl, repeats, _, rfl⟩
  exact ⟨items, [close], values, rfl, repeats, rfl, rfl⟩

theorem follows_toEnd {item : Production α} (follows : item.Follows Item) (extra : Fault) :
    (toEnd item extra).Follows (Repeats Item) := by
  have loops : Loops (fun c => (item c).orFail extra) none Item (fun _ => True) (· = []) := by
    refine ⟨follows.inhabited, ⟨[], rfl⟩, fun _ => rfl, fun _ => rfl, ?_, ?_,
      fun _ _ => .inl trivial⟩
    · intro c chosen
      exact absurd chosen Choice.orFail_ne_close
    · intro c body chosen
      exact follows.commits (Choice.orFail_eq_item.mp chosen)
  refine loops.follows.mono ?_
  rintro _ _ ⟨items, ending, rfl, repeats, _, rfl⟩
  rwa [List.append_nil]

end Reader

/-! ## Lists in brackets -/

/-- One item or more in angle brackets, all but the last of an open kind. -/
def Enclosed (Item : Language α) (Open : α → Prop) : Language (List α) := fun text values =>
  ∃ items, text = '<' :: items ++ ['>'] ∧ Repeats Item items values ∧ values ≠ [] ∧
    ∀ value ∈ values.dropLast, Open value

theorem Production.Follows.values_ne_nil {production : Production (List α)} {Item : Language α}
    {Open : α → Prop} (follows : production.Follows (Enclosed Item Open)) {text rest : List Char}
    {values : List α} (reads : production.Reads text values rest) : values ≠ [] := by
  obtain ⟨_, _, _, _, _, some, _⟩ := follows.sound reads
  exact some

theorem follows_bracketList {item : Production α} {Item : Language α} (Open : α → Prop)
    (unclosed missing empty : Fault) (follows : item.Follows Item)
    (lookahead : ∀ {text value rest}, item.Reads text value rest →
      Open value ∨ rest.head? = some '>') :
    (bracketList item unclosed missing empty).Follows (Enclosed Item Open) := by
  have loops := Reader.loops_closedBy '>' missing unclosed Open follows lookahead
  have enclosed : ∀ {text values}, values ≠ [] → Listed Item Open (· = ['>']) text values →
      Enclosed Item Open ('<' :: text) values := by
    rintro _ values some ⟨items, _, rfl, repeats, opens, rfl⟩
    exact ⟨items, rfl, repeats, some, opens⟩
  obtain ⟨itemText, value, member⟩ := follows.inhabited
  have single : Enclosed Item Open ('<' :: (itemText ++ ['>'])) [value] :=
    enclosed (List.cons_ne_nil _ _) (.cons member (.nil rfl) (.inr rfl))
  refine (Production.follows_starting '<' (L := fun text values =>
    Enclosed Item Open ('<' :: text) values) ?_).mono fun marked => by
      cases marked
      assumption
  refine ⟨⟨_, _, single⟩, ?_, ?_⟩
  · intro text rest values body
    obtain ⟨_, between, refused, reads⟩ := Reader.reads_bind.mp body
    obtain ⟨first, rfl⟩ := Reader.reads_refuse.mp refused
    obtain ⟨read, rfl, listed⟩ := loops.sound reads
    refine ⟨read, rfl, enclosed ?_ listed⟩
    -- an empty list would start with its closing bracket
    rintro rfl
    obtain ⟨_, _, rfl, repeats, _, rfl⟩ := listed
    cases repeats
    simp at first
  · intro text rest fault body
    rcases Reader.faults_bind.mp body with faults | ⟨_, between, refused, faults⟩
    · obtain ⟨_, _, rfl⟩ := Reader.faults_refuse.mp faults
      exact ⟨[], _, _, rfl, single⟩
    · obtain ⟨_, rfl⟩ := Reader.reads_refuse.mp refused
      obtain ⟨read, more, values, rfl, some, listed⟩ := loops.viable faults
      exact ⟨read, more, values, rfl, enclosed some listed⟩

/-- Reading no list for an empty one adds the empty text to the language. -/
theorem Production.Follows.attemptList {production : Production (List α)}
    {L M : Language (List α)} (follows : production.Follows L) (absent : M [] [])
    (implies : ∀ {text values}, L text values → M text values) :
    production.attemptList.Follows M := by
  unfold Production.attemptList
  refine (follows.attempt.bind fun found => Reader.follows_pure (found.getD [])).mono ?_
  rintro _ _ ⟨front, back, found, rfl, optional, rfl, rfl⟩
  rw [List.append_nil]
  cases optional with
  | absent => exact absent
  | present member => exact implies member

end GenericSignature.Grammar
