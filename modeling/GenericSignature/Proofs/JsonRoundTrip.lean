import GenericSignature.Json.Printer
import GenericSignature.Json.Reader

/-!
# Written JSON is read back

Reading the written form of a value gives the value and stops where the form ends.

1. The leaves: a text, whatever characters it has (`readText_escaped`), and a whole number
   (`number_toString`).
2. Lists and objects: what stands between two items is blank apart from the comma, and a closing
   bracket ends the list (`readItems_written`, `readMembers_written`).
3. `Readable` are the values whose form can be read: numbers with a fraction are kept as they were
   written, so nothing is known of their form, and whole numbers can be too long.  They all come
   back (`parse_render`).

Every step reads a character at least, so fuel beyond the length of the written form is enough.
-/

namespace GenericSignature.Json

/-! ## The written form -/

section Layout

variable (level : Nat) (item : Json) (items : List Json) (name : String) (value : Json)
  (members : List (String × Json)) (rest : List Char)

theorem write_arr_append : write level (.arr (item :: items)) ++ rest =
    '[' :: (newLine (level + 1) ++ (write (level + 1) item ++ (writeItems (level + 1) items ++
      (newLine level ++ ']' :: rest)))) := by
  show '[' :: newLine (level + 1) ++ write (level + 1) item ++ writeItems (level + 1) items ++
    newLine level ++ [']'] ++ rest = _
  simp only [List.cons_append, List.nil_append, List.append_assoc]

theorem writeItems_append : writeItems level (item :: items) ++ rest =
    ',' :: (newLine level ++ (write level item ++ (writeItems level items ++ rest))) := by
  show ',' :: newLine level ++ write level item ++ writeItems level items ++ rest = _
  simp only [List.cons_append, List.append_assoc]

theorem write_obj_append : write level (.obj ((name, value) :: members)) ++ rest =
    '\x7b' :: (newLine (level + 1) ++ (writeText name ++ ':' :: ' ' :: (write (level + 1) value ++
      (writeMembers (level + 1) members ++ (newLine level ++ '\x7d' :: rest))))) := by
  show '\x7b' :: newLine (level + 1) ++ writeText name ++ [':', ' '] ++ write (level + 1) value ++
    writeMembers (level + 1) members ++ newLine level ++ ['\x7d'] ++ rest = _
  simp only [List.cons_append, List.nil_append, List.append_assoc]

theorem writeMembers_append : writeMembers level ((name, value) :: members) ++ rest =
    ',' :: (newLine level ++ (writeText name ++ ':' :: ' ' :: (write level value ++
      (writeMembers level members ++ rest)))) := by
  show ',' :: newLine level ++ writeText name ++ [':', ' '] ++ write level value ++
    writeMembers level members ++ rest = _
  simp only [List.cons_append, List.nil_append, List.append_assoc]

theorem writeText_append (text : String) : writeText text ++ rest =
    '"' :: (text.toList.flatMap escape ++ '"' :: rest) := by
  unfold writeText
  rw [List.append_assoc]
  rfl

/-! What the first parts take up of the whole. -/

theorem length_write_arr :
    (write (level + 1) item).length + (writeItems (level + 1) items).length + 1 <
      (write level (.arr (item :: items))).length := by
  have whole := congrArg List.length (write_arr_append level item items [])
  simp only [List.append_nil, List.length_append, List.length_cons] at whole
  omega

theorem length_writeItems : (write level item).length + (writeItems level items).length <
    (writeItems level (item :: items)).length := by
  have whole := congrArg List.length (writeItems_append level item items [])
  simp only [List.append_nil, List.length_append, List.length_cons] at whole
  omega

theorem length_write_obj :
    (writeText name).length + (write (level + 1) value).length +
      (writeMembers (level + 1) members).length + 1 <
      (write level (.obj ((name, value) :: members))).length := by
  have whole := congrArg List.length (write_obj_append level name value members [])
  simp only [List.append_nil, List.length_append, List.length_cons] at whole
  omega

theorem length_writeMembers :
    (writeText name).length + (write level value).length + (writeMembers level members).length <
      (writeMembers level ((name, value) :: members)).length := by
  have whole := congrArg List.length (writeMembers_append level name value members [])
  simp only [List.append_nil, List.length_append, List.length_cons] at whole
  omega

end Layout

/-! ## Blanks -/

theorem skip_cons {c : Char} (solid : isSpacing c = false) (text : List Char) :
    skip (c :: text) = c :: text :=
  List.dropWhile_cons_of_neg (by rw [solid]; exact Bool.false_ne_true)

theorem skip_newLine (level : Nat) (text : List Char) :
    skip (newLine level ++ text) = skip text := by
  have blank : ∀ c ∈ newLine level, isSpacing c = true := by
    intro c member
    rcases List.mem_cons.mp member with rfl | space
    · rfl
    · rw [List.eq_of_mem_replicate space]
      rfl
  exact List.dropWhile_append_of_pos blank

/-! ## Texts -/

theorem hexUnit?_hex {n : Nat} (small : n < 0x10000) :
    hexUnit? (Text.hexDigit (n / 16 / 16 / 16 % 16)) (Text.hexDigit (n / 16 / 16 % 16))
      (Text.hexDigit (n / 16 % 16)) (Text.hexDigit (n % 16)) = some n := by
  have digit : ∀ m, Text.hexValue? (Text.hexDigit (m % 16)) = some (m % 16) :=
    fun m => Text.hexValue?_hexDigit (Nat.mod_lt m (by decide))
  unfold hexUnit?
  rw [digit, digit, digit, digit]
  show some _ = some n
  congr 1
  omega

/-- A control character is read back from its number. -/
theorem unicodeEscape_hex {c : Char} (control : c.toNat < 0x20) {rest : List Char}
    (more : rest ≠ []) :
    unicodeEscape 'u' (Text.hex 4 c.toNat ++ rest) = .ok (c, rest) := by
  have below : ∀ bound, 0x20 ≤ bound → Nat.ble bound c.toNat = false := fun bound least =>
    Bool.eq_false_iff.mpr fun above =>
      Nat.not_lt.mpr (Nat.le_trans least (Nat.le_of_ble_eq_true above)) control
  have high : isHighSurrogate c.toNat = false := by
    unfold isHighSurrogate
    rw [below 0xD800 (by decide), Bool.false_and]
  have low : isLowSurrogate c.toNat = false := by
    unfold isLowSurrogate
    rw [below 0xDC00 (by decide), Bool.false_and]
  have unit : ofUnit c.toNat = c := by
    unfold ofUnit
    rw [high, low]
    exact Char.ofNat_toNat c
  show unicodeEscape 'u' (_ :: _ :: _ :: _ :: rest) = _
  unfold unicodeEscape
  simp only []
  rw [if_neg (by simpa using more), hexUnit?_hex (by omega)]
  simp only [high]
  rw [if_neg Bool.false_ne_true, unit]

theorem escape_cases (c : Char) :
    (∃ letter, escape c = ['\\', letter] ∧ letter ≠ 'u' ∧ unescape? letter = some c) ∨
    (escape c = '\\' :: 'u' :: Text.hex 4 c.toNat ∧ c.toNat < 0x20) ∨
    (escape c = [c] ∧ c ≠ '"' ∧ c ≠ '\\' ∧ ¬ c.toNat < 0x20) := by
  unfold escape
  split
  · exact .inl ⟨'"', rfl, by decide, rfl⟩
  · exact .inl ⟨'\\', rfl, by decide, rfl⟩
  · exact .inl ⟨'n', rfl, by decide, rfl⟩
  · exact .inl ⟨'r', rfl, by decide, rfl⟩
  · exact .inl ⟨'t', rfl, by decide, rfl⟩
  · exact .inl ⟨'f', rfl, by decide, rfl⟩
  · exact .inl ⟨'b', rfl, by decide, rfl⟩
  · next quote backslash _ _ _ _ _ =>
      split
      · next control => exact .inr (.inl ⟨rfl, control⟩)
      · next plain => exact .inr (.inr ⟨rfl, quote, backslash, plain⟩)

/-- A character is read back from the way it is written, if the text goes on. -/
theorem textFrom_escape (opening : List Char) (fuel : Nat) (c : Char) {rest : List Char}
    (more : rest ≠ []) (done : List Char) :
    textFrom opening (fuel + 1) (escape c ++ rest) done =
      textFrom opening fuel rest (c :: done) := by
  rcases escape_cases c with ⟨letter, written, short, stands⟩ | ⟨written, control⟩ |
    ⟨written, quote, backslash, plain⟩
  · rw [written, textFrom.eq_def]
    simp [short, stands]
  · rw [written, textFrom.eq_def]
    simp [unicodeEscape_hex control more]
  · rw [written, textFrom.eq_def]
    simp [quote, backslash, plain]

theorem textFrom_escaped (opening : List Char) (text : List Char) {fuel : Nat}
    (enough : text.length < fuel) (rest done : List Char) :
    textFrom opening fuel (text.flatMap escape ++ '"' :: rest) done =
      .ok (String.ofList (done.reverse ++ text), rest) := by
  induction text generalizing fuel done with
  | nil =>
      obtain ⟨fuel, rfl⟩ := Nat.exists_eq_succ_of_ne_zero (Nat.ne_zero_of_lt enough)
      rw [List.append_nil]
      rfl
  | cons c text ih =>
      obtain ⟨fuel, rfl⟩ := Nat.exists_eq_succ_of_ne_zero (Nat.ne_zero_of_lt enough)
      have more : text.flatMap escape ++ '"' :: rest ≠ [] :=
        List.append_ne_nil_of_right_ne_nil _ (List.cons_ne_nil _ _)
      rw [List.flatMap_cons, List.append_assoc, textFrom_escape opening fuel c more,
        ih (Nat.lt_of_succ_lt_succ enough), List.reverse_cons, List.append_assoc]
      rfl

theorem length_le_escaped (text : List Char) : text.length ≤ (text.flatMap escape).length := by
  induction text with
  | nil => exact Nat.le_refl 0
  | cons c text ih =>
      have one : 1 ≤ (escape c).length := by
        rcases escape_cases c with ⟨_, written, _⟩ | ⟨written, _⟩ | ⟨written, _⟩ <;>
          rw [written] <;> exact Nat.succ_le_succ (Nat.zero_le _)
      rw [List.flatMap_cons, List.length_append, List.length_cons]
      omega

theorem readText_escaped {fuel : Nat} (text : String) (rest : List Char)
    (enough : (writeText text).length ≤ fuel + 1) :
    readText fuel (text.toList.flatMap escape ++ '"' :: rest) = .ok (text, rest) := by
  have longer := length_le_escaped text.toList
  have whole := congrArg List.length (writeText_append [] text)
  simp only [List.append_nil, List.length_append, List.length_cons, List.length_nil] at whole
  unfold readText
  rw [textFrom_escaped _ _ (by omega), List.reverse_nil, List.nil_append, String.ofList_toList]

/-! ## Whole numbers -/

/-- What follows a written value: nothing, a comma or a new line. -/
def Ends (rest : List Char) : Prop := ∀ c ∈ rest.head?, c = ',' ∨ c = '\n'

theorem ends_nil : Ends [] := nofun

theorem ends_comma (rest : List Char) : Ends (',' :: rest) := by
  intro c head
  cases head
  exact .inl rfl

theorem ends_newLine (level : Nat) (rest : List Char) : Ends (newLine level ++ rest) := by
  intro c head
  cases head
  exact .inr rfl

theorem natOfDigits_toDigits (n : Nat) : Text.natOfDigits (Nat.toDigits 10 n) = n := by
  have same : Text.natOfDigits (Nat.toDigits 10 n) = Nat.ofDigitChars 10 (Nat.toDigits 10 n) 0 := by
    unfold Text.natOfDigits Nat.ofDigitChars
    simp only [Nat.mul_comm]
  rw [same, Nat.ofDigitChars_toDigits (by decide) (by decide)]

/-- No superfluous zero is written. -/
theorem head?_toDigits {n : Nat} (positive : 0 < n) : (Nat.toDigits 10 n).head? ≠ some '0' := by
  induction n using Nat.strongRecOn with
  | ind n ih =>
      rcases Nat.lt_or_ge n 10 with small | large
      · have digits : ∀ i : Fin 10, 0 < i.val → Nat.digitChar i.val ≠ '0' := by decide
        rw [Nat.toDigits_of_lt_base small, List.head?_cons, ne_eq, Option.some.injEq]
        exact digits ⟨n, small⟩ positive
      · have quotient := ih (n / 10) (by omega) (by omega)
        rw [Nat.toDigits_of_base_le (by decide) large, List.head?_append]
        cases front : (Nat.toDigits 10 (n / 10)).head? with
        | none => exact absurd (List.head?_eq_none_iff.mp front) Nat.toDigits_ne_nil
        | some c =>
            rw [front] at quotient
            exact quotient

theorem digitRun_toDigits (n : Nat) {rest : List Char} (ends : Ends rest) :
    Text.digitRun (Nat.toDigits 10 n ++ rest) = (Nat.toDigits 10 n, rest) := by
  have digits : ∀ c ∈ Nat.toDigits 10 n, c.isDigit = true := fun c member =>
    Nat.isDigit_of_mem_toDigits (by decide) (by decide) member
  have stop : rest.takeWhile Char.isDigit = [] ∧ rest.dropWhile Char.isDigit = rest := by
    cases rest with
    | nil => exact ⟨rfl, rfl⟩
    | cons c rest =>
        have other : c.isDigit ≠ true := by
          rcases ends c rfl with rfl | rfl <;> decide
        exact ⟨List.takeWhile_cons_of_neg other, List.dropWhile_cons_of_neg other⟩
  unfold Text.digitRun
  rw [List.takeWhile_append_of_pos digits, List.dropWhile_append_of_pos digits, stop.1, stop.2,
    List.append_nil]

theorem wholePart?_toDigits (n : Nat) {rest : List Char} (ends : Ends rest) :
    wholePart? (Nat.toDigits 10 n ++ rest) = some (Nat.toDigits 10 n, rest) := by
  have run := digitRun_toDigits n ends
  rcases Nat.eq_zero_or_pos n with rfl | positive
  · rfl
  · have head := head?_toDigits positive
    have some_digits : Nat.toDigits 10 n ≠ [] := Nat.toDigits_ne_nil
    unfold wholePart?
    split
    · next rest' equal =>
        cases digits : Nat.toDigits 10 n with
        | nil => exact absurd digits some_digits
        | cons c more =>
            rw [digits] at equal head
            cases equal
            exact absurd rfl head
    · rw [run]
      simp [some_digits]

theorem fraction_of_ends {rest : List Char} (ends : Ends rest) : fraction rest = ([], rest) := by
  unfold fraction
  split
  · rcases ends '.' rfl with dot | dot <;> cases dot
  · rfl

theorem exponent_of_ends {rest : List Char} (ends : Ends rest) : exponent rest = ([], rest) := by
  unfold exponent
  split
  · rfl
  · next e rest =>
      have other : ¬ (e = 'e' ∨ e = 'E') := by
        rcases ends e rfl with rfl | rfl <;> decide
      rw [if_neg other]

/-- The head of a written whole number. -/
theorem exists_head_toDigits (n : Nat) :
    ∃ c digits, Nat.toDigits 10 n = c :: digits ∧ c.isDigit = true := by
  cases digits : Nat.toDigits 10 n with
  | nil => exact absurd digits Nat.toDigits_ne_nil
  | cons c more =>
      have first : c ∈ Nat.toDigits 10 n := digits ▸ List.mem_cons_self
      exact ⟨c, more, rfl, Nat.isDigit_of_mem_toDigits (by decide) (by decide) first⟩

theorem number_digits (n : Nat) {rest : List Char} (ends : Ends rest)
    (short : (Nat.toDigits 10 n).length ≤ Text.maxDigits) :
    number (Nat.toDigits 10 n ++ rest) = .ok (.int n, rest) ∧
      number ('-' :: Nat.toDigits 10 n ++ rest) = .ok (.int (-n), rest) := by
  have whole := wholePart?_toDigits n ends
  have fits : Text.isOversized (Nat.toDigits 10 n) = false :=
    Bool.eq_false_iff.mpr fun longer => Nat.not_lt.mpr short (Nat.le_of_ble_eq_true longer)
  obtain ⟨c, digits, head, digit⟩ := exists_head_toDigits n
  unfold number
  constructor
  · split
    next sign unsigned parts =>
    rw [head] at parts
    split at parts
    · next equal =>
        -- a digit is no sign
        cases equal
        cases digit
    · cases parts
      rw [← head, whole]
      simp only [fraction_of_ends ends, exponent_of_ends ends, fits, natOfDigits_toDigits]
      rfl
  · simp only [List.cons_append, whole, fraction_of_ends ends, exponent_of_ends ends, fits,
      natOfDigits_toDigits]
    rfl

theorem toList_toString_int (value : Int) :
    (toString value).toList = Nat.toDigits 10 value.natAbs ∧ (value.natAbs : Int) = value ∨
      (toString value).toList = '-' :: Nat.toDigits 10 value.natAbs ∧
        -(value.natAbs : Int) = value := by
  cases value with
  | ofNat n => exact .inl ⟨String.toList_ofList, rfl⟩
  | negSucc n =>
      refine .inr ⟨?_, rfl⟩
      show ("-" ++ String.ofList (Nat.toDigits 10 (n + 1))).toList = _
      rw [String.toList_append]
      exact congrArg ('-' :: ·) String.toList_ofList

theorem number_toString (value : Int) {rest : List Char} (ends : Ends rest)
    (short : (Nat.toDigits 10 value.natAbs).length ≤ Text.maxDigits) :
    number ((toString value).toList ++ rest) = .ok (.int value, rest) := by
  obtain ⟨plain, minus⟩ := number_digits value.natAbs ends short
  rcases toList_toString_int value with ⟨written, same⟩ | ⟨written, same⟩
  · rw [written, plain, same]
  · rw [written, minus, same]

/-! ## Values -/

/-- The values whose written form can be read. -/
inductive Readable : Json → Prop
  | null : Readable .null
  | bool (value : Bool) : Readable (.bool value)
  | int {value : Int} : (Nat.toDigits 10 value.natAbs).length ≤ Text.maxDigits →
      Readable (.int value)
  | str (value : String) : Readable (.str value)
  | arr {items : List Json} : (∀ item ∈ items, Readable item) → Readable (.arr items)
  | obj {members : List (String × Json)} : (∀ entry ∈ members, Readable entry.2) →
      Readable (.obj members)

/-- The characters that no value begins with: the blanks, a closing bracket, and the byte order
mark. -/
def nonOpening : List Char := [' ', '\t', '\n', '\r', ']', '\ufeff']

theorem isSpacing_of_opening {c : Char} (opens : c ∉ nonOpening) : isSpacing c = false := by
  rw [Bool.eq_false_iff]
  intro blank
  have listed : c = ' ' ∨ c = '\t' ∨ c = '\n' ∨ c = '\r' := by
    simpa [isSpacing, or_assoc] using blank
  rcases listed with rfl | rfl | rfl | rfl <;> exact opens (by decide)

/-- The written form of the value begins like a value, and reading it gives the value. -/
structure ReadsBack (value : Json) : Prop where
  opens : ∀ level, ∃ c text, write level value = c :: text ∧ c ∉ nonOpening
  reads : ∀ level fuel, (write level value).length < fuel → ∀ ⦃rest⦄, Ends rest →
    readValue fuel (write level value ++ rest) = .ok (value, rest)

theorem ReadsBack.skip_write {value : Json} (back : ReadsBack value) (level : Nat)
    (rest : List Char) : skip (write level value ++ rest) = write level value ++ rest := by
  obtain ⟨c, text, written, opens⟩ := back.opens level
  rw [written, List.cons_append, skip_cons (isSpacing_of_opening opens)]

/-! ### Scalars -/

theorem readValue_scalar {c : Char} (other : c ≠ '"' ∧ c ≠ '[' ∧ c ≠ '\x7b') (fuel : Nat)
    (text : List Char) : readValue (fuel + 1) (c :: text) = scalar (c :: text) := by
  unfold readValue
  split
  · next equal => exact absurd (List.cons.inj equal).1 other.1
  · next equal => exact absurd (List.cons.inj equal).1 other.2.1
  · next equal => exact absurd (List.cons.inj equal).1 other.2.2
  · rfl

/-- A value that is one word is read back. -/
theorem readsBack_word {value : Json} {c : Char} {text : List Char}
    (written : ∀ level, write level value = c :: text)
    (other : c ≠ '"' ∧ c ≠ '[' ∧ c ≠ '\x7b') (opens : c ∉ nonOpening)
    (word : ∀ rest, word? (c :: text ++ rest) = some (value, rest)) : ReadsBack value where
  opens level := ⟨c, text, written level, opens⟩
  reads level fuel enough rest _ := by
    obtain ⟨fuel, rfl⟩ := Nat.exists_eq_succ_of_ne_zero (Nat.ne_zero_of_lt enough)
    have found := word rest
    rw [List.cons_append] at found
    rw [written, List.cons_append, readValue_scalar other]
    unfold scalar
    rw [found]

theorem readsBack_null : ReadsBack .null :=
  readsBack_word (fun _ => rfl) (by decide) (by decide) fun _ => rfl

theorem readsBack_bool : (value : Bool) → ReadsBack (.bool value)
  | true => readsBack_word (fun _ => rfl) (by decide) (by decide) fun _ => rfl
  | false => readsBack_word (fun _ => rfl) (by decide) (by decide) fun _ => rfl

/-- A whole number begins with a digit, or with a minus and a digit. -/
theorem toString_int_head (value : Int) :
    ∃ c text, (toString value).toList = c :: text ∧
      (c.isDigit = true ∨ c = '-' ∧ ∃ d digits, text = d :: digits ∧ d.isDigit = true) := by
  obtain ⟨c, digits, head, digit⟩ := exists_head_toDigits value.natAbs
  rcases toList_toString_int value with ⟨written, _⟩ | ⟨written, _⟩
  · exact ⟨c, digits, written.trans head, .inl digit⟩
  · exact ⟨'-', _, written, .inr ⟨rfl, c, digits, head, digit⟩⟩

/-- A whole number is not taken for a word: no word has a digit in its first two places. -/
theorem scalar_toString (value : Int) (rest : List Char) :
    scalar ((toString value).toList ++ rest) = number ((toString value).toList ++ rest) := by
  have letters : ∀ entry ∈ words, 2 ≤ entry.1.length ∧
      ∀ c ∈ entry.1.take 2, c.isDigit = false := by
    have table : words.all (fun entry => decide (2 ≤ entry.1.length) &&
        (entry.1.take 2).all fun c => !c.isDigit) = true := by decide
    intro entry member
    simpa using List.all_eq_true.mp table entry member
  have digit : ∃ c ∈ ((toString value).toList ++ rest).take 2, c.isDigit = true := by
    obtain ⟨c, text, written, first | ⟨rfl, d, digits, rfl, second⟩⟩ := toString_int_head value
    · rw [written]
      exact ⟨c, List.mem_cons_self, first⟩
    · rw [written]
      exact ⟨d, List.mem_cons_of_mem _ List.mem_cons_self, second⟩
  have notWord : ∀ entry ∈ words,
      ¬ entry.1.isPrefixOf ((toString value).toList ++ rest) = true := by
    intro entry member begins
    obtain ⟨tail, whole⟩ := List.isPrefixOf_iff_prefix.mp begins
    obtain ⟨c, early, isDigit⟩ := digit
    rw [← whole, List.take_append_of_le_length (letters entry member).1] at early
    cases isDigit.symm.trans ((letters entry member).2 c early)
  unfold scalar word?
  rw [List.find?_eq_none.mpr notWord]
  rfl

theorem readsBack_int {value : Int}
    (short : (Nat.toDigits 10 value.natAbs).length ≤ Text.maxDigits) : ReadsBack (.int value) := by
  have digits : ('"' :: '[' :: '\x7b' :: nonOpening).all (fun c => !c.isDigit) = true := by decide
  obtain ⟨c, text, written, head⟩ := toString_int_head value
  have other : c ∉ '"' :: '[' :: '\x7b' :: nonOpening := by
    rcases head with digit | ⟨rfl, _⟩
    · intro member
      have notDigit := List.all_eq_true.mp digits c member
      rw [digit] at notDigit
      cases notDigit
    · decide
  have out : c ≠ '"' ∧ c ≠ '[' ∧ c ≠ '\x7b' ∧ c ∉ nonOpening := by
    simpa using other
  refine ⟨fun level => ⟨c, text, ?_, out.2.2.2⟩, ?_⟩
  · exact written
  · intro level fuel enough rest ends
    obtain ⟨fuel, rfl⟩ := Nat.exists_eq_succ_of_ne_zero (Nat.ne_zero_of_lt enough)
    have read := number_toString value ends short
    rw [← scalar_toString, written, List.cons_append] at read
    show readValue (fuel + 1) ((toString value).toList ++ rest) = _
    rw [written, List.cons_append, readValue_scalar ⟨out.1, out.2.1, out.2.2.1⟩, read]

/-! ### Texts, lists and objects -/

theorem readsBack_str (value : String) : ReadsBack (.str value) where
  opens level := ⟨'"', _, rfl, by decide⟩
  reads level fuel enough rest _ := by
    obtain ⟨fuel, rfl⟩ := Nat.exists_eq_succ_of_ne_zero (Nat.ne_zero_of_lt enough)
    show readValue (fuel + 1) (writeText value ++ rest) = _
    rw [writeText_append, readValue, readText_escaped value rest (Nat.le_of_lt enough)]

section Loops

variable {fuel : Nat} {text rest left : List Char} {value : Json}

theorem readItems_last (read : readValue fuel text = .ok (value, rest))
    (closed : skip rest = ']' :: left) (done : List Json) :
    readItems (fuel + 1) text done = .ok (.arr (done.reverse ++ [value]), left) := by
  rw [readItems, read]
  simp only [closed, List.reverse_cons]

theorem readItems_next (read : readValue fuel text = .ok (value, rest))
    (comma : skip rest = ',' :: left) (done : List Json) :
    readItems (fuel + 1) text done = readItems fuel (skip left) (value :: done) := by
  rw [readItems, read]
  simp only [comma]

theorem readMembers_last {name : String} {after : List Char}
    (named : memberName fuel text = .ok (name, after))
    (read : readValue fuel after = .ok (value, rest)) (closed : skip rest = '\x7d' :: left)
    (done : List (String × Json)) :
    readMembers (fuel + 1) text done = .ok (.obj (done.reverse ++ [(name, value)]), left) := by
  rw [readMembers, named]
  simp only [read, closed, List.reverse_cons]

theorem readMembers_next {name : String} {after : List Char}
    (named : memberName fuel text = .ok (name, after))
    (read : readValue fuel after = .ok (value, rest)) (comma : skip rest = ',' :: left)
    (done : List (String × Json)) :
    readMembers (fuel + 1) text done = readMembers fuel (skip left) ((name, value) :: done) := by
  rw [readMembers, named]
  simp only [read, comma]

end Loops

theorem readItems_written {item : Json} {items : List Json} (first : ReadsBack item)
    (back : ∀ value ∈ items, ReadsBack value) (level outer : Nat) {fuel : Nat}
    (enough : (write level item).length + (writeItems level items).length + 1 < fuel)
    (rest : List Char) (done : List Json) :
    readItems fuel (write level item ++ (writeItems level items ++ (newLine outer ++ ']' :: rest)))
      done = .ok (.arr (done.reverse ++ item :: items), rest) := by
  -- an item takes more characters than the reader takes turns for it, so the fuel lasts
  induction items generalizing item fuel done with
  | nil =>
      obtain ⟨fuel, rfl⟩ := Nat.exists_eq_succ_of_ne_zero (Nat.ne_zero_of_lt enough)
      have closed : skip (newLine outer ++ ']' :: rest) = ']' :: rest := skip_newLine outer _
      exact readItems_last (first.reads level fuel (by omega) (ends_newLine outer _)) closed done
  | cons next items ih =>
      obtain ⟨fuel, rfl⟩ := Nat.exists_eq_succ_of_ne_zero (Nat.ne_zero_of_lt enough)
      have second : ReadsBack next := back next List.mem_cons_self
      have more : ∀ value ∈ items, ReadsBack value :=
        fun value member => back value (List.mem_cons_of_mem next member)
      have part := length_writeItems level next items
      rw [writeItems_append, readItems_next (first.reads level fuel (by omega) (ends_comma _))
          (skip_cons (by decide) _),
        skip_newLine, second.skip_write, ih second more (by omega), List.reverse_cons,
        List.append_assoc]
      rfl

theorem memberName_written {value : Json} (back : ReadsBack value) (level : Nat) {fuel : Nat}
    {name : String} (enough : (writeText name).length ≤ fuel + 1) (rest : List Char) :
    memberName fuel (writeText name ++ ':' :: ' ' :: (write level value ++ rest)) =
      .ok (name, write level value ++ rest) := by
  let text := write level value ++ rest
  have colon : skip (':' :: ' ' :: text) = ':' :: ' ' :: text := skip_cons (by decide) _
  have space : skip (' ' :: text) = text := back.skip_write level rest
  rw [writeText_append, memberName, readText_escaped name _ enough]
  simp only [text] at colon space
  simp only [colon, space]

theorem skip_writeText (text : String) (rest : List Char) :
    skip (writeText text ++ rest) = writeText text ++ rest := by
  rw [writeText_append, skip_cons (by decide)]

theorem readMembers_written {name : String} {value : Json} {members : List (String × Json)}
    (first : ReadsBack value) (back : ∀ entry ∈ members, ReadsBack entry.2) (level outer : Nat)
    {fuel : Nat}
    (enough : (writeText name).length + (write level value).length +
      (writeMembers level members).length + 1 < fuel)
    (rest : List Char) (done : List (String × Json)) :
    readMembers fuel (writeText name ++ ':' :: ' ' :: (write level value ++
      (writeMembers level members ++ (newLine outer ++ '\x7d' :: rest)))) done =
      .ok (.obj (done.reverse ++ (name, value) :: members), rest) := by
  induction members generalizing name value fuel done with
  | nil =>
      obtain ⟨fuel, rfl⟩ := Nat.exists_eq_succ_of_ne_zero (Nat.ne_zero_of_lt enough)
      have closed : skip (newLine outer ++ '\x7d' :: rest) = '\x7d' :: rest := skip_newLine outer _
      exact readMembers_last (memberName_written first level (by omega) _)
        (first.reads level fuel (by omega) (ends_newLine outer _)) closed done
  | cons next members ih =>
      obtain ⟨fuel, rfl⟩ := Nat.exists_eq_succ_of_ne_zero (Nat.ne_zero_of_lt enough)
      obtain ⟨nextName, nextValue⟩ := next
      have second : ReadsBack nextValue := back (nextName, nextValue) List.mem_cons_self
      have more : ∀ entry ∈ members, ReadsBack entry.2 :=
        fun entry member => back entry (List.mem_cons_of_mem _ member)
      have part := length_writeMembers level nextName nextValue members
      rw [writeMembers_append, readMembers_next (memberName_written first level (by omega) _)
          (first.reads level fuel (by omega) (ends_comma _)) (skip_cons (by decide) _),
        skip_newLine, skip_writeText, ih second more (by omega), List.reverse_cons,
        List.append_assoc]
      rfl

/-- A list that begins with a value has that value for its first item. -/
theorem readValue_items {item : Json} (first : ReadsBack item) (level fuel : Nat)
    (rest : List Char) :
    readValue (fuel + 1) ('[' :: (newLine level ++ (write level item ++ rest))) =
      readItems fuel (write level item ++ rest) [] := by
  have start : skip (newLine level ++ (write level item ++ rest)) = write level item ++ rest :=
    (skip_newLine level _).trans (first.skip_write level rest)
  obtain ⟨c, text, written, opens⟩ := first.opens level
  rw [readValue, start, written]
  split
  · next equal =>
      cases equal
      exact absurd (by decide) opens
  · rfl

theorem readValue_members (name : String) (level fuel : Nat) (rest : List Char) :
    readValue (fuel + 1) ('\x7b' :: (newLine level ++ (writeText name ++ rest))) =
      readMembers fuel (writeText name ++ rest) [] := by
  have start : skip (newLine level ++ (writeText name ++ rest)) = writeText name ++ rest :=
    (skip_newLine level _).trans (skip_writeText name rest)
  rw [readValue, start, writeText_append]
  rfl

theorem readsBack_arr {items : List Json} (back : ∀ item ∈ items, ReadsBack item) :
    ReadsBack (.arr items) := by
  cases items with
  | nil =>
      refine ⟨fun level => ⟨'[', _, rfl, by decide⟩, fun level fuel enough rest _ => ?_⟩
      obtain ⟨fuel, rfl⟩ := Nat.exists_eq_succ_of_ne_zero (Nat.ne_zero_of_lt enough)
      rfl
  | cons item items =>
      have first := back item List.mem_cons_self
      have more : ∀ value ∈ items, ReadsBack value :=
        fun value member => back value (List.mem_cons_of_mem item member)
      refine ⟨fun level => ⟨'[', _, rfl, by decide⟩, fun level fuel enough rest _ => ?_⟩
      obtain ⟨fuel, rfl⟩ := Nat.exists_eq_succ_of_ne_zero (Nat.ne_zero_of_lt enough)
      have part := length_write_arr level item items
      rw [write_arr_append, readValue_items first, readItems_written first more _ _ (by omega)]
      rfl

theorem readsBack_obj {members : List (String × Json)}
    (back : ∀ entry ∈ members, ReadsBack entry.2) : ReadsBack (.obj members) := by
  cases members with
  | nil =>
      refine ⟨fun level => ⟨'\x7b', _, rfl, by decide⟩, fun level fuel enough rest _ => ?_⟩
      obtain ⟨fuel, rfl⟩ := Nat.exists_eq_succ_of_ne_zero (Nat.ne_zero_of_lt enough)
      rfl
  | cons member members =>
      obtain ⟨name, value⟩ := member
      have first : ReadsBack value := back (name, value) List.mem_cons_self
      have more : ∀ entry ∈ members, ReadsBack entry.2 :=
        fun entry member => back entry (List.mem_cons_of_mem _ member)
      refine ⟨fun level => ⟨'\x7b', _, rfl, by decide⟩, fun level fuel enough rest _ => ?_⟩
      obtain ⟨fuel, rfl⟩ := Nat.exists_eq_succ_of_ne_zero (Nat.ne_zero_of_lt enough)
      have part := length_write_obj level name value members
      rw [write_obj_append, readValue_members, readMembers_written first more _ _ (by omega)]
      rfl

/-- Every readable value is read back, by induction on the value. -/
theorem readsBack {value : Json} (readable : Readable value) : ReadsBack value := by
  induction readable with
  | null => exact readsBack_null
  | bool value => exact readsBack_bool value
  | int short => exact readsBack_int short
  | str value => exact readsBack_str value
  | arr _ ih => exact readsBack_arr ih
  | obj _ ih => exact readsBack_obj ih

/-! ## Documents -/

/-- Reading the written form of a value gives the value, also if blanks come after it. -/
theorem parse_render_append {value : Json} (readable : Readable value) {rest : String}
    (ends : Ends rest.toList) (blank : skip rest.toList = []) :
    parse (value.render ++ rest) = .ok value := by
  have back := readsBack readable
  let document := write 0 value ++ rest.toList
  have enough : (write 0 value).length < 2 * document.length + 2 := by
    rw [List.length_append]
    omega
  have read := back.reads 0 _ enough ends
  have start := back.skip_write 0 rest.toList
  obtain ⟨c, text, written, opens⟩ := back.opens 0
  have unmarked : document.head? ≠ some '\ufeff' := by
    simp only [document, written]
    rw [List.cons_append, List.head?_cons, ne_eq, Option.some.injEq]
    rintro rfl
    exact opens (by decide)
  unfold parse render readDocument
  rw [String.toList_append, String.toList_ofList, if_neg unmarked, start, read]
  simp only [blank]

/-- Reading the written form of a value gives the value. -/
theorem parse_render {value : Json} (readable : Readable value) :
    parse value.render = .ok value := by
  rw [← String.append_empty (s := value.render)]
  exact parse_render_append readable ends_nil rfl

end GenericSignature.Json
