import GenericSignature.CommandLine.Run
import GenericSignature.Proofs.Canonical
import GenericSignature.Proofs.Faults
import GenericSignature.Proofs.Markup

/-!
# What is printed

The program puts texts into markup as they are, so it depends on the texts whether they are shown,
and whether they can be printed at all.

1. The display of a parsed signature begins no tag and holds no emoji code
   (`unmarked_display_method`, `unmarked_display_class`).  It can hold a backslash before a bracket.
2. The wording of an error of a parser is read as it is (`Fault.asIs_message`).
3. So a console that is as documented can print a parsed method with its class
   (`shows_methodPrints`) and a batch without malformed lines (`complete_batchPrints`).
4. Of an error of a parser it prints the wording, the text, and a caret as many columns from the
   left as the text with its indent has characters before the position (`reports_errorPrints`).
-/

namespace GenericSignature

open CommandLine Grammar

/-! ## Displays -/

/-- A text without opening brackets and colons. -/
def Plain (text : List Char) : Prop := '[' ∉ text ∧ ':' ∉ text

instance (text : List Char) : Decidable (Plain text) := inferInstanceAs (Decidable (_ ∧ _))

theorem Plain.append {front back : List Char} (plain : Plain front) (plain' : Plain back) :
    Plain (front ++ back) :=
  ⟨fun member => (List.mem_append.mp member).elim plain.1 plain'.1,
    fun member => (List.mem_append.mp member).elim plain.2 plain'.2⟩

theorem plain_of_forall {text : List Char} (all : ∀ c ∈ text, c ≠ '[' ∧ c ≠ ':') : Plain text :=
  ⟨fun member => (all '[' member).1 rfl, fun member => (all ':' member).2 rfl⟩

/-- No tag begins in the text, nor where it is put before another text; and it has no colons. -/
structure Unmarked (text : String) : Prop where
  untagged : hasTag text.toList = false
  closed : text.toList.getLast? ≠ some '['
  uncoded : ':' ∉ text.toList

theorem unmarked_of_plain {text : String} (plain : Plain text.toList) : Unmarked text where
  untagged := hasTag_of_not_mem plain.1
  closed last := plain.1 (List.mem_of_getLast? last)
  uncoded := plain.2

theorem unmarked_empty : Unmarked "" := unmarked_of_plain (by decide)

theorem Unmarked.append {front back : String} (unmarked : Unmarked front)
    (unmarked' : Unmarked back) : Unmarked (front ++ back) where
  untagged := by
    rw [String.toList_append, hasTag_append unmarked.closed, unmarked.untagged,
      unmarked'.untagged]
    rfl
  closed := by
    rw [String.toList_append, List.getLast?_append]
    cases last : back.toList.getLast? with
    | none => exact unmarked.closed
    | some c =>
        rw [Option.some_or, ← last]
        exact unmarked'.closed
  uncoded := by
    rw [String.toList_append, List.mem_append, not_or]
    exact ⟨unmarked.uncoded, unmarked'.uncoded⟩

theorem unmarked_intercalate {between : String} {items : List String} (unmarked : Unmarked between)
    (all : ∀ item ∈ items, Unmarked item) : Unmarked (String.intercalate between items) := by
  induction items with
  | nil => exact unmarked_empty
  | cons item items ih =>
      obtain ⟨first, others⟩ := List.forall_mem_cons.mp all
      cases items with
      | nil =>
          rw [String.intercalate_singleton]
          exact first
      | cons next items =>
          rw [String.intercalate_cons_cons]
          exact (first.append unmarked).append (ih others)

theorem unmarked_identifier {name : String} (valid : IsIdentifier name) : Unmarked name := by
  have bracket : '[' ∉ name.toList := fun member => valid.2 '[' member (by decide)
  have colon : ':' ∉ name.toList := fun member => valid.2 ':' member (by decide)
  exact unmarked_of_plain ⟨bracket, colon⟩

theorem unmarked_className {name : String} (valid : IsClassName name) : Unmarked name := by
  obtain ⟨parts, _, all, rfl⟩ := valid
  exact unmarked_intercalate (unmarked_of_plain (by decide)) fun part member =>
    unmarked_identifier (all part member)

theorem unmarked_commaSeparated {items : List String} (all : ∀ item ∈ items, Unmarked item) :
    Unmarked (commaSeparated items) :=
  unmarked_intercalate (unmarked_of_plain (by decide)) all

theorem unmarked_angled {items : List String} (all : ∀ item ∈ items, Unmarked item) :
    Unmarked (angled items) := by
  unfold angled
  split
  · exact unmarked_empty
  · exact ((unmarked_of_plain (by decide)).append (unmarked_commaSeparated all)).append
      (unmarked_of_plain (by decide))

theorem unmarked_wildcard (wildcard : Wildcard) {type : String} (unmarked : Unmarked type) :
    Unmarked (wildcard.display type) := by
  cases wildcard with
  | exactly => exact unmarked
  | any =>
      have mark : Unmarked "?" := unmarked_of_plain (by decide)
      exact mark
  | upper => exact (unmarked_of_plain (by decide)).append unmarked
  | lower => exact (unmarked_of_plain (by decide)).append unmarked

theorem unmarked_brackets (count : Nat) :
    Unmarked (String.join (List.replicate count "[]")) := by
  induction count with
  | zero => exact unmarked_empty
  | succ count ih =>
      have pair : Unmarked "[]" := ⟨by decide, by decide, by decide⟩
      rw [List.replicate_succ, String.join_cons]
      exact pair.append ih

theorem unmarked_suffixes {names : List String} {lists : List (List TypeArg)}
    (valid : ∀ name ∈ names, IsIdentifier name)
    (all : ∀ args ∈ lists, ∀ item ∈ displayArgs args, Unmarked item) :
    Unmarked (displaySuffixes names lists) := by
  induction names generalizing lists with
  | nil => cases lists <;> exact unmarked_empty
  | cons name names ih =>
      cases lists with
      | nil => exact unmarked_empty
      | cons args lists =>
          obtain ⟨first, others⟩ := List.forall_mem_cons.mp valid
          obtain ⟨here, later⟩ := List.forall_mem_cons.mp all
          exact (((unmarked_of_plain (by decide)).append (unmarked_identifier first)).append
            (unmarked_angled here)).append (ih others later)

mutual

theorem unmarked_display : (tree : TypeSig) → tree.Canonical → Unmarked tree.display
  | .base type, _ => by
      refine unmarked_of_plain ?_
      cases type <;> decide
  | .classRef _ args _ suffixArgs, ⟨name, canonicalArgs, suffixes, _, canonicalLists⟩ =>
      ((unmarked_className name).append (unmarked_angled (unmarked_args args canonicalArgs))).append
        (unmarked_suffixes suffixes (unmarked_argLists suffixArgs canonicalLists))
  | .typeVar _, name => unmarked_identifier name
  | .array dims elem, ⟨_, _, canonical⟩ =>
      (unmarked_display elem canonical).append (unmarked_brackets dims.toNat)

theorem unmarked_arg : (arg : TypeArg) → arg.Canonical → Unmarked arg.display
  | .mk wildcard none, _ => unmarked_wildcard wildcard (unmarked_of_plain (by decide))
  | .mk wildcard (some type), ⟨_, _, canonical⟩ =>
      unmarked_wildcard wildcard (unmarked_display type canonical)

theorem unmarked_args : (args : List TypeArg) → CanonicalArgs args →
    ∀ item ∈ displayArgs args, Unmarked item
  | [], _ => nofun
  | arg :: args, ⟨canonical, others⟩ =>
      List.forall_mem_cons.mpr ⟨unmarked_arg arg canonical, unmarked_args args others⟩

theorem unmarked_argLists : (lists : List (List TypeArg)) → CanonicalArgLists lists →
    ∀ args ∈ lists, ∀ item ∈ displayArgs args, Unmarked item
  | [], _ => nofun
  | args :: lists, ⟨canonical, others⟩ =>
      List.forall_mem_cons.mpr ⟨unmarked_args args canonical, unmarked_argLists lists others⟩

end

theorem unmarked_display_param {param : TypeParam} (canonical : param.Canonical) :
    Unmarked param.display := by
  obtain ⟨name, bound, ifaces⟩ := canonical
  have bounds : ∀ item ∈ param.shownBounds, Unmarked item := by
    have shown : ∀ item ∈ param.ifaces.map TypeSig.display, Unmarked item :=
      List.forall_mem_map.mpr fun iface member => unmarked_display iface (ifaces iface member).2
    unfold TypeParam.shownBounds
    split
    · exact shown
    · next first has =>
        obtain ⟨type, is, rfl⟩ := Option.map_eq_some_iff.mp has
        split
        · exact shown
        · exact List.forall_mem_cons.mpr ⟨unmarked_display type (bound type is).2, shown⟩
  unfold TypeParam.display
  simp only []
  split
  · exact unmarked_identifier name
  · exact ((unmarked_identifier name).append (unmarked_of_plain (by decide))).append
      (unmarked_intercalate (unmarked_of_plain (by decide)) bounds)

theorem unmarked_params {params : List TypeParam} (canonical : CanonicalParams params) :
    ∀ item ∈ params.map TypeParam.display, Unmarked item :=
  List.forall_mem_map.mpr fun param member => unmarked_display_param (canonical.1 param member)

theorem unmarked_display_method {sig : MethodSig} (canonical : sig.Canonical) :
    Unmarked sig.display := by
  obtain ⟨tparams, params, result, throws⟩ := canonical
  have blank : Unmarked " " := unmarked_of_plain (by decide)
  have front : Unmarked (if sig.tparams.isEmpty then ""
      else angled (sig.tparams.map TypeParam.display) ++ " ") := by
    split
    · exact unmarked_empty
    · exact (unmarked_angled (unmarked_params tparams)).append blank
  have inside : Unmarked (commaSeparated (sig.params.map TypeSig.display)) :=
    unmarked_commaSeparated (List.forall_mem_map.mpr fun param member =>
      unmarked_display param (params param member))
  have back : Unmarked (if sig.throws.isEmpty then ""
      else " throws " ++ commaSeparated (sig.throws.map TypeSig.display)) := by
    split
    · exact unmarked_empty
    · exact (unmarked_of_plain (by decide)).append (unmarked_commaSeparated
        (List.forall_mem_map.mpr fun thrown member =>
          unmarked_display thrown (throws thrown member).2))
  have opening : Unmarked " (" := unmarked_of_plain (by decide)
  have closing : Unmarked ")" := unmarked_of_plain (by decide)
  exact ((((front.append (unmarked_display _ result)).append opening).append inside).append
    closing).append back

theorem unmarked_display_class {sig : ClassSig} (canonical : sig.Canonical) :
    Unmarked sig.display := by
  obtain ⟨tparams, super, ifaces⟩ := canonical
  refine unmarked_intercalate (unmarked_of_plain (by decide)) ?_
  unfold ClassSig.shownParts
  refine List.forall_mem_append.mpr ⟨List.forall_mem_append.mpr ⟨?_, ?_⟩, ?_⟩
  · split
    · exact nofun
    · exact List.forall_mem_singleton.mpr (unmarked_angled (unmarked_params tparams))
  · split
    · exact nofun
    · exact List.forall_mem_singleton.mpr ((unmarked_of_plain (by decide)).append
        (unmarked_display _ super.2))
  · split
    · exact nofun
    · exact List.forall_mem_singleton.mpr ((unmarked_of_plain (by decide)).append
        (unmarked_commaSeparated (List.forall_mem_map.mpr fun iface member =>
          unmarked_display iface (ifaces iface member).2)))

/-! ## Messages -/

namespace CommandLine

/-- A text that is read as it is, also where it is put before another text. -/
structure AsIs (text : List Char) : Prop where
  untagged : hasTag text = false
  closed : text.getLast? ≠ some '['
  unescaped : unescapeBrackets text = text
  uncoded : pairsColons false text = false

theorem asIs_of_plain {text : List Char} (plain : Plain text) : AsIs text where
  untagged := hasTag_of_not_mem plain.1
  closed last := plain.1 (List.mem_of_getLast? last)
  unescaped := unescapeBrackets_eq_self plain.1
  uncoded := pairsColons_of_not_mem plain.2 false

/-- Words that are read as they are make a sentence that is. -/
theorem AsIs.words {front back : List Char} (asIs : AsIs front) (asIs' : AsIs back) :
    AsIs (front ++ ' ' :: back) where
  untagged := by
    rw [hasTag_append asIs.closed, asIs.untagged]
    exact asIs'.untagged
  closed := by
    rw [List.getLast?_append]
    cases last : back.getLast? with
    | none =>
        rw [List.getLast?_eq_none_iff.mp last]
        exact fun same => absurd (Option.some.inj same) (by decide)
    | some c =>
        have after : (' ' :: back).getLast? = some c := by
          rw [List.getLast?_cons, last]
          rfl
        rw [after, Option.some_or, ← last]
        exact asIs'.closed
  unescaped := by
    rw [unescapeBrackets_append (by simp), unescapeBrackets_cons_of_ne (by decide),
      asIs.unescaped, asIs'.unescaped]
  uncoded := by
    rw [pairsColons_append_blank, asIs.uncoded, asIs'.uncoded]
    rfl

theorem plain_toString (n : Nat) : Plain (toString n).toList := by
  have digits : (toString n).toList = Nat.toDigits 10 n := String.toList_ofList
  refine plain_of_forall fun c member => ?_
  rw [digits] at member
  have digit : c.isDigit = true := Nat.isDigit_of_mem_toDigits (by decide) (by decide) member
  constructor
  · rintro rfl
    cases digit
  · rintro rfl
    cases digit

theorem plain_hex (width n : Nat) : Plain (Text.hex width n) := by
  induction width generalizing n with
  | zero => exact ⟨List.not_mem_nil, List.not_mem_nil⟩
  | succ width ih =>
      have digit : ∀ i : Fin 16, Plain [Text.hexDigit i.val] := by decide
      exact (ih (n / 16)).append (digit ⟨n % 16, Nat.mod_lt n (by decide)⟩)

theorem plain_numericEscape (n : Nat) : Plain (Text.numericEscape n) := by
  have mark (letter : Char) (plain : Plain ['\\', letter]) (width : Nat) :
      Plain ('\\' :: letter :: Text.hex width n) := plain.append (plain_hex width n)
  unfold Text.numericEscape
  split
  · exact mark 'x' (by decide) _
  · split
    · exact mark 'u' (by decide) _
    · exact mark 'U' (by decide) _

/-- Between quotes, a character begins no tag and ends no emoji code. -/
theorem asIs_quoted {mark c : Char} (quote : mark ∈ ['\'', '"']) (noSlash : c ≠ '\\') :
    AsIs [mark, c, mark] := by
  simp only [List.mem_cons, List.not_mem_nil, or_false] at quote
  rcases quote with rfl | rfl
  · refine ⟨by simp [hasTag, startsTag], by simp, by simp [unescapeBrackets, noSlash], ?_⟩
    simp [pairsColons]
  · refine ⟨by simp [hasTag, startsTag], by simp, by simp [unescapeBrackets, noSlash], ?_⟩
    simp [pairsColons]

theorem asIs_quoteChars (c : Char) : AsIs (Text.quoteChars [c]) := by
  let mark := Text.quoteMark [c]
  have quote : mark ∈ ['\'', '"'] := by
    show Text.quoteMark [c] ∈ _
    unfold Text.quoteMark
    split <;> decide
  have other : c ≠ mark := by
    show c ≠ Text.quoteMark [c]
    by_cases single : c = '\''
    · subst single
      decide
    · have marked : Text.quoteMark [c] = '\'' := if_neg (by simp [Ne.symm single])
      rw [marked]
      exact single
  have written : Text.quoteChars [c] = mark :: Text.escapeWithin mark c ++ [mark] := by
    simp [Text.quoteChars, mark]
  have plainMark : Plain [mark] := by
    simp only [List.mem_cons, List.not_mem_nil, or_false] at quote
    rcases quote with same | same <;> rw [same] <;> decide
  have plain (escape : List Char) (inner : Plain escape) : AsIs (mark :: escape ++ [mark]) :=
    asIs_of_plain ((plainMark.append inner).append plainMark)
  rw [written]
  unfold Text.escapeWithin
  split
  · next special =>
      obtain rfl := special.resolve_left other
      exact plain _ (by decide)
  · next ordinary =>
      split
      · exact plain _ (by decide)
      · split
        · exact plain _ (by decide)
        · split
          · exact plain _ (by decide)
          · split
            · exact asIs_quoted quote fun same => ordinary (.inr same)
            · exact plain _ (plain_numericEscape _)

/-- The character of a mark that was expected, in quotes. -/
theorem asIs_expected {literal : String} (mark : literal ∈ ["(", ":", ";"]) :
    AsIs ("Expected '".toList ++ literal.toList ++ "', found".toList) := by
  simp only [List.mem_cons, List.not_mem_nil, or_false] at mark
  rcases mark with rfl | rfl | rfl <;> exact ⟨by decide, by decide, by decide, by decide⟩

end CommandLine

/-- The wording of a fault of the grammar is read as it is. -/
theorem Fault.asIs_message {fault : Fault} (own : fault.IsOwn) : AsIs fault.message.toList := by
  cases fault with
  | other message => cases own
  | tooLong limit =>
      have front : Plain "Signature exceeds maximum length of ".toList := by decide
      have back : Plain " characters".toList := by decide
      have message : (Fault.tooLong limit).message.toList =
          "Signature exceeds maximum length of ".toList ++ (toString limit).toList ++
            " characters".toList := by
        rw [← String.toList_append, ← String.toList_append]
        rfl
      rw [message]
      exact asIs_of_plain ((front.append (plain_toString limit)).append back)
  | expected literal found =>
      have front := asIs_expected own
      have split : ∀ last : String, ("Expected '" ++ literal ++ "', found " ++ last).toList =
          "Expected '".toList ++ literal.toList ++ "', found".toList ++ ' ' :: last.toList := by
        intro last
        have blank : "', found ".toList = "', found".toList ++ [' '] := by decide
        simp only [String.toList_append, blank, List.append_assoc]
        rfl
      cases found with
      | none =>
          have message : (Fault.expected literal none).message.toList = _ := split "end of input"
          rw [message]
          exact front.words (asIs_of_plain (by decide))
      | some c =>
          have message : (Fault.expected literal (some c)).message.toList = _ :=
            split (Text.quote (String.singleton c))
          have quoted : (Text.quote (String.singleton c)).toList = Text.quoteChars [c] := by
            rw [Text.quote, String.toList_ofList, String.toList_singleton]
          rw [message, quoted]
          exact front.words (asIs_quoteChars c)
  | _ => exact asIs_of_plain (by decide +kernel)

/-! ## Consoles -/

namespace CommandLine

theorem toList_bracketsShown (text : String) :
    (bracketsShown text).toList = unescapeBrackets text.toList :=
  String.toList_ofList

theorem mem_of_mem_unescapeBrackets {text : List Char} {c : Char}
    (member : c ∈ unescapeBrackets text) : c ∈ text := by
  induction text with
  | nil => exact member
  | cons d text ih =>
      rw [unescapeBrackets] at member
      split at member
      · exact List.mem_cons_of_mem d (ih member)
      · exact (List.mem_cons.mp member).elim (· ▸ List.mem_cons_self)
          fun later => List.mem_cons_of_mem d (ih later)

/-- A sentence that says where an error is. -/
def placed (message : String) (position : Nat) : String :=
  message ++ " at position " ++ toString position

theorem asIs_placed {message : String} (asIs : AsIs message.toList) (position : Nat) :
    AsIs (placed message position).toList := by
  have words : (placed message position).toList =
      message.toList ++ ' ' :: ("at position".toList ++ ' ' :: (toString position).toList) := by
    have blanks : " at position ".toList = ' ' :: ("at position".toList ++ [' ']) := by decide
    unfold placed
    simp only [String.toList_append, blanks, List.append_assoc, List.cons_append]
    rfl
  rw [words]
  exact asIs.words ((asIs_of_plain (by decide)).words (asIs_of_plain (plain_toString position)))

/-- The title of the report of an error. -/
def errorTitle (error : GrammarError) (position : Nat) : String :=
  "Error: " ++ placed error.message position

/-- The line with the text that an error is about. -/
def errorLine (error : GrammarError) : String := "  " ++ error.text

/-- A caret in a column.  Columns are counted from 0. -/
def caretAt (column : Nat) : String := String.ofList (List.replicate column ' ') ++ "^"

namespace Console

variable (console : Console)

/-- What a console shows of a method, and of its class if there is one: their displays, without
backslashes in front of brackets, and the table of the parts of the method. -/
structure Shows (sig : MethodSig) (cls : Option ClassSig) (output : String) : Prop where
  printed : ∃ table, console.layOutTable? (methodTable sig) = some table ∧
    output = console.layOut ("Signature: " ++ bracketsShown sig.display) ++ table ++
      (cls.map fun cls => console.layOut ("Class: " ++ bracketsShown cls.display)).getD ""
  same_iff : bracketsShown sig.display = sig.display ↔ ¬ ['\\', '['] <:+: sig.display.toList
  /-- A display that fits is shown in one line. -/
  exact : console.Fits ("Signature: " ++ bracketsShown sig.display) →
    ∃ rest, output = "Signature: " ++ bracketsShown sig.display ++ "\n" ++ rest

/-- Of two lines that are printed as they are, the last character of the lower one stands below the
character in a column of the upper one: as many cells are before the one as before the other. -/
def Under (upper : String) (column : Nat) (lower : String) : Prop :=
  console.cells (String.ofList lower.toList.dropLast) =
    console.cells (String.ofList (upper.toList.take column))

/-- The report of an error at a position of its text: a title with the message and the position, the
text after an indent of two, and a caret.  Colons in the text may make emoji codes.  What becomes of
control characters, line breaks and tabs among them, and of lines that are too wide is up to the
console. -/
structure Reports (error : GrammarError) (position : Nat) (report : String) : Prop where
  position_eq : error.position = position
  within : position ≤ error.text.length
  printed : report = console.layOut (errorTitle error position) ++
    (console.layOut (console.replaceCodes (errorLine error)) ++
      console.layOut (caretAt (position + 2)))
  /-- What fits is printed as it is, in three lines. -/
  exact : console.Fits (errorTitle error position) → console.Fits (errorLine error) →
    pairsColons false error.text.toList = false → position + 3 ≤ console.width →
      report = errorTitle error position ++ "\n" ++ errorLine error ++ "\n" ++
        caretAt (position + 2) ++ "\n"
  /-- From the column of the caret on, the line has what the text has from the position on: the
  character that the error is about, or nothing if the position is the end. -/
  column : (errorLine error).toList.drop (position + 2) = error.text.toList.drop position
  /-- Columns are not cells: below a line that is printed as it is, the caret is where it belongs
  exactly if what is before it takes as many cells as it has characters.  After wide characters it
  is too far to the left. -/
  under_iff : console.Under (errorLine error) (position + 2) (caretAt (position + 2)) ↔
    console.cells (String.ofList ((errorLine error).toList.take (position + 2))) = position + 2
  under : (∀ c ∈ error.text.toList.take position, IsPrintableAscii c) →
    console.Under (errorLine error) (position + 2) (caretAt (position + 2))

end Console

theorem toList_errorLine (error : GrammarError) :
    (errorLine error).toList = ' ' :: ' ' :: error.text.toList := by
  rw [errorLine, String.toList_append]
  rfl

theorem toList_caretAt (column : Nat) :
    (caretAt column).toList = List.replicate column ' ' ++ ['^'] := by
  rw [caretAt, String.toList_append, String.toList_ofList]
  rfl

theorem printable_blanks (count : Nat) :
    ∀ c ∈ List.replicate count ' ', Console.IsPrintableAscii c := by
  intro c member
  rw [List.eq_of_mem_replicate member]
  exact ⟨by decide, by decide⟩

theorem not_isControl_of_printable {c : Char} (printable : Console.IsPrintableAscii c) :
    ¬ Console.IsControl c := by
  unfold Console.IsPrintableAscii at printable
  unfold Console.IsControl
  omega

section Documented

variable {console : Console}

theorem printAll_cons {item : Print} {text : String} (printed : console.print? item = some text)
    (items : List Print) :
    console.printAll (item :: items) =
      (text ++ (console.printAll items).1, (console.printAll items).2) := by
  rw [Console.printAll, printed]

namespace Console.Documented

variable (documented : console.Documented)

include documented

theorem isSome_read {text : String} (untagged : hasTag text.toList = false) :
    (console.read? text).isSome = true := by
  rw [documented.read_untagged text untagged]
  rfl

theorem print_untagged {text : String} (untagged : hasTag text.toList = false) :
    console.print? (.markup text) =
      some (console.layOut (console.replaceCodes (bracketsShown text))) :=
  congrArg (Option.map console.layOut) (documented.read_untagged text untagged)

theorem isSome_read_styled {style title : String} (word : IsStyle style)
    (noBracket : '[' ∉ title.toList) (noSlash : '\\' ∉ title.toList) :
    (console.read? (styled style title)).isSome = true := by
  have read := documented.read_styled style title "" word noBracket noSlash rfl
  rw [String.append_empty] at read
  rw [read]
  rfl

/-- A title in a style is printed with the text after it. -/
theorem print_styled (style title : String) {text : String} (word : IsStyle style)
    (noBracket : '[' ∉ title.toList) (noSlash : '\\' ∉ title.toList)
    (uncodedTitle : pairsColons false title.toList = false) (untagged : hasTag text.toList = false)
    (uncoded : pairsColons false (bracketsShown text).toList = false) :
    console.print? (.markup (styled style title ++ text)) =
      some (console.layOut (title ++ bracketsShown text)) := by
  have read := documented.read_styled style title text word noBracket noSlash untagged
  rw [documented.replaceCodes_eq _ uncodedTitle, documented.replaceCodes_eq _ uncoded] at read
  exact congrArg (Option.map console.layOut) read

/-- A table is printed if its cells can be read. -/
theorem print_table {table : Table}
    (readable : ∀ cells ∈ table.header :: table.rows, ∀ cell ∈ cells,
      (console.read? cell).isSome = true) :
    ∃ printed, console.print? (.table table) = some printed :=
  Option.isSome_iff_exists.mp (documented.layOutTable_isSome table readable)

/-- A display is printed after its title, without backslashes in front of brackets. -/
theorem print_titled (title : String) (known : title ∈ ["Signature:", "Class:"])
    {display : String} (unmarked : Unmarked display) : console.print? (titled title display) =
      some (console.layOut (title ++ " " ++ bracketsShown display)) := by
  obtain ⟨noBracket, noSlash, single⟩ : '[' ∉ title.toList ∧ '\\' ∉ title.toList ∧
      pairsColons false title.toList = false := by
    simp only [List.mem_cons, List.not_mem_nil, or_false] at known
    rcases known with rfl | rfl <;> decide
  have blank : Unmarked " " := unmarked_of_plain (by decide)
  have shown : bracketsShown (" " ++ display) = " " ++ bracketsShown display := by
    rw [← String.toList_inj, toList_bracketsShown, String.toList_append, String.toList_append,
      toList_bracketsShown]
    exact unescapeBrackets_cons_of_ne (by decide) display.toList
  have uncoded : pairsColons false (bracketsShown (" " ++ display)).toList = false := by
    refine pairsColons_of_not_mem ?_ false
    rw [toList_bracketsShown]
    exact mt mem_of_mem_unescapeBrackets (blank.append unmarked).uncoded
  have printed := documented.print_styled "blue" title (by decide) noBracket noSlash single
    (blank.append unmarked).untagged uncoded
  rw [shown] at printed
  rw [titled, String.append_assoc, printed, String.append_assoc]

/-! ### Tables -/

theorem print_methodTable {sig : MethodSig} (canonical : sig.Canonical) :
    ∃ printed, console.print? (.table (methodTable sig)) = some printed := by
  obtain ⟨tparams, params, result, throws⟩ := canonical
  have numbered : ∀ {kind : String} {items : List String}, Unmarked kind →
      (∀ item ∈ items, Unmarked item) → ∀ cells ∈ numberedRows kind items, ∀ cell ∈ cells,
        (console.read? cell).isSome = true := by
    intro kind items unmarkedKind all cells member
    obtain ⟨i, within, rfl⟩ := List.mem_mapIdx.mp member
    have number : Unmarked (toString i) := unmarked_of_plain (plain_toString i)
    have item := all _ (List.getElem_mem within)
    simp only [List.forall_mem_cons, List.not_mem_nil, false_implies, implies_true, and_true]
    exact ⟨documented.isSome_read unmarkedKind.untagged, documented.isSome_read number.untagged,
      documented.isSome_read item.untagged⟩
  have types : ∀ {trees : List TypeSig}, (∀ tree ∈ trees, tree.Canonical) →
      ∀ item ∈ trees.map TypeSig.display, Unmarked item := fun all =>
    List.forall_mem_map.mpr fun tree member => unmarked_display tree (all tree member)
  have titles : ∀ title ∈ ["Part", "Index", "Type"], hasTag title.toList = false := by decide
  have words : ∀ word ∈ ["result", ""], hasTag word.toList = false := by decide
  refine documented.print_table (List.forall_mem_cons.mpr
    ⟨fun title member => documented.isSome_read (titles title member), ?_⟩)
  refine List.forall_mem_append.mpr ⟨List.forall_mem_append.mpr
    ⟨List.forall_mem_append.mpr ⟨?_, ?_⟩, ?_⟩, ?_⟩
  · exact numbered (unmarked_of_plain (by decide)) (unmarked_params tparams)
  · exact numbered (unmarked_of_plain (by decide)) (types params)
  · simp only [List.forall_mem_cons, List.not_mem_nil, false_implies, implies_true, and_true]
    exact ⟨documented.isSome_read (words _ (by decide)),
      documented.isSome_read (words _ (by decide)),
      documented.isSome_read (unmarked_display _ result).untagged⟩
  · exact numbered (unmarked_of_plain (by decide)) (types fun thrown member =>
      (throws thrown member).2)

/-- A parsed method is shown, and with it the class around it. -/
theorem shows_methodPrints {sig : MethodSig} {cls : Option ClassSig} (canonical : sig.Canonical)
    (canonicalCls : ∀ found ∈ cls, found.Canonical) :
    ∃ output, console.printAll (methodPrints sig cls) = (output, true) ∧
      console.Shows sig cls output := by
  obtain ⟨table, printed⟩ := documented.print_methodTable canonical
  have shown : ("Signature:" ++ " " : String) = "Signature: " := by decide
  have shownCls : ("Class:" ++ " " : String) = "Class: " := by decide
  have first := documented.print_titled "Signature:" (by decide)
    (unmarked_display_method canonical)
  rw [shown] at first
  let line := console.layOut ("Signature: " ++ bracketsShown sig.display)
  let last := (cls.map fun cls => console.layOut ("Class: " ++ bracketsShown cls.display)).getD ""
  let around := (cls.map fun cls => titled "Class:" cls.display).toList
  have ending : console.printAll around = (last, true) := by
    cases cls with
    | none => rfl
    | some cls =>
        have shows := documented.print_titled "Class:" (by decide)
          (unmarked_display_class (canonicalCls cls rfl))
        rw [shownCls] at shows
        exact (printAll_cons shows []).trans (by rw [Console.printAll, String.append_empty]; rfl)
  have output : console.printAll (methodPrints sig cls) = (line ++ (table ++ last), true) := by
    have items : methodPrints sig cls =
        titled "Signature:" sig.display :: .table (methodTable sig) :: around := rfl
    rw [items, printAll_cons first, printAll_cons printed, ending]
  refine ⟨_, output, ⟨table, printed, (String.append_assoc ..).symm⟩, bracketsShown_eq_iff _, ?_⟩
  intro fits
  exact ⟨table ++ last, congrArg (· ++ (table ++ last)) (documented.layOut_eq _ fits)⟩

/-- The report of a batch is printed if all lines were parsed: no text that was refused is in it. -/
theorem complete_batchPrints {result : BatchResult} (clean : result.failures = [])
    (canonical : ∀ entry ∈ result.parsed, entry.sig.tree.Canonical) :
    (console.printAll (batchPrints result)).2 = true := by
  have titles : ∀ title ∈ ["Line", "Status", "Signature"], hasTag title.toList = false := by decide
  have rows : ∀ row ∈ batchRows result, row.parsed = true ∧ Unmarked row.shown := by
    unfold batchRows
    rw [clean]
    intro row member
    simp only [List.map_nil, List.append_nil, List.mem_mergeSort] at member
    obtain ⟨entry, among, rfl⟩ := List.mem_map.mp member
    exact ⟨rfl, unmarked_display_method (canonical entry among)⟩
  have cells : ∀ cells ∈ (colouredTable result).rows, ∀ cell ∈ cells,
      (console.read? cell).isSome = true := by
    refine List.forall_mem_map.mpr (List.forall_mem_map.mpr fun row member => ?_)
    obtain ⟨parsed, shown⟩ := rows row member
    have number : Unmarked (toString row.line) := unmarked_of_plain (plain_toString row.line)
    have status : (console.read? (statusShown (if row.parsed then "ok" else "error"))).isSome =
        true := by
      rw [if_pos parsed]
      exact documented.isSome_read_styled (by decide) (by decide) (by decide)
    simp only [List.modify_succ_cons, List.modify_zero_cons, List.forall_mem_cons, List.not_mem_nil,
      false_implies, implies_true, and_true]
    exact ⟨documented.isSome_read number.untagged, status, documented.isSome_read shown.untagged⟩
  have table : ∃ printed, console.print? (.table (colouredTable result)) = some printed :=
    documented.print_table (List.forall_mem_cons.mpr
      ⟨fun title member => documented.isSome_read (titles title member), cells⟩)
  obtain ⟨table, printed⟩ := table
  have count (n : Nat) : Unmarked (toString n) := unmarked_of_plain (plain_toString n)
  have words (text : String) (plain : Plain text.toList) := unmarked_of_plain plain
  have counts : Unmarked ("Parsed " ++ toString result.parsed.length ++ " of " ++
      toString result.total ++ " signature(s)") :=
    ((((words _ (by decide)).append (count _)).append (words _ (by decide))).append
      (count _)).append (words _ (by decide))
  unfold batchPrints
  rw [printAll_cons printed, printAll_cons (documented.print_untagged counts.untagged)]
  rfl

/-! ### Reports of errors -/

/-- The title of the report of an error. -/
theorem print_errorTitle {error : GrammarError} {position : Nat} (own : error.fault.IsOwn)
    (is : error.position = position) :
    console.print? (.markup (styled "red" "Error:" ++ " " ++ error.message ++ " at position " ++
      toString error.position)) = some (console.layOut (errorTitle error position)) := by
  have asIs := asIs_placed (Fault.asIs_message own) position
  have empty : AsIs [] := asIs_of_plain (by decide)
  have body : (" " ++ placed error.message position).toList =
      [] ++ ' ' :: (placed error.message position).toList := by
    rw [String.toList_append]
    rfl
  have asIsBody : AsIs (" " ++ placed error.message position).toList := by
    rw [body]
    exact empty.words asIs
  have shown : bracketsShown (" " ++ placed error.message position) =
      " " ++ placed error.message position := by
    rw [bracketsShown, asIsBody.unescaped, String.ofList_toList]
  have uncoded : pairsColons false
      (bracketsShown (" " ++ placed error.message position)).toList = false := by
    rw [shown]
    exact asIsBody.uncoded
  let title := styled "red" "Error:"
  have text : title ++ " " ++ error.message ++ " at position " ++ toString error.position =
      title ++ (" " ++ placed error.message position) := by
    rw [is]
    simp only [placed, String.append_assoc]
    rfl
  have words : "Error:" ++ (" " ++ placed error.message position) = errorTitle error position := by
    rw [errorTitle, ← String.append_assoc]
    rfl
  have printed := documented.print_styled "red" "Error:" (by decide)
    (by decide) (by decide) (by decide) asIsBody.untagged uncoded
  rw [shown, words] at printed
  rw [text, printed]

theorem cells_of_printable {text : List Char}
    (printable : ∀ c ∈ text, Console.IsPrintableAscii c) :
    console.cells (String.ofList text) = text.length := by
  have cells := documented.cells_eq (String.ofList text)
  rw [String.toList_ofList, String.length_ofList] at cells
  exact cells printable

theorem layOut_caretAt {column : Nat} (within : column + 1 ≤ console.width) :
    console.layOut (caretAt column) = caretAt column ++ "\n" := by
  have printable : ∀ c ∈ (caretAt column).toList, Console.IsPrintableAscii c := by
    rw [toList_caretAt]
    exact List.forall_mem_append.mpr ⟨printable_blanks column,
      List.forall_mem_singleton.mpr ⟨by decide, by decide⟩⟩
  have length : (caretAt column).length = column + 1 := by
    rw [← String.length_toList, toList_caretAt, List.length_append, List.length_replicate]
    rfl
  have fits : console.Fits (caretAt column) := by
    refine ⟨fun c member => not_isControl_of_printable (printable c member), ?_⟩
    rwa [documented.cells_eq _ printable, length]
  exact documented.layOut_eq _ fits

/-- A caret is below a column if what is before the column takes as many cells as it has
characters. -/
theorem under_caretAt_iff {line : String} {column : Nat} :
    console.Under line column (caretAt column) ↔
      console.cells (String.ofList (line.toList.take column)) = column := by
  unfold Console.Under
  rw [toList_caretAt, List.dropLast_concat, documented.cells_of_printable (printable_blanks column),
    List.length_replicate]
  exact eq_comm

/-- An error of a parser is reported by its wording, its text and a caret. -/
theorem reports_errorPrints {error : GrammarError} {position : Nat} (own : error.fault.IsOwn)
    (is : error.position = position) (within : position ≤ error.text.length) :
    ∃ report, console.printAll (errorPrints error) = (report, true) ∧
      console.Reports error position report := by
  have title : console.print? _ = some (console.layOut (errorTitle error position)) :=
    documented.print_errorTitle own is
  have caret : "  " ++ String.ofList (List.replicate error.position.toNat ' ') ++ "^" =
      caretAt (position + 2) := by
    rw [is, Int.toNat_natCast, ← String.toList_inj, toList_caretAt]
    simp only [String.toList_append, String.toList_ofList]
    rfl
  have uncodedCaret : pairsColons false (caretAt (position + 2)).toList = false := by
    refine pairsColons_of_not_mem ?_ false
    rw [toList_caretAt]
    simp
  have line : pairsColons false (errorLine error).toList = pairsColons false error.text.toList := by
    rw [toList_errorLine]
    rfl
  have before : (errorLine error).toList.take (position + 2) =
      ' ' :: ' ' :: error.text.toList.take position := by
    rw [toList_errorLine]
    rfl
  refine ⟨_, ?_, is, within, rfl, ?_, ?_, documented.under_caretAt_iff, ?_⟩
  · unfold errorPrints
    rw [printAll_cons title, printAll_cons rfl, printAll_cons rfl, caret,
      documented.replaceCodes_eq _ uncodedCaret]
    simp only [Console.printAll, String.append_empty]
    rfl
  · intro fits fitsLine uncoded wide
    rw [documented.layOut_eq _ fits, documented.replaceCodes_eq _ (line.trans uncoded),
      documented.layOut_eq _ fitsLine, documented.layOut_caretAt wide]
    simp only [String.append_assoc]
  · rw [toList_errorLine]
    rfl
  · intro printable
    have blank : Console.IsPrintableAscii ' ' := ⟨by decide, by decide⟩
    have all := List.forall_mem_cons.mpr ⟨blank, List.forall_mem_cons.mpr ⟨blank, printable⟩⟩
    rw [documented.under_caretAt_iff, before, documented.cells_of_printable all]
    simp only [List.length_cons, List.length_take, String.length_toList]
    omega

end Console.Documented

end Documented

end CommandLine

end GenericSignature
