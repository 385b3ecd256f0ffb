import GenericSignature.CommandLine.Console

/-!
# Reading markup

1. Texts that do not end with an open bracket can be put together without beginning a tag
   (`hasTag_append`), and a text without brackets says what it is (`unescapeBrackets_eq_self`).
2. A text is changed by reading it without tags if and only if a bracket follows a backslash in it
   (`bracketsShown_eq_iff`).
3. The reader of markup reads a text without tags (`readMarkup?_untagged`) and a text after a title
   in a style (`readMarkup?_styled`) as it is documented of all consoles, so the wide console is one
   of them (`Console.wide_documented`).
-/

namespace GenericSignature.CommandLine

/-! ## Tags -/

theorem hasTag_of_not_mem {text : List Char} (none : '[' ∉ text) : hasTag text = false := by
  induction text with
  | nil => rfl
  | cons c text ih =>
      rw [List.mem_cons, not_or] at none
      obtain ⟨other, none⟩ := none
      have differs : (c == '[') = false := beq_eq_false_iff_ne.mpr (Ne.symm other)
      rw [hasTag, differs, Bool.false_and, Bool.false_or, ih none]

theorem hasTag_append {front back : List Char} (closed : front.getLast? ≠ some '[') :
    hasTag (front ++ back) = (hasTag front || hasTag back) := by
  induction front with
  | nil => rfl
  | cons c front ih =>
      have step : ∀ text, hasTag (c :: text) =
        ((c == '[' && text.head?.any startsTag) || hasTag text) := fun _ => rfl
      cases front with
      | nil =>
          have differs : (c == '[') = false := by simpa using closed
          rw [List.singleton_append, step, step, differs]
          rfl
      | cons d front =>
          have next : (d :: front ++ back).head? = (d :: front).head? := rfl
          rw [List.cons_append, step, step, next, ih (by simpa using closed), Bool.or_assoc]

/-! ## Backslashes -/

theorem unescapeBrackets_cons_of_ne {c : Char} (other : c ≠ '\\') (text : List Char) :
    unescapeBrackets (c :: text) = c :: unescapeBrackets text :=
  if_neg fun escaped => other escaped.1

theorem unescapeBrackets_append {front back : List Char} (apart : back.head? ≠ some '[') :
    unescapeBrackets (front ++ back) = unescapeBrackets front ++ unescapeBrackets back := by
  induction front with
  | nil => rfl
  | cons c front ih =>
      have same : (front ++ back).head? = some '[' ↔ front.head? = some '[' := by
        cases front with
        | nil => simp [apart]
        | cons d front => rfl
      rw [List.cons_append, unescapeBrackets, unescapeBrackets, ih]
      simp only [same]
      split <;> rfl

theorem unescapeBrackets_eq_self {text : List Char} (none : '[' ∉ text) :
    unescapeBrackets text = text := by
  induction text with
  | nil => rfl
  | cons c text ih =>
      rw [List.mem_cons, not_or] at none
      obtain ⟨_, none⟩ := none
      have apart : ¬ (c = '\\' ∧ text.head? = some '[') := fun escaped =>
        none (List.mem_of_mem_head? escaped.2)
      rw [unescapeBrackets, if_neg apart, ih none]

theorem length_unescapeBrackets_le (text : List Char) :
    (unescapeBrackets text).length ≤ text.length := by
  induction text with
  | nil => exact Nat.le_refl 0
  | cons c text ih =>
      rw [unescapeBrackets]
      split
      · exact Nat.le_succ_of_le ih
      · exact Nat.succ_le_succ ih

/-- Brackets are shown as they are if and only if none follows a backslash. -/
theorem unescapeBrackets_eq_iff (text : List Char) :
    unescapeBrackets text = text ↔ ¬ ['\\', '['] <:+: text := by
  induction text with
  | nil => decide
  | cons c text ih =>
      have starts : ['\\', '['] <+: c :: text ↔ c = '\\' ∧ text.head? = some '[' := by
        cases text <;> simp [List.cons_prefix_cons, eq_comm]
      rw [unescapeBrackets, List.infix_cons_iff, starts, not_or]
      split
      · next escaped =>
          refine iff_of_false (fun same => ?_) fun apart => apart.1 escaped
          have shorter := length_unescapeBrackets_le text
          rw [same] at shorter
          exact Nat.not_succ_le_self _ shorter
      · next plain =>
          rw [List.cons.injEq, ih]
          exact ⟨fun same => ⟨plain, same.2⟩, fun apart => ⟨rfl, apart.2⟩⟩

theorem bracketsShown_eq_iff (text : String) :
    bracketsShown text = text ↔ ¬ ['\\', '['] <:+: text.toList := by
  rw [← unescapeBrackets_eq_iff, bracketsShown, ← String.toList_inj, String.toList_ofList]

/-! ## Emoji codes -/

theorem pairsColons_of_not_mem {text : List Char} (none : ':' ∉ text) (seen : Bool) :
    pairsColons seen text = false := by
  induction text generalizing seen with
  | nil => rfl
  | cons c text ih =>
      rw [List.mem_cons, not_or] at none
      obtain ⟨other, none⟩ := none
      rw [pairsColons, if_neg (Ne.symm other), ih none, ih none, ite_self]

/-- No code goes beyond a blank. -/
theorem pairsColons_append_blank (front back : List Char) (seen : Bool) :
    pairsColons seen (front ++ ' ' :: back) =
      (pairsColons seen front || pairsColons false back) := by
  induction front generalizing seen with
  | nil => rfl
  | cons c front ih =>
      rw [List.cons_append, pairsColons, pairsColons, ih, ih, ih]
      split
      · rfl
      · split
        · rw [Bool.or_assoc]
        · rfl

/-! ## The reader -/

/-- Characters as parts of a text. -/
def chars (text : List Char) : List Piece := text.map .char

theorem matchTags_chars (styles : List (List Char)) (text : List Char) (pieces : List Piece) :
    matchTags styles (chars text ++ pieces) = (matchTags styles pieces).map (text ++ ·) := by
  induction text with
  | nil => simp [chars]
  | cons c text ih =>
      show (matchTags styles (chars text ++ pieces)).map (c :: ·) = _
      rw [ih, Option.map_map]
      rfl

theorem slashes_eq (count : Nat) : slashes count = chars (List.replicate count '\\') := by
  rw [slashes, chars, List.map_replicate]

theorem unescapeBrackets_slashes (count : Nat) (text : List Char) (plain : text.head? ≠ some '[') :
    unescapeBrackets (List.replicate count '\\' ++ text) =
      List.replicate count '\\' ++ unescapeBrackets text := by
  have none : '[' ∉ List.replicate count '\\' := by simp
  rw [unescapeBrackets_append plain, unescapeBrackets_eq_self none]

/-- Of the backslashes in front of a bracket, the last is not shown. -/
theorem unescapeBrackets_slashes_bracket (count : Nat) (text : List Char) :
    unescapeBrackets (List.replicate count '\\' ++ '[' :: text) =
      List.replicate (count - 1) '\\' ++ '[' :: unescapeBrackets text := by
  have bracket : unescapeBrackets ('[' :: text) = '[' :: unescapeBrackets text :=
    unescapeBrackets_cons_of_ne (by decide) text
  induction count with
  | zero => exact bracket
  | succ count ih =>
      cases count with
      | zero => exact (if_pos ⟨rfl, rfl⟩).trans bracket
      | succ count =>
          have more : (List.replicate (count + 1) '\\' ++ '[' :: text).head? ≠ some '[' := by
            simp [List.replicate_succ]
          rw [List.replicate_succ, List.cons_append, unescapeBrackets,
            if_neg fun escaped => more escaped.2, ih]
          rfl

/-- A text without tags is read as its characters, without the backslashes in front of brackets. -/
theorem piecesAfter_untagged {text : List Char} (untagged : hasTag text = false)
    (backslashes : Nat) :
    piecesAfter 0 backslashes text =
      chars (unescapeBrackets (List.replicate backslashes '\\' ++ text)) := by
  induction text generalizing backslashes with
  | nil =>
      rw [piecesAfter, unescapeBrackets_slashes _ _ (by simp), slashes_eq, unescapeBrackets,
        List.append_nil]
  | cons c text ih =>
      rw [hasTag, Bool.or_eq_false_iff] at untagged
      obtain ⟨here, untagged⟩ := untagged
      rw [piecesAfter]
      split
      · next slash =>
          subst slash
          rw [ih untagged, List.replicate_succ', List.append_assoc]
          rfl
      · next noSlash =>
          split
          · next bracket =>
              subst bracket
              have starts : text.head?.any startsTag = false := by simpa using here
              have noTag : tagAt? text = none := if_neg (by simp [starts])
              rw [noTag, ih untagged, unescapeBrackets_slashes_bracket, slashes_eq]
              simp [chars]
          · next noBracket =>
              have apart : (c :: text).head? ≠ some '[' := by simpa using noBracket
              rw [ih untagged, unescapeBrackets_slashes _ _ apart,
                unescapeBrackets_cons_of_ne noSlash, slashes_eq]
              simp [chars]

theorem piecesAfter_skipped (name text : List Char) :
    piecesAfter name.length 0 (name ++ text) = piecesAfter 0 0 text := by
  induction name with
  | nil => rfl
  | cons c name ih => exact ih

theorem piecesAfter_tag {name : List Char} (starts : name.head?.any startsTag = true)
    (inner : ∀ c ∈ name, c ∉ ['[', ']']) (text : List Char) :
    piecesAfter 0 0 ('[' :: name ++ ']' :: text) = .tag name :: piecesAfter 0 0 text := by
  have taken : (name ++ ']' :: text).takeWhile (fun c => c != ']' && c != '[') = name := by
    rw [List.takeWhile_append_of_pos, List.takeWhile_cons_of_neg (by decide), List.append_nil]
    intro c member
    have other := inner c member
    simp only [List.mem_cons, List.not_mem_nil, or_false, not_or] at other
    simp [other.1, other.2]
  have head : (name ++ ']' :: text).head? = name.head? := by
    cases name with
    | nil => cases starts
    | cons c name => rfl
  have tag : tagAt? (name ++ ']' :: text) = some name := by
    unfold tagAt?
    simp only [taken, head, starts, List.drop_left, List.head?_cons, Bool.true_and,
      beq_self_eq_true, if_true]
  have skipped := piecesAfter_skipped (name ++ [']']) text
  rw [List.length_append, List.append_assoc] at skipped
  have open' : piecesAfter 0 0 ('[' :: (name ++ ']' :: text)) =
      .tag name :: piecesAfter (name.length + 1) 0 (name ++ ']' :: text) := by
    rw [piecesAfter, if_neg (by decide), if_pos rfl, tag]
    rfl
  exact open'.trans (congrArg (Piece.tag name :: ·) skipped)

theorem piecesAfter_title {title : List Char} (noBracket : '[' ∉ title) (noSlash : '\\' ∉ title)
    (text : List Char) :
    piecesAfter 0 0 (title ++ text) = chars title ++ piecesAfter 0 0 text := by
  induction title with
  | nil => rfl
  | cons c title ih =>
      obtain ⟨other, noBracket⟩ := not_or.mp (mt List.mem_cons.mpr noBracket)
      obtain ⟨other', noSlash⟩ := not_or.mp (mt List.mem_cons.mpr noSlash)
      rw [List.cons_append, piecesAfter, if_neg (Ne.symm other'), if_neg (Ne.symm other),
        ih noBracket noSlash]
      rfl

theorem readMarkup?_untagged {text : String} (untagged : hasTag text.toList = false) :
    readMarkup? text = some (bracketsShown text) := by
  have read := matchTags_chars [] (unescapeBrackets text.toList) []
  rw [List.append_nil] at read
  unfold readMarkup?
  rw [piecesAfter_untagged untagged]
  show (matchTags [] (chars (unescapeBrackets text.toList))).map String.ofList = _
  rw [read]
  simp [matchTags, bracketsShown]

theorem toList_styled_append (style title text : String) :
    (styled style title ++ text).toList = '[' :: style.toList ++ ']' :: (title.toList ++
      ('[' :: ('/' :: style.toList) ++ ']' :: text.toList)) := by
  unfold styled
  simp [String.toList_append]

/-- A style lasts until the tag that ends it. -/
theorem matchTags_styled {style : List Char} (letters : style.head?.any Char.isLower = true)
    (title text : List Char) :
    matchTags [] (.tag style :: (chars title ++ .tag ('/' :: style) :: chars text)) =
      some (title ++ text) := by
  rcases style with _ | ⟨c, more⟩
  · cases letters
  · have starts : ∀ pieces, matchTags [] (.tag (c :: more) :: pieces) =
        matchTags [c :: more] pieces := by
      intro pieces
      have other : c ≠ '/' := by
        rintro rfl
        cases letters
      rw [matchTags]
      · exact fun same => other (List.cons.inj same).1
      · exact fun _ same => other (List.cons.inj same).1
    have ends : ∀ pieces, matchTags [c :: more] (.tag ('/' :: c :: more) :: pieces) =
        matchTags [] pieces := by
      intro pieces
      rw [matchTags, if_pos List.mem_cons_self, List.erase_cons_head]
      rintro ⟨⟩
    have rest := matchTags_chars [] text []
    rw [List.append_nil] at rest
    rw [starts, matchTags_chars, ends, rest]
    simp [matchTags]

theorem readMarkup?_styled {style title text : String} (word : Console.IsStyle style)
    (noBracket : '[' ∉ title.toList) (noSlash : '\\' ∉ title.toList)
    (untagged : hasTag text.toList = false) :
    readMarkup? (styled style title ++ text) = some (title ++ bracketsShown text) := by
  obtain ⟨letters, all⟩ := word
  have lower := List.all_eq_true.mp all
  have inner : ∀ c ∈ style.toList, c ∉ ['[', ']'] := by
    intro c member bracket
    have small := lower c member
    simp only [List.mem_cons, List.not_mem_nil, or_false] at bracket
    rcases bracket with rfl | rfl <;> cases small
  have first : style.toList.head?.any Char.isLower = true := by
    obtain ⟨c, more, split⟩ := List.exists_cons_of_ne_nil (mt String.toList_eq_nil_iff.mp letters)
    rw [split]
    exact lower c (by rw [split]; exact List.mem_cons_self)
  have starts : style.toList.head?.any startsTag = true := by
    rw [Option.any_eq_true] at first ⊢
    obtain ⟨c, head, small⟩ := first
    exact ⟨c, head, by simp [startsTag, small]⟩
  have ends : piecesAfter 0 0 ('[' :: ('/' :: style.toList) ++ ']' :: text.toList) =
      .tag ('/' :: style.toList) :: piecesAfter 0 0 text.toList :=
    piecesAfter_tag rfl (List.forall_mem_cons.mpr ⟨by decide, inner⟩) text.toList
  have pieces : piecesAfter 0 0 (styled style title ++ text).toList =
      .tag style.toList :: (chars title.toList ++
        .tag ('/' :: style.toList) :: chars (unescapeBrackets text.toList)) := by
    rw [toList_styled_append, piecesAfter_tag starts inner, piecesAfter_title noBracket noSlash,
      ends, piecesAfter_untagged untagged]
    rfl
  unfold readMarkup?
  rw [pieces, matchTags_styled first]
  simp [bracketsShown]

/-! ## The wide console -/

theorem isSome_mapM {α β : Type} {change : α → Option β} {items : List α}
    (all : ∀ item ∈ items, (change item).isSome = true) : (items.mapM change).isSome = true := by
  induction items with
  | nil => rfl
  | cons item items ih =>
      obtain ⟨first, others⟩ := List.forall_mem_cons.mp all
      obtain ⟨value, found⟩ := Option.isSome_iff_exists.mp first
      obtain ⟨values, more⟩ := Option.isSome_iff_exists.mp (ih others)
      simp [List.mapM_cons, found, more]

theorem addWidths_ascii {text : List Char} (ascii : ∀ c ∈ text, Console.IsPrintableAscii c)
    (start : Nat) : Text.addWidths start text = start + text.length := by
  induction text generalizing start with
  | nil => rfl
  | cons c text ih =>
      obtain ⟨first, others⟩ := List.forall_mem_cons.mp ascii
      have narrow : Text.charWidth c = 1 := if_pos first
      have step : Text.addWidths start (c :: text) =
          Text.addWidths (start + Text.charWidth c) text := rfl
      rw [step, narrow, ih others, List.length_cons, Nat.add_right_comm, Nat.add_assoc]

theorem Console.wide_read? : Console.wide.read? = readMarkup? := rfl

theorem Console.wide_replaceCodes (text : String) : Console.wide.replaceCodes text = text := rfl

/-- The wide console is as documented. -/
theorem Console.wide_documented : Console.wide.Documented where
  cells_eq text ascii := by
    show Text.addWidths 0 text.toList = text.length
    rw [addWidths_ascii ascii, Nat.zero_add, String.length_toList]
  read_untagged text untagged := by
    rw [wide_read?, wide_replaceCodes]
    exact readMarkup?_untagged untagged
  read_styled style title text word noBracket noSlash untagged := by
    rw [wide_read?, wide_replaceCodes, wide_replaceCodes]
    exact readMarkup?_styled word noBracket noSlash untagged
  replaceCodes_eq _ _ := rfl
  layOut_eq _ _ := rfl
  layOutTable_isSome table readable := by
    obtain ⟨header, rows⟩ := List.forall_mem_cons.mp readable
    have shown : (table.rows.mapM (List.mapM Console.wide.read?)).isSome = true :=
      isSome_mapM fun cells member => isSome_mapM (rows cells member)
    obtain ⟨titles, readTitles⟩ := Option.isSome_iff_exists.mp (isSome_mapM header)
    obtain ⟨cells, readCells⟩ := Option.isSome_iff_exists.mp shown
    have read : table.mapCells? Console.wide.read? = some ⟨titles, cells⟩ := by
      unfold Table.mapCells?
      rw [readTitles, readCells]
      rfl
    show ((table.mapCells? Console.wide.read?).map Table.render).isSome = true
    rw [read, Option.isSome_map, Option.isSome_some]

theorem Terminal.wide_documented : Terminal.wide.Documented :=
  ⟨Console.wide_documented, Console.wide_documented⟩

end GenericSignature.CommandLine
