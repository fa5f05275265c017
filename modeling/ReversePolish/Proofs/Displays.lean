import ReversePolish.Display
import ReversePolish.Proofs.Messages
import ReversePolish.Proofs.Trimming

/-! # Displays are read back

A display shows all there is to know about a state.  Its rows are found at the line feeds, the entry
on the left of a row ends at the first blank, and the entry on the right begins behind the first
bar (`Display.Legible`).  Since the text of a cell tells what the cell is, and a name has no blank
in it, two states with the same display have the same cells and the same variables
(`Display.render_eq_iff`).
-/

namespace ReversePolish

open Unicode

theorem Text.joinWith_eq_intercalate (separator : Text) (texts : List Text) :
    joinWith separator texts = separator.intercalate texts := by
  induction texts with
  | nil => rfl
  | cons text rest ih =>
      cases rest with
      | nil => simp [joinWith]
      | cons next rest => rw [joinWith, ih, List.intercalate_cons_cons]; simp

namespace Display

def rowsOf (display : Text) : List Text := display.splitOn '\n'

/-- What stands in front of the first blank of a row. -/
def leftOf (row : Text) : Text := row.takeWhile fun c => !isBlank c

/-- What stands behind the first bar that has a space behind it; nothing if there is none. -/
def rightOf : Text → Text
  | [] => []
  | c :: rest => if c = '|' ∧ rest.head? = some ' ' then rest.tail else rightOf rest

/-- What stands on a side in the given place: the entry there is, or nothing, but for the note in
    the first place of a side that has no entries at all. -/
def entryAt (entries : List Text) (place : Nat) : Text :=
  entries[place]?.getD (if place = 0 then "(empty)".toList else [])

/-- An assignment as the display shows it. -/
def assignmentText (entry : Text × Double) : Text := entry.1 ++ " = ".toList ++ entry.2.text

/-- An entry that may stand on the left: it has neither blanks nor bars. -/
def FitsLeft (left : Text) : Prop := ∀ c ∈ left, isBlank c = false ∧ c ≠ '|'

instance (left : Text) : Decidable (FitsLeft left) :=
  inferInstanceAs (Decidable (∀ c ∈ left, isBlank c = false ∧ c ≠ '|'))

/-- An entry that may stand on the right: its only blanks are spaces, and none is at its end. -/
structure FitsRight (right : Text) : Prop where
  oneLine : right.OnOneLine
  ends : ∀ c ∈ right.getLast?, isBlank c = false

theorem FitsRight.of_noBlank {right : Text} (noBlank : ∀ c ∈ right, isBlank c = false) :
    FitsRight right :=
  ⟨fun c member => .inr (noBlank c member), fun c last => noBlank c (List.mem_of_getLast? last)⟩

/-- A row is the left entry, spaces, the bar, and the right entry behind a space if there is one. -/
theorem rowText_eq (width : Int) (left : Text) {right : Text} (fits : FitsRight right) :
    rowText width (left, right) =
      left ++ ' ' :: (List.replicate (width.natAbs - left.length) ' ' ++
        '|' :: if right = [] then [] else ' ' :: right) := by
  have filled : Text.padRight width.natAbs left ++ " | ".toList =
      left ++ ' ' :: List.replicate (width.natAbs - left.length) ' ' ++ ['|', ' '] := by
    have spaces : " | ".toList = [' ', '|', ' '] := rfl
    rw [Text.padRight, spaces, ← List.replicate_succ, List.replicate_succ']
    simp only [List.append_assoc, List.singleton_append]
  rw [rowText, filled]
  cases right with
  | nil =>
      -- Behind the bar there is one space, which is all that is cut off.
      have bar := List.append_cons
        (left ++ ' ' :: List.replicate (width.natAbs - left.length) ' ') '|' [' ']
      rw [List.append_nil, bar, Text.trimRight_append (by decide),
        Text.trimRight_eq_self_of_getLast?]
      · simp
      · intro c last
        rw [List.getLast?_concat] at last
        cases last
        decide
  | cons first rest =>
      rw [Text.trimRight_eq_self_of_getLast?]
      · simp
      · rw [List.getLast?_append_cons]
        exact fits.ends

/-- Bars are looked for behind a text that has none. -/
theorem rightOf_append {front : Text} (noBar : '|' ∉ front) (rest : Text) :
    rightOf (front ++ rest) = rightOf rest := by
  induction front with
  | nil => rfl
  | cons c front ih =>
      rw [List.mem_cons, not_or] at noBar
      have other : ¬ (c = '|' ∧ (front ++ rest).head? = some ' ') :=
        fun bar => noBar.1 bar.1.symm
      rw [List.cons_append, rightOf, if_neg other, ih noBar.2]

theorem leftOf_append {front : Text} (noBlank : ∀ c ∈ front, isBlank c = false) (rest : Text) :
    leftOf (front ++ ' ' :: rest) = front := by
  have inside : ∀ c ∈ front, (!isBlank c) = true := fun c member => by simp [noBlank c member]
  rw [leftOf, List.takeWhile_append_of_pos inside, List.takeWhile_cons_of_neg (by decide),
    List.append_nil]

section Rows

variable {width : Int} {left right : Text} (fitsLeft : FitsLeft left) (fitsRight : FitsRight right)

include fitsLeft fitsRight

theorem leftOf_rowText : leftOf (rowText width (left, right)) = left := by
  rw [rowText_eq width left fitsRight]
  exact leftOf_append (fun c member => (fitsLeft c member).1) _

theorem rightOf_rowText : rightOf (rowText width (left, right)) = right := by
  have noBar : '|' ∉ left ++ ' ' :: List.replicate (width.natAbs - left.length) ' ' := by
    intro member
    rcases List.mem_append.mp member with inLeft | spaces
    · exact (fitsLeft '|' inLeft).2 rfl
    · rw [← List.replicate_succ] at spaces
      exact absurd (List.eq_of_mem_replicate spaces) (by decide)
  rw [rowText_eq width left fitsRight, ← List.cons_append, ← List.append_assoc,
    rightOf_append noBar]
  cases right <;> rfl

theorem lineFeed_not_mem_rowText : '\n' ∉ rowText width (left, right) := by
  rw [rowText_eq width left fitsRight]
  simp only [List.mem_append, List.mem_cons, List.mem_replicate, not_or]
  refine ⟨fun inLeft => ?_, by decide, fun space => absurd space.2 (by decide), by decide, ?_⟩
  · have noBlank := (fitsLeft '\n' inLeft).1
    revert noBlank
    decide
  · split
    · exact List.not_mem_nil
    · rw [List.mem_cons, not_or]
      exact ⟨by decide, fitsRight.oneLine.no_lineFeed⟩

end Rows

section Columns

variable {lefts rights entries : List Text} {place : Nat}

theorem length_orEmpty (entries : List Text) : (orEmpty entries).length = max 1 entries.length := by
  cases entries with
  | nil => rfl
  | cons entry rest => simp [orEmpty]

theorem getD_orEmpty (entries : List Text) (place : Nat) :
    (orEmpty entries)[place]?.getD [] = entryAt entries place := by
  cases entries with
  | nil => cases place <;> rfl
  | cons entry rest =>
      rw [orEmpty, if_neg (List.cons_ne_nil _ _), entryAt]
      cases place with
      | zero => rfl
      | succ place => rw [if_neg (Nat.succ_ne_zero place)]

theorem length_pairRows (lefts rights : List Text) :
    (pairRows lefts rights).length = max lefts.length rights.length := by
  fun_induction pairRows lefts rights with
  | case1 rights => simp
  | case2 lefts nonempty => simp
  | case3 left lefts right rights ih =>
      simp only [List.length_cons, ih]
      omega

/-- In each row stands what the columns have there, and nothing for one that is at its end. -/
theorem eq_of_getElem?_pairRows {row : Text × Text}
    (found : (pairRows lefts rights)[place]? = some row) :
    row = (lefts[place]?.getD [], rights[place]?.getD []) := by
  fun_induction pairRows lefts rights generalizing place with
  | case1 rights =>
      obtain ⟨right, atRight, rfl⟩ := by simpa using found
      simp [atRight]
  | case2 lefts nonempty =>
      obtain ⟨left, atLeft, rfl⟩ := by simpa using found
      simp [atLeft]
  | case3 left lefts right rights ih =>
      cases place with
      | zero => exact (Option.some.inj found).symm
      | succ place => simpa using ih (by simpa using found)

theorem forall_mem_orEmpty {p : Text → Prop} (note : p "(empty)".toList)
    (all : ∀ entry ∈ entries, p entry) : ∀ entry ∈ orEmpty entries, p entry := by
  rw [orEmpty]
  split
  · exact List.forall_mem_singleton.mpr note
  · exact all

theorem forall_mem_pairRows {p q : Text → Prop} (noLeft : p []) (noRight : q [])
    (allLeft : ∀ left ∈ lefts, p left) (allRight : ∀ right ∈ rights, q right) :
    ∀ row ∈ pairRows lefts rights, p row.1 ∧ q row.2 := by
  fun_induction pairRows lefts rights with
  | case1 rights =>
      intro row member
      obtain ⟨right, known, rfl⟩ := List.mem_map.mp member
      exact ⟨noLeft, allRight right known⟩
  | case2 lefts nonempty =>
      intro row member
      obtain ⟨left, known, rfl⟩ := List.mem_map.mp member
      exact ⟨allLeft left known, noRight⟩
  | case3 left lefts right rights ih =>
      obtain ⟨first, otherLefts⟩ := List.forall_mem_cons.mp allLeft
      obtain ⟨second, otherRights⟩ := List.forall_mem_cons.mp allRight
      exact List.forall_mem_cons.mpr ⟨⟨first, second⟩, ih otherLefts otherRights⟩

end Columns

theorem bar_not_mem_of_isNumber {word : Text} (number : NumberWord.isNumber word = true) :
    '|' ∉ word := by
  intro member
  have mark := NumberWord.isNumberChar_of_isNumber number member
  revert mark
  unfold NumberWord.IsNumberChar
  decide

theorem bar_not_mem_of_identifier {word : Text} (identifier : classify word = .identifier) :
    '|' ∉ word := by
  intro member
  have letter := (alphanumeric_of_identifier identifier).2 '|' member
  revert letter
  decide +kernel

section WellNamed

variable {state : State} (wellNamed : state.WellNamed)

include wellNamed

theorem fitsLeft_text {cell : Cell} (stacked : cell ∈ state.stack) : FitsLeft cell.text := by
  have isWord := wellNamed.isWord_text stacked
  have noBar : '|' ∉ cell.text := by
    rcases wellNamed.classify_text stacked with number | identifier
    · exact bar_not_mem_of_isNumber (classify_eq_number_iff.mp number)
    · exact bar_not_mem_of_identifier identifier
  intro c member
  exact ⟨isWord.2 c member, fun bar => noBar (bar ▸ member)⟩

theorem fitsRight_assignmentText {entry : Text × Double} (known : entry ∈ state.bindings.sorted) :
    FitsRight (assignmentText entry) := by
  have name := isWord_of_identifier (State.classify_of_mem_sorted wellNamed entry known)
  have value := isWord_of_isNumber entry.2.isNumber_text
  constructor
  · rw [assignmentText, Text.OnOneLine.append_iff, Text.OnOneLine.append_iff]
    exact ⟨⟨.of_isWord name, by decide⟩, .of_isWord value⟩
  · intro c last
    rw [assignmentText, List.getLast?_append_of_ne_nil _ value.1] at last
    exact value.2 c (List.mem_of_getLast? last)

theorem fits_of_mem_rows (width : Int) :
    ∀ row ∈ rows state width, FitsLeft row.1 ∧ FitsRight row.2 := by
  have dash : ∀ c ∈ List.replicate width.toNat '-', c = '-' := fun _ => List.eq_of_mem_replicate
  have lefts : ∀ left ∈ stackColumn state.stack, FitsLeft left := by
    refine forall_mem_orEmpty (by decide) fun left member => ?_
    obtain ⟨cell, stacked, rfl⟩ := List.mem_map.mp member
    exact fitsLeft_text wellNamed stacked
  have rights : ∀ right ∈ variableColumn state.bindings, FitsRight right := by
    refine forall_mem_orEmpty (.of_noBlank (by decide)) fun right member => ?_
    obtain ⟨entry, known, rfl⟩ := List.mem_map.mp member
    exact fitsRight_assignmentText wellNamed known
  intro row member
  rcases List.mem_cons.mp member with rfl | member
  · exact ⟨by decide, .of_noBlank (by decide)⟩
  · rcases List.mem_cons.mp member with rfl | paired
    · constructor
      · intro c inRule
        rw [dash c inRule]
        decide
      · refine .of_noBlank fun c inRule => ?_
        rw [dash c inRule]
        decide
    · exact forall_mem_pairRows (by decide) (.of_noBlank (by decide)) lefts rights
        row paired

/-- The rows of the display are found at its line feeds. -/
theorem rowsOf_render (width : Int) :
    rowsOf (render state width) = (rows state width).map (rowText width) := by
  rw [rowsOf, render, Text.joinWith_eq_intercalate]
  refine List.splitOn_intercalate '\n' (fun text member => ?_) (by simp [rows])
  obtain ⟨row, among, rfl⟩ := List.mem_map.mp member
  obtain ⟨fitsLeft, fitsRight⟩ := fits_of_mem_rows wellNamed width row among
  exact lineFeed_not_mem_rowText fitsLeft fitsRight

end WellNamed

theorem length_rows (state : State) (width : Int) :
    (rows state width).length = 2 + max 1 (max state.stack.length state.bindings.size) := by
  simp only [rows, List.length_cons, length_pairRows, stackColumn, variableColumn, length_orEmpty,
    List.length_map, NameTable.length_sorted]
  omega

/-- The rows behind the header and the rule pair the cells with the variables. -/
theorem eq_of_getElem?_rows {state : State} {width : Int} {place : Nat} {row : Text × Text}
    (found : (rows state width)[place + 2]? = some row) :
    row = (entryAt (state.stack.map Cell.text) place,
      entryAt (state.bindings.sorted.map assignmentText) place) := by
  have paired := eq_of_getElem?_pairRows found
  rwa [stackColumn, variableColumn, getD_orEmpty, getD_orEmpty] at paired

/-- The display of the state can be read, row by row. -/
structure Legible (state : State) (width : Int) : Prop where
  length : (rowsOf (render state width)).length =
    2 + max 1 (max state.stack.length state.bindings.size)
  trimmed : ∀ row ∈ rowsOf (render state width), ∀ c ∈ row.getLast?, isBlank c = false
  /-- In front of the first blank of a row stands the cell in its place, from the top down. -/
  cells : ∀ place row, (rowsOf (render state width))[place + 2]? = some row →
    leftOf row = entryAt (state.stack.map Cell.text) place
  /-- Behind the first bar of a row stands the variable in its place, by name. -/
  assignments : ∀ place row, (rowsOf (render state width))[place + 2]? = some row →
    rightOf row = entryAt (state.bindings.sorted.map assignmentText) place
  ascending : state.bindings.sorted.Pairwise NameTable.Before
  complete : state.bindings.sorted.Perm state.bindings.entries

theorem legible_of_wellNamed {state : State} (wellNamed : state.WellNamed) (width : Int) :
    Legible state width := by
  have split := rowsOf_render wellNamed width
  have read : ∀ place text, (rowsOf (render state width))[place + 2]? = some text →
      leftOf text = entryAt (state.stack.map Cell.text) place ∧
        rightOf text = entryAt (state.bindings.sorted.map assignmentText) place := by
    intro place text found
    rw [split, List.getElem?_map, Option.map_eq_some_iff] at found
    obtain ⟨row, atPlace, rfl⟩ := found
    obtain ⟨fitsLeft, fitsRight⟩ :=
      fits_of_mem_rows wellNamed width row (List.mem_of_getElem? atPlace)
    rw [leftOf_rowText fitsLeft fitsRight, rightOf_rowText fitsLeft fitsRight,
      eq_of_getElem?_rows atPlace]
    exact ⟨rfl, rfl⟩
  constructor
  · rw [split, List.length_map, length_rows]
  · rw [split]
    intro text member
    obtain ⟨row, -, rfl⟩ := List.mem_map.mp member
    exact Text.getLast?_trimRight
  · exact fun place text found => (read place text found).1
  · exact fun place text found => (read place text found).2
  · exact state.bindings.sorted_pairwise
  · exact state.bindings.sorted_perm

theorem entryAt_of_length_le {entries : List Text} {place : Nat} (beyond : entries.length ≤ place)
    (notFirst : place ≠ 0) : entryAt entries place = [] := by
  rw [entryAt, List.getElem?_eq_none beyond, if_neg notFirst, Option.getD_none]

/-- Sides that show the same in every place have the same entries, if what is shown of an entry
    tells which one it is and is not what stands where no entry is. -/
theorem eq_of_entryAt {α : Type} (shown : α → Text) {first second : List α}
    (told : ∀ x ∈ first, ∀ y ∈ second, shown x = shown y → x = y)
    (marked : ∀ x, x ∈ first ∨ x ∈ second → shown x ≠ [] ∧ shown x ≠ "(empty)".toList)
    (same : ∀ place, entryAt (first.map shown) place = entryAt (second.map shown) place) :
    first = second := by
  have unlike : ∀ (place : Nat) (x : α), x ∈ first ∨ x ∈ second →
      shown x ≠ if place = 0 then "(empty)".toList else [] := by
    intro place x member
    split
    · exact (marked x member).2
    · exact (marked x member).1
  apply List.ext_getElem?
  intro place
  have here := same place
  simp only [entryAt, List.getElem?_map] at here
  cases atFirst : first[place]? with
  | none =>
      cases atSecond : second[place]? with
      | none => rfl
      | some y =>
          rw [atFirst, atSecond] at here
          exact absurd here.symm (unlike place y (.inr (List.mem_of_getElem? atSecond)))
  | some x =>
      have inFirst := List.mem_of_getElem? atFirst
      cases atSecond : second[place]? with
      | none =>
          rw [atFirst, atSecond] at here
          exact absurd here (unlike place x (.inl inFirst))
      | some y =>
          rw [atFirst, atSecond] at here
          rw [told x inFirst y (List.mem_of_getElem? atSecond) here]

section Told

variable {state other : State} (wellNamed : state.WellNamed) (otherWellNamed : other.WellNamed)

include wellNamed

/-- The text of a cell is not what stands where no cell is. -/
theorem text_marked {cell : Cell} (stacked : cell ∈ state.stack) :
    cell.text ≠ [] ∧ cell.text ≠ "(empty)".toList := by
  have apart : ∀ text : Text, classify text = .invalid → cell.text ≠ text := by
    intro text invalid same
    rw [← same] at invalid
    rcases wellNamed.classify_text stacked with number | identifier
    · rw [number] at invalid
      cases invalid
    · rw [identifier] at invalid
      cases invalid
  exact ⟨apart _ (by decide +kernel), apart _ (by decide +kernel)⟩

theorem noBlank_of_mem_sorted {entry : Text × Double} (known : entry ∈ state.bindings.sorted) :
    ∀ c ∈ entry.1, isBlank c = false :=
  (isWord_of_identifier (State.classify_of_mem_sorted wellNamed entry known)).2

omit wellNamed in
theorem assignmentText_marked (entry : Text × Double) :
    assignmentText entry ≠ [] ∧ assignmentText entry ≠ "(empty)".toList := by
  have space : ' ' ∈ assignmentText entry := by simp [assignmentText]
  constructor
  · intro empty
    rw [empty] at space
    cases space
  · intro noted
    rw [noted] at space
    exact absurd space (by decide)

include otherWellNamed

/-- The text of a cell tells the cell: a number is no name, and each is read from its text. -/
theorem eq_of_text_eq {cell second : Cell} (stacked : cell ∈ state.stack)
    (otherStacked : second ∈ other.stack) (same : cell.text = second.text) : cell = second := by
  -- What a cell holds is a number if its text is one, since no name is.
  have apart : ∀ (value : Double) (name : Text), classify name = .identifier →
      value.text ≠ name := by
    intro value name identifier equal
    rw [← equal, classify_eq_number_iff.mpr value.isNumber_text] at identifier
    cases identifier
  cases cell with
  | number value =>
      cases second with
      | number otherValue => exact congrArg Cell.number (Double.text_injective same)
      | named name =>
          exact absurd same (apart value name (otherWellNamed.cells name otherStacked))
  | named name =>
      cases second with
      | number value =>
          exact absurd same.symm (apart value name (wellNamed.cells name stacked))
      | named otherName => exact congrArg Cell.named same

/-- The text of an assignment tells the assignment, since the name ends at the first blank. -/
theorem eq_of_assignmentText_eq {entry second : Text × Double}
    (known : entry ∈ state.bindings.sorted) (otherKnown : second ∈ other.bindings.sorted)
    (same : assignmentText entry = assignmentText second) : entry = second := by
  have spaced : ∀ entry : Text × Double,
      assignmentText entry = entry.1 ++ ' ' :: ("= ".toList ++ entry.2.text) := by
    intro entry
    rw [assignmentText, List.append_assoc]
    rfl
  have name : entry.1 = second.1 := by
    have first := congrArg leftOf same
    rwa [spaced, spaced, leftOf_append (noBlank_of_mem_sorted wellNamed known),
      leftOf_append (noBlank_of_mem_sorted otherWellNamed otherKnown)] at first
  have value : entry.2 = second.2 := by
    rw [assignmentText, assignmentText, name] at same
    exact Double.text_injective (List.append_cancel_left same)
  exact Prod.ext name value

/-- Where the displays are the same, so are the entries on either side of each row. -/
theorem entryAt_eq_of_render_eq {width : Int} (same : render state width = render other width)
    (place : Nat) :
    entryAt (state.stack.map Cell.text) place = entryAt (other.stack.map Cell.text) place ∧
      entryAt (state.bindings.sorted.map assignmentText) place =
        entryAt (other.bindings.sorted.map assignmentText) place := by
  have legible := legible_of_wellNamed wellNamed width
  have otherLegible := legible_of_wellNamed otherWellNamed width
  cases found : (rowsOf (render state width))[place + 2]? with
  | some row =>
      have otherFound := same ▸ found
      rw [← legible.cells place row found, ← legible.assignments place row found,
        ← otherLegible.cells place row otherFound, ← otherLegible.assignments place row otherFound]
      exact ⟨rfl, rfl⟩
  | none =>
      -- Behind the last row both states are at their ends.
      have beyond := List.getElem?_eq_none_iff.mp found
      have otherBeyond := same ▸ beyond
      rw [legible.length] at beyond
      rw [otherLegible.length] at otherBeyond
      have nothing : ∀ entries : List Text, entries.length ≤ place → entryAt entries place = [] :=
        fun entries shorter => entryAt_of_length_le shorter (by omega)
      constructor
      · rw [nothing _ (by rw [List.length_map]; omega), nothing _ (by rw [List.length_map]; omega)]
      · rw [nothing _ (by rw [List.length_map, NameTable.length_sorted]; omega),
          nothing _ (by rw [List.length_map, NameTable.length_sorted]; omega)]

/-- The same display is shown of states with the same cells and the same variables, and of no
    others. -/
theorem render_eq_iff (width : Int) :
    render state width = render other width ↔
      state.stack = other.stack ∧ ∀ name, state.bindings.get? name = other.bindings.get? name := by
  constructor
  · intro same
    have shown := entryAt_eq_of_render_eq wellNamed otherWellNamed same
    constructor
    · refine eq_of_entryAt Cell.text
        (fun cell stacked second otherStacked =>
          eq_of_text_eq wellNamed otherWellNamed stacked otherStacked) ?_
        fun place => (shown place).1
      intro cell member
      exact member.elim (text_marked wellNamed) (text_marked otherWellNamed)
    · refine NameTable.sorted_eq_iff.mp (eq_of_entryAt assignmentText
        (fun entry known second otherKnown =>
          eq_of_assignmentText_eq wellNamed otherWellNamed known otherKnown) ?_
        fun place => (shown place).2)
      exact fun entry _ => assignmentText_marked entry
  · intro ⟨cells, assignments⟩
    rw [render, render, rows, rows, variableColumn, variableColumn, cells,
      NameTable.sorted_eq_iff.mpr assignments]

end Told

/-- What is shown of the states that lines lead to is legible, and tells these states apart by their
    cells and variables, at every width. -/
theorem render_readBack (width : Int) (earlier others : List (Machine × Text)) :
    let state := State.initial.afterLines earlier
    let other := State.initial.afterLines others
    Legible state width ∧
      (render state width = render other width ↔
        state.stack = other.stack ∧
          ∀ name, state.bindings.get? name = other.bindings.get? name) := by
  have wellNamed := State.wellNamed_afterLines earlier State.wellNamed_initial
  have otherWellNamed := State.wellNamed_afterLines others State.wellNamed_initial
  exact ⟨legible_of_wellNamed wellNamed width, render_eq_iff wellNamed otherWellNamed width⟩

/-- A negative width fills the left side up as the positive one does, but leaves no rule. -/
example : rowsOf (render .initial (-3)) =
    ["stack | variables".toList, "    |".toList, "(empty) | (empty)".toList] := by
  decide +kernel

end Display

end ReversePolish
