import ReversePolish.Proofs.Classification
import ReversePolish.Proofs.Composition
import ReversePolish.Proofs.Double.ReadBack
import ReversePolish.Proofs.Effects
import ReversePolish.Proofs.NameTables

/-! # A session as a line

A state can be written as one line that builds it again (`State.dump`): an assignment for each
variable and then the cells from the bottom up.  That the line is read as it was written needs
two facts.  The numeral of a double is one number word that is read as the same double.  And
every name in a state is one word that is read as an identifier; this holds of the states that
lines lead to, since a name can only enter a state as such a word (`State.WellNamed`).
-/

namespace ReversePolish

namespace State

/-- All names in the state, of cells and of variables, are identifiers. -/
structure WellNamed (state : State) : Prop where
  cells : ∀ name, Cell.named name ∈ state.stack → classify name = .identifier
  bindings : ∀ entry ∈ state.bindings.entries, classify entry.1 = .identifier

theorem wellNamed_initial : initial.WellNamed :=
  ⟨fun _ member => (List.not_mem_nil member).elim, fun _ member => (List.not_mem_nil member).elim⟩

section Preservation

variable {state : State} (wellNamed : state.WellNamed)

include wellNamed

/-- A state stays well-named if its stack is replaced by one without new names. -/
theorem WellNamed.of_stack {stack : Stack}
    (old : ∀ name, Cell.named name ∈ stack → Cell.named name ∈ state.stack) :
    WellNamed { state with stack := stack } :=
  ⟨fun name member => wellNamed.cells name (old name member), wellNamed.bindings⟩

theorem WellNamed.set {name : Text} (identifier : classify name = .identifier) (value : Double)
    {stack : Stack} (old : ∀ name, Cell.named name ∈ stack → Cell.named name ∈ state.stack) :
    WellNamed ⟨stack, state.bindings.set name value⟩ := by
  refine ⟨fun name member => wellNamed.cells name (old name member), fun entry member => ?_⟩
  have among : entry.1 ∈ (NameTable.enter name value state.bindings.entries).map Prod.fst :=
    List.mem_map_of_mem member
  rcases NameTable.mem_names_enter.mp among with same | earlier
  · rw [same]
    exact identifier
  · obtain ⟨before, known, same⟩ := List.mem_map.mp earlier
    rw [← same]
    exact wellNamed.bindings before known

theorem wellNamed_operate (symbol : Text) (combine : Combination) :
    (state.operate symbol combine).state.WellNamed := by
  unfold operate
  split
  · rename_i right left rest stack
    split
    · exact wellNamed.of_stack (by grind)
    · exact wellNamed
    · exact wellNamed
  · exact wellNamed

theorem wellNamed_foldAll (fold : Fold) : (state.foldAll fold).state.WellNamed := by
  unfold foldAll
  split
  · exact wellNamed.of_stack (by simp)
  · exact wellNamed

theorem wellNamed_assignTop : state.assignTop.state.WellNamed := by
  unfold assignTop
  split
  · exact wellNamed
  · rename_i target value rest stack
    split
    · exact wellNamed.set (wellNamed.cells target (by simp [stack])) _ (by grind)
    · exact wellNamed
  · exact wellNamed

theorem wellNamed_act (keyword : Keyword) : (state.act keyword).state.WellNamed := by
  unfold act
  split
  · exact wellNamed.of_stack (by simp)
  · exact wellNamed_initial
  · exact wellNamed
  · exact wellNamed.of_stack (by grind)
  · exact wellNamed.of_stack (by grind)
  · exact wellNamed.of_stack (by grind)
  · exact wellNamed.of_stack (by grind)
  · exact wellNamed
  · exact wellNamed

/-- No word makes a state ill-named. -/
theorem wellNamed_effect (vocabulary : Vocabulary) (word : Text) :
    ((Token.ofWord word).effect vocabulary state).state.WellNamed := by
  rw [Token.effect_eq_direct]
  unfold Token.directEffect
  split
  · split
    · exact wellNamed.of_stack (by simp)
    · exact wellNamed
  · -- The one place where a name enters a state: it is the word itself.
    rename_i identifier
    refine ⟨fun name member => ?_, wellNamed.bindings⟩
    rcases List.mem_cons.mp member with same | below
    · cases same
      exact identifier
    · exact wellNamed.cells name below
  · exact wellNamed_assignTop wellNamed
  · split
    · exact wellNamed_operate wellNamed _ _
    · exact wellNamed
  · split
    · exact wellNamed_act wellNamed _
    · exact wellNamed
  · split
    · exact wellNamed_foldAll wellNamed _
    · exact wellNamed
  · exact wellNamed

end Preservation

end State

theorem Run.wellNamed_ofTokens (vocabulary : Vocabulary) (words : List Text) {state : State}
    (wellNamed : state.WellNamed) :
    (ofTokens vocabulary (Token.ofWords words) state).state.WellNamed := by
  induction words generalizing state with
  | nil => exact wellNamed
  | cons word words ih =>
      have stepped := State.wellNamed_effect wellNamed vocabulary word
      rw [Token.ofWords, List.map_cons, ← Token.ofWords]
      by_cases completed : ((Token.ofWord word).effect vocabulary state).ending = .completed
      · rw [ofTokens_cons_of_completed completed]
        exact ih stepped
      · rw [ofTokens_cons_of_stopped completed]
        exact stepped

theorem Run.wellNamed_ofLine (vocabulary : Vocabulary) (line : Text) {state : State}
    (wellNamed : state.WellNamed) : (ofLine vocabulary line state).state.WellNamed := by
  rw [ofLine_eq]
  exact wellNamed_ofTokens vocabulary _ wellNamed

namespace State

/-- The state that lines lead to one after the other, whatever way each of them ends.  Each
    line comes with the machine that processes it. -/
def afterLines (state : State) (lines : List (Machine × Text)) : State :=
  lines.foldl (fun state line => (line.1.processLine line.2 state).2.state) state

theorem wellNamed_afterLines (lines : List (Machine × Text)) {state : State}
    (wellNamed : state.WellNamed) : (state.afterLines lines).WellNamed := by
  induction lines generalizing state with
  | nil => exact wellNamed
  | cons line lines ih => exact ih (Run.wellNamed_ofLine line.1.vocabulary line.2 wellNamed)

/-- The words that assign a value to a variable. -/
def assignmentWords (entry : Text × Double) : List Text := [entry.2.text, entry.1, ['=']]

/-- The words that build the state: an assignment for each variable, by name, and then
    the cells from the bottom up. -/
def dumpWords (state : State) : List Text :=
  state.bindings.sorted.flatMap assignmentWords ++ state.stack.bottomUp.map Cell.text

/-- The line that builds the state. -/
def dump (state : State) : Text := Text.joinWith [' '] state.dumpWords

theorem classify_of_mem_sorted {state : State} (wellNamed : state.WellNamed) :
    ∀ entry ∈ state.bindings.sorted, classify entry.1 = .identifier :=
  fun entry member => wellNamed.bindings entry (state.bindings.sorted_perm.mem_iff.mp member)

theorem isWord_of_mem_dumpWords {state : State} (wellNamed : state.WellNamed) {word : Text}
    (member : word ∈ state.dumpWords) : Words.IsWord word := by
  have numeral : ∀ value : Double, Words.IsWord value.text := fun value =>
    isWord_of_isNumber value.isNumber_text
  rcases List.mem_append.mp member with assigning | stacked
  · obtain ⟨entry, known, here⟩ := List.mem_flatMap.mp assigning
    have named := isWord_of_identifier (classify_of_mem_sorted wellNamed entry known)
    simp only [assignmentWords, List.mem_cons, List.not_mem_nil, or_false] at here
    rcases here with rfl | rfl | rfl
    · exact numeral entry.2
    · exact named
    · exact ⟨by decide, by decide⟩
  · obtain ⟨cell, known, rfl⟩ := List.mem_map.mp stacked
    cases cell with
    | number value => exact numeral value
    | named name => exact isWord_of_identifier (wellNamed.cells name (List.mem_reverse.mp known))

end State

namespace Token

variable (vocabulary : Vocabulary) (state : State)

/-- The word is read as a number, and the number has a double. -/
def IsNumeral (word : Text) : Prop :=
  classify word = .number ∧ ∃ value, Double.ofText word = .ok value

theorem effect_number {word : Text} {value : Double} (number : classify word = .number)
    (reads : Double.ofText word = .ok value) :
    (ofWord word).effect vocabulary state = .done (state.push (.number value)) := by
  simp only [effect_eq_direct, directEffect, ofWord, number, reads]

/-- The numeral of a double puts it back on the stack. -/
theorem effect_text (value : Double) :
    (ofWord value.text).effect vocabulary state = .done (state.push (.number value)) := by
  have reads : Double.ofText value.text = .ok value := by
    simp only [Double.ofText, Double.ofText?_text]
  exact effect_number vocabulary state (classify_eq_number_iff.mpr value.isNumber_text) reads

theorem effect_identifier {name : Text} (identifier : classify name = .identifier) :
    (ofWord name).effect vocabulary state = .done (state.push (.named name)) := by
  simp only [effect_eq_direct, directEffect, ofWord, identifier]

theorem effect_assignment (name : Text) (value : Double) :
    (ofWord ['=']).effect vocabulary ((state.push (.number value)).push (.named name)) =
      .done { state with bindings := state.bindings.set name value } := by
  have assignment : classify ['='] = .assignment := by decide
  simp only [effect_eq_direct, directEffect, ofWord, assignment]
  rfl

end Token

namespace Run

/-- The tokens lead from one state to another: all are carried out, and nothing is printed. -/
def Leads (vocabulary : Vocabulary) (tokens : List Token) (before after : State) : Prop :=
  ofTokens vocabulary tokens before = ⟨after, [], tokens, .completed⟩

section Leads

variable {vocabulary : Vocabulary} {before between after : State}

theorem Leads.cons {token : Token} {tokens : List Token}
    (first : token.effect vocabulary before = .done between)
    (later : Leads vocabulary tokens between after) :
    Leads vocabulary (token :: tokens) before after := by
  have completed : (token.effect vocabulary before).ending = .completed := by
    rw [first]
    rfl
  rw [Leads, ofTokens_cons_of_completed completed, first, Effect.done, later]
  rfl

theorem Leads.append {front back : List Token} (first : Leads vocabulary front before between)
    (later : Leads vocabulary back between after) :
    Leads vocabulary (front ++ back) before after := by
  have completed : (ofTokens vocabulary front before).ending = .completed := by rw [first]
  rw [Leads, ofTokens_append_of_completed completed, first, later]
  rfl

/-- Assignments enter their values one after the other. -/
theorem leads_assignments {entries : List (Text × Double)}
    (identifiers : ∀ entry ∈ entries, classify entry.1 = .identifier) (state : State) :
    Leads vocabulary (Token.ofWords (entries.flatMap State.assignmentWords)) state
      ⟨state.stack,
        entries.foldl (fun table entry => table.set entry.1 entry.2) state.bindings⟩ := by
  induction entries generalizing state with
  | nil => rfl
  | cons entry entries ih =>
      obtain ⟨identifier, later⟩ := List.forall_mem_cons.mp identifiers
      exact .cons (Token.effect_text vocabulary state entry.2)
        (.cons (Token.effect_identifier vocabulary _ identifier)
          (.cons (Token.effect_assignment vocabulary state entry.1 entry.2) (ih later _)))

/-- Cells are put on the stack one after the other. -/
theorem leads_cells {cells : List Cell}
    (identifiers : ∀ name, Cell.named name ∈ cells → classify name = .identifier)
    (state : State) :
    Leads vocabulary (Token.ofWords (cells.map Cell.text)) state
      { state with stack := cells.reverse ++ state.stack } := by
  induction cells generalizing state with
  | nil => rfl
  | cons cell cells ih =>
      have pushed : (Token.ofWord cell.text).effect vocabulary state = .done (state.push cell) := by
        cases cell with
        | number value => exact Token.effect_text vocabulary state value
        | named name => exact Token.effect_identifier vocabulary state (identifiers name (by simp))
      have later := ih (fun name member => identifiers name (List.mem_cons_of_mem _ member))
        (state.push cell)
      rw [List.reverse_cons, List.append_assoc]
      exact .cons pushed later

end Leads

/-- The line of a well-named state builds it, with the variables in the order of their names. -/
theorem ofLine_dump (vocabulary : Vocabulary) {state : State} (wellNamed : state.WellNamed) :
    ofLine vocabulary state.dump State.initial =
      ⟨⟨state.stack, NameTable.ofList state.bindings.sorted⟩, [],
        Token.ofWords state.dumpWords, .completed⟩ := by
  have assigned : Leads vocabulary (Token.ofWords (state.bindings.sorted.flatMap
      State.assignmentWords)) State.initial ⟨[], NameTable.ofList state.bindings.sorted⟩ :=
    leads_assignments (State.classify_of_mem_sorted wellNamed) State.initial
  have stacked : Leads vocabulary (Token.ofWords (state.stack.bottomUp.map Cell.text))
      ⟨[], NameTable.ofList state.bindings.sorted⟩
      ⟨state.stack, NameTable.ofList state.bindings.sorted⟩ := by
    have cells : Leads vocabulary (Token.ofWords (state.stack.bottomUp.map Cell.text))
        ⟨[], NameTable.ofList state.bindings.sorted⟩
        ⟨state.stack.bottomUp.reverse ++ [], NameTable.ofList state.bindings.sorted⟩ :=
      leads_cells (fun name member => wellNamed.cells name (List.mem_reverse.mp member))
        ⟨[], NameTable.ofList state.bindings.sorted⟩
    rwa [Stack.bottomUp, List.reverse_reverse, List.append_nil, ← Stack.bottomUp] at cells
  have words : Words.split state.dump = state.dumpWords :=
    Words.split_joinWith fun word => State.isWord_of_mem_dumpWords wellNamed
  have whole := assigned.append stacked
  rw [Token.ofWords, Token.ofWords, ← List.map_append] at whole
  rw [ofLine_eq, words]
  exact whole

end Run

/-- A state with a variable and, from the bottom up, a number and a name. -/
example : State.dump ⟨[.named ['y'], .number (.inf true)], NameTable.ofList [(['x'], .one)]⟩ =
    "1.0 x = -inf y".toList := by decide +kernel

/-- Dump and reload: take any state that lines lead to from the initial one, write it as a
    line, and process that line on the initial state.  The line comes to its end without a
    message, and leaves the same cells in the same order and the same values of variables. -/
theorem Machine.processLine_dump (lines : List (Machine × Text)) (machine : Machine) :
    let state := State.initial.afterLines lines
    let reloaded := machine.processLine state.dump State.initial
    reloaded.1.running = true ∧ reloaded.1.messages = [] ∧ reloaded.2.ending = .completed ∧
      reloaded.2.state.stack = state.stack ∧
      ∀ name, reloaded.2.state.bindings.get? name = state.bindings.get? name := by
  intro state reloaded
  have wellNamed : state.WellNamed := State.wellNamed_afterLines lines State.wellNamed_initial
  have run := Run.ofLine_dump machine.vocabulary wellNamed
  have result : reloaded = ({ machine with messages := [], running := true },
      ⟨⟨state.stack, NameTable.ofList state.bindings.sorted⟩, [],
        Token.ofWords state.dumpWords, .completed⟩) := by
    simp only [reloaded, Machine.processLine, run]
    rfl
  rw [result]
  exact ⟨rfl, rfl, rfl, rfl, state.bindings.get?_ofList_sorted⟩

end ReversePolish
