import ReversePolish.Proofs.Accumulation
import ReversePolish.Proofs.Actions
import ReversePolish.Proofs.Atomicity
import ReversePolish.Proofs.Double.Readable
import ReversePolish.Proofs.Dump
import ReversePolish.Proofs.Steps

/-! # Trying again

An operator or a fold that comes upon a variable without a value leaves the stack as it is, and so
it can be tried again once a line has given the variable a value.  Whoever goes on like this gets
to the end: such a line takes away the name that was complained about and adds none
(`Bindings.unboundNames_set`), so the tries go through the names without a value in the order in
which the word looks at them, each name once (`Machine.Succeeds`).
-/

namespace ReversePolish

/-- The cells whose values a word of the kind combines, in the order in which it looks at them. -/
def Kind.operands : Kind → Stack → List Cell
  | .binaryOperator, right :: left :: _ => [left, right]
  | .fold, stack => stack.bottomUp
  | _, _ => []

def Cell.name? : Cell → Option Text
  | .number _ => none
  | .named name => some name

namespace Bindings

/-- The names on cells that have no value, in the order of the cells. -/
def unboundNames (bindings : Bindings) (cells : List Cell) : List Text :=
  (cells.filterMap Cell.name?).filter fun name => (bindings.get? name).isNone

section Names

variable {bindings : Bindings} {cells : List Cell} {name : Text}

theorem mem_filterMap_name?_iff : name ∈ cells.filterMap Cell.name? ↔ .named name ∈ cells := by
  rw [List.mem_filterMap]
  constructor
  · rintro ⟨cell, member, named⟩
    cases cell with
    | number value => cases named
    | named other =>
        cases named
        exact member
  · intro member
    exact ⟨.named name, member, rfl⟩

theorem mem_unboundNames_iff :
    name ∈ bindings.unboundNames cells ↔ .named name ∈ cells ∧ bindings.get? name = none := by
  rw [unboundNames, List.mem_filter, mem_filterMap_name?_iff, Option.isNone_iff_eq_none]

theorem unbound_of_resolves (resolves : ∀ cell ∈ cells, bindings.resolves cell = true) :
    bindings.unboundNames cells = [] := by
  apply List.eq_nil_iff_forall_not_mem.mpr
  intro name member
  obtain ⟨stacked, unbound⟩ := mem_unboundNames_iff.mp member
  have bound := resolves _ stacked
  simp [Bindings.resolves, NameTable.contains, unbound] at bound

/-- Cells fail with the first name on them that has no value. -/
theorem head?_unboundNames {failure : Failure} (fails : bindings.valuesOf cells = .error failure) :
    ∃ name, (bindings.unboundNames cells).head? = some name ∧ failure = .unassigned name := by
  obtain ⟨before, name, after, rfl, earlier, unbound, rfl⟩ := first_unassigned_of_valuesOf fails
  have none := unbound_of_resolves earlier
  have split : bindings.unboundNames (before ++ .named name :: after) =
      bindings.unboundNames before ++ name :: bindings.unboundNames after := by
    simp [unboundNames, Cell.name?, unbound]
  refine ⟨name, ?_, rfl⟩
  rw [split, none]
  rfl

/-- Where no name is without a value, all cells have values. -/
theorem exists_values_of_unboundNames (none : bindings.unboundNames cells = []) :
    ∃ values, bindings.valuesOf cells = .ok values := by
  cases found : bindings.valuesOf cells with
  | ok values => exact ⟨values, rfl⟩
  | error failure =>
      obtain ⟨name, first, -⟩ := head?_unboundNames found
      rw [none] at first
      cases first

theorem valuesOf_of_unboundNames {others : List Text}
    (unbound : bindings.unboundNames cells = name :: others) :
    bindings.valuesOf cells = .error (.unassigned name) := by
  cases found : bindings.valuesOf cells with
  | ok values =>
      have none := unbound_of_resolves (exists_valuesOf_iff.mp ⟨values, found⟩)
      rw [none] at unbound
      cases unbound
  | error failure =>
      obtain ⟨first, isFirst, rfl⟩ := head?_unboundNames found
      rw [unbound, List.head?_cons, Option.some.injEq] at isFirst
      rw [isFirst]

/-- To give a name a value takes it away from those without one, wherever it stands. -/
theorem unboundNames_set (bindings : Bindings) (name : Text) (value : Double) (cells : List Cell) :
    unboundNames (bindings.set name value) cells =
      (bindings.unboundNames cells).filter fun other => !other == name := by
  rw [unboundNames, unboundNames, List.filter_filter]
  congr 1
  funext other
  by_cases same : other = name
  · simp [NameTable.get?_set, same]
  · simp [NameTable.get?_set, same]

end Names

end Bindings

namespace State

variable (state : State) (name : Text)

/-- An assignment reports its operands as a whole. -/
theorem assignTop_ne_unassigned : state.assignTop.ending ≠ .abandoned (.unassigned name) := by
  unfold assignTop
  split
  · nofun
  · split
    · nofun
    · nofun
  · nofun

theorem act_ne_unassigned (keyword : Keyword) :
    (state.act keyword).ending ≠ .abandoned (.unassigned name) := by
  unfold act
  split <;> nofun

end State

/-- The stack that an operator makes out of the values of two cells above others. -/
def Combination.onto (combine : Combination) (rest : Stack) : List Double → Stack
  | left :: right :: _ => .number (combine left right) :: rest
  | _ => rest

namespace Token

variable {vocabulary : Vocabulary} {token : Token} {stack : Stack} {name : Text}

/-- What the token puts in the place of the stack is made of the values of certain cells on it, and
    if one of these cells has no value the token fails. -/
def Combines (vocabulary : Vocabulary) (token : Token) (stack : Stack) (cells : List Cell) : Prop :=
  ∃ result : List Double → Stack, ∀ bindings : Bindings,
    token.effect vocabulary ⟨stack, bindings⟩ =
      match bindings.valuesOf cells with
      | .ok values => .done ⟨result values, bindings⟩
      | .error failure => .failed ⟨stack, bindings⟩ failure

section Combines

variable {cells : List Cell} {bindings : Bindings}
  (combines : Combines vocabulary token stack cells)

include combines

theorem Combines.completed (none : bindings.unboundNames cells = []) :
    (token.effect vocabulary ⟨stack, bindings⟩).ending = .completed := by
  obtain ⟨result, effect⟩ := combines
  obtain ⟨values, found⟩ := Bindings.exists_values_of_unboundNames none
  rw [effect, found]
  rfl

theorem Combines.fails {others : List Text}
    (unbound : bindings.unboundNames cells = name :: others) :
    token.effect vocabulary ⟨stack, bindings⟩ =
      .failed ⟨stack, bindings⟩ (.unassigned name) := by
  obtain ⟨result, effect⟩ := combines
  rw [effect, Bindings.valuesOf_of_unboundNames unbound]

/-- A complaint is about the first name that has no value. -/
theorem Combines.first
    (raised : (token.effect vocabulary ⟨stack, bindings⟩).ending = .abandoned (.unassigned name)) :
    (bindings.unboundNames cells).head? = some name := by
  cases unbound : bindings.unboundNames cells with
  | nil =>
      rw [combines.completed unbound] at raised
      cases raised
  | cons first others =>
      rw [combines.fails unbound] at raised
      cases raised
      rfl

end Combines

theorem combines_operator {combine : Combination} (right left : Cell) (rest : Stack)
    (operates : token.action vocabulary = .operate token.word combine) :
    Combines vocabulary token (right :: left :: rest) [left, right] := by
  refine ⟨combine.onto rest, fun bindings => ?_⟩
  rw [effect_eq_action, operates]
  simp only [Action.effect, State.operate, Bindings.valuesOf]
  cases bindings.valueOf left with
  | error failure => rfl
  | ok a => cases bindings.valueOf right <;> rfl

theorem combines_fold {fold : Fold} (folds : token.action vocabulary = .foldAll fold)
    (stack : Stack) : Combines vocabulary token stack stack.bottomUp := by
  refine ⟨fun values => [.number (fold.result values)], fun bindings => ?_⟩
  rw [effect_eq_action, folds]
  cases found : bindings.valuesOf stack.bottomUp with
  | ok values => simp only [Action.effect, State.foldAll, found]
  | error failure => simp only [Action.effect, State.foldAll, found]

/-- Only operators and folds complain about a variable without a value, and an operator only if
    it finds two cells. -/
theorem combines_of_unassigned {bindings : Bindings}
    (raised : (token.effect vocabulary ⟨stack, bindings⟩).ending = .abandoned (.unassigned name)) :
    Combines vocabulary token stack (token.kind.operands stack) := by
  obtain ⟨kind, word⟩ := token
  rw [effect_eq_action] at raised
  cases kind with
  | number =>
      simp only [action] at raised
      split at raised <;> cases raised
  | identifier | invalid => cases raised
  | assignment => exact absurd raised (State.assignTop_ne_unassigned _ name)
  | keyword =>
      simp only [action] at raised
      split at raised
      · exact absurd raised (State.act_ne_unassigned _ name _)
      · cases raised
  | binaryOperator =>
      cases known : vocabulary.operators.get? word with
      | none =>
          simp only [action, known] at raised
          cases raised
      | some combine =>
          have operates : action vocabulary ⟨.binaryOperator, word⟩ = .operate word combine := by
            simp only [action, known]
          rw [operates] at raised
          cases stack with
          | nil => cases raised
          | cons right below =>
              cases below with
              | nil => cases raised
              | cons left rest => exact combines_operator right left rest operates
  | fold =>
      cases known : vocabulary.folds.get? word with
      | none =>
          simp only [action, known] at raised
          cases raised
      | some fold =>
          have folds : action vocabulary ⟨.fold, word⟩ = .foldAll fold := by
            simp only [action, known]
          exact combines_fold folds stack

end Token

/-- The line that gives a variable the number of a number word. -/
def assignmentLine (numeral name : Text) : Text := Text.joinWith [' '] [numeral, name, ['=']]

namespace Machine

/-- Interpret a word on a state.  If it complains about a variable without a value, process the line
    that gives this variable the first of some numbers, and try again with the other numbers. -/
def tries (kind : Kind) (word : Text) (machine : Machine) (state : State) : List Text → List Step
  | [] => [⟨⟨kind, word⟩, state, (machine.interpretAs kind.name word state).2⟩]
  | numeral :: later =>
    let interpreted := machine.interpretAs kind.name word state
    ⟨⟨kind, word⟩, state, interpreted.2⟩ ::
      match interpreted.2.ending with
      | .abandoned (.unassigned name) =>
        let assigned := interpreted.1.processLine (assignmentLine numeral name) interpreted.2.state
        tries kind word assigned.1 assigned.2.state later
      | _ => []

/-- Process lines one after the other. -/
def throughLines (machine : Machine) (state : State) : List Text → Machine × State
  | [] => (machine, state)
  | line :: later =>
    let processed := machine.processLine line state
    processed.1.throughLines processed.2.state later

/-- The machine after a line that was carried out without a message. -/
def quieted (machine : Machine) : Machine := { machine with messages := [], running := true }

section Tries

variable {machine : Machine} {kind : Kind} {word numeral name : Text} {state : State}
  {value : Double}

theorem interpretAs_name (machine : Machine) (kind : Kind) (word : Text) (state : State) :
    machine.interpretAs kind.name word state =
      (machine.noting (Token.effect machine.vocabulary ⟨kind, word⟩ state),
        Token.effect machine.vocabulary ⟨kind, word⟩ state) := by
  simp only [interpretAs, Kind.ofName?_name]

theorem processLine_assignmentLine (number : classify numeral = .number)
    (reads : Double.ofText numeral = .ok value) (identifier : classify name = .identifier)
    (machine : Machine) (state : State) :
    machine.processLine (assignmentLine numeral name) state =
      (machine.quieted, ⟨⟨state.stack, state.bindings.set name value⟩, [],
        Token.ofWords [numeral, name, ['=']], .completed⟩) := by
  have areWords : ∀ word ∈ [numeral, name, ['=']], Words.IsWord word := by
    intro word member
    simp only [List.mem_cons, List.not_mem_nil, or_false] at member
    rcases member with rfl | rfl | rfl
    · exact isWord_of_number number
    · exact isWord_of_identifier identifier
    · exact ⟨by decide, by decide⟩
  have leads : Run.Leads machine.vocabulary (Token.ofWords [numeral, name, ['=']]) state
      ⟨state.stack, state.bindings.set name value⟩ :=
    .cons (Token.effect_number _ state number reads)
      (.cons (Token.effect_identifier _ _ identifier)
        (.cons (Token.effect_assignment _ state name value) rfl))
  have run : Run.ofLine machine.vocabulary (assignmentLine numeral name) state =
      ⟨⟨state.stack, state.bindings.set name value⟩, [],
        Token.ofWords [numeral, name, ['=']], .completed⟩ := by
    rw [Run.ofLine_eq, assignmentLine, Words.split_joinWith areWords]
    exact leads
  simp only [processLine, run]
  rfl

theorem tries_of_completed
    (completed : (Token.effect machine.vocabulary ⟨kind, word⟩ state).ending = .completed)
    (numerals : List Text) :
    machine.tries kind word state numerals =
      [.take machine.vocabulary ⟨kind, word⟩ state] := by
  cases numerals with
  | nil =>
      rw [tries, interpretAs_name]
      rfl
  | cons numeral later =>
      rw [tries, interpretAs_name]
      simp only [completed]
      rfl

/-- A try that complains about a variable leaves the state to the line that gives it a value. -/
theorem tries_cons_of_failed
    (fails : Token.effect machine.vocabulary ⟨kind, word⟩ state = .failed state (.unassigned name))
    (number : classify numeral = .number) (reads : Double.ofText numeral = .ok value)
    (identifier : classify name = .identifier) (later : List Text) :
    machine.tries kind word state (numeral :: later) =
      .take machine.vocabulary ⟨kind, word⟩ state ::
        machine.quieted.tries kind word ⟨state.stack, state.bindings.set name value⟩ later := by
  have raised : Effect.Raised (.failed state (.unassigned name)) := .inl ⟨_, rfl⟩
  rw [tries, interpretAs_name, Step.take, fails, noting_eq_self rfl raised]
  simp only [Effect.failed, processLine_assignmentLine number reads identifier]

/-- The tries of a word get to an end.  Each of them complains about another one of the names, and
    the one behind these is carried out; until then the stack stays as it is.  The last try does
    what the word does if it is interpreted once, behind the lines that give the names their
    values. -/
structure Succeeds (machine : Machine) (kind : Kind) (word : Text) (state : State)
    (numerals names : List Text) : Prop where
  new : names.Nodup
  endings : (machine.tries kind word state numerals).map (fun step => step.effect.ending) =
    names.map (fun name => .abandoned (.unassigned name)) ++ [.completed]
  stack : ∀ step ∈ machine.tries kind word state numerals, step.before.stack = state.stack ∧
    (step.effect.ending ≠ .completed → step.effect.state.stack = state.stack)
  last : let assigned := machine.throughLines state (List.zipWith assignmentLine numerals names)
    (machine.tries kind word state numerals).getLast?.map Step.effect =
      some (assigned.1.interpretAs kind.name word assigned.2).2

theorem Succeeds.now
    (completed : (Token.effect machine.vocabulary ⟨kind, word⟩ state).ending = .completed)
    (numerals : List Text) : Succeeds machine kind word state numerals [] := by
  have once := tries_of_completed completed numerals
  constructor
  · exact List.nodup_nil
  · rw [once]
    exact congrArg ([·]) completed
  · intro step member
    rw [once, List.mem_singleton] at member
    subst member
    exact ⟨rfl, fun stopped => absurd completed stopped⟩
  · simp only [once, List.zipWith_nil_right, throughLines, interpretAs_name]
    rfl

theorem Succeeds.later
    (fails : Token.effect machine.vocabulary ⟨kind, word⟩ state = .failed state (.unassigned name))
    (number : classify numeral = .number) (reads : Double.ofText numeral = .ok value)
    (identifier : classify name = .identifier) {numerals names : List Text} (new : name ∉ names)
    (rest : Succeeds machine.quieted kind word ⟨state.stack, state.bindings.set name value⟩
      numerals names) :
    Succeeds machine kind word state (numeral :: numerals) (name :: names) := by
  have again := tries_cons_of_failed fails number reads identifier numerals
  constructor
  · exact List.nodup_cons.mpr ⟨new, rest.new⟩
  · rw [again, List.map_cons, rest.endings, Step.take, fails]
    rfl
  · intro step member
    rw [again] at member
    rcases List.mem_cons.mp member with rfl | behind
    · refine ⟨rfl, fun _ => ?_⟩
      rw [Step.take, fails]
      rfl
    · exact rest.stack step behind
  · obtain ⟨step, last, effect⟩ := Option.map_eq_some_iff.mp rest.last
    simp only [List.zipWith_cons_cons, throughLines,
      processLine_assignmentLine number reads identifier]
    rw [again, List.getLast?_cons, last, ← effect]
    rfl

end Tries

/-- Whoever tries a word again and again, and has enough numbers, gets to the end of it. -/
theorem succeeds_of_combines {kind : Kind} {word : Text} {stack : Stack} {cells : List Cell}
    {numerals : List Text}
    (numbers : ∀ numeral ∈ numerals, Token.IsNumeral numeral)
    {machine : Machine} (combines : Token.Combines machine.vocabulary ⟨kind, word⟩ stack cells)
    {bindings : Bindings}
    (identifiers : ∀ name ∈ bindings.unboundNames cells, classify name = .identifier)
    (enough : (bindings.unboundNames cells).eraseDups.length ≤ numerals.length) :
    Succeeds machine kind word ⟨stack, bindings⟩ numerals
      (bindings.unboundNames cells).eraseDups := by
  induction numerals generalizing machine bindings with
  | nil =>
      cases unbound : bindings.unboundNames cells with
      | nil => exact .now (combines.completed unbound) []
      | cons name others => simp [unbound, List.eraseDups_cons] at enough
  | cons numeral later ih =>
      cases unbound : bindings.unboundNames cells with
      | nil => exact .now (combines.completed unbound) (numeral :: later)
      | cons name others =>
          obtain ⟨⟨number, value, reads⟩, laterNumbers⟩ := List.forall_mem_cons.mp numbers
          -- The line that gives the name its value takes it off the list, and adds no other.
          have rest : Bindings.unboundNames (bindings.set name value) cells =
              others.filter fun other => !other == name := by
            rw [Bindings.unboundNames_set, unbound]
            simp
          have laterIdentifiers : ∀ other ∈ Bindings.unboundNames (bindings.set name value) cells,
              classify other = .identifier := by
            intro other member
            rw [Bindings.unboundNames_set] at member
            exact identifiers other (List.mem_of_mem_filter member)
          rw [unbound, List.eraseDups_cons, List.length_cons, List.length_cons, ← rest] at enough
          have sameWords : Token.Combines machine.quieted.vocabulary ⟨kind, word⟩ stack cells :=
            combines
          have succeeds := ih laterNumbers sameWords laterIdentifiers
            (Nat.le_of_succ_le_succ enough)
          rw [List.eraseDups_cons, ← rest]
          apply Succeeds.later (combines.fails unbound) number reads _ _ succeeds
          · apply identifiers
            rw [unbound]
            exact List.mem_cons_self ..
          · rw [List.mem_eraseDups, rest]
            simp

/-- A word that complains about a variable without a value complains about the first one among its
    operands: the left one before the right one, or the lowest one on the stack.  If lines can give
    values to all such variables, then to go on in this way, with whatever numbers, is to come to
    an end after as many lines as there are different names among them. -/
theorem interpretAs_retried (machine : Machine) (kind : Kind) (word : Text) (state : State)
    {name : Text}
    (raised : (machine.interpretAs kind.name word state).2.ending =
      .abandoned (.unassigned name)) :
    let unbound := state.bindings.unboundNames (kind.operands state.stack)
    unbound.head? = some name ∧
      ((∀ other ∈ unbound, classify other = .identifier) → ∀ numerals,
        (∀ numeral ∈ numerals, Token.IsNumeral numeral) →
        unbound.eraseDups.length ≤ numerals.length →
        machine.Succeeds kind word state numerals unbound.eraseDups) := by
  intro unbound
  rw [interpretAs_name] at raised
  have combines := Token.combines_of_unassigned raised
  refine ⟨combines.first raised, fun identifiers numerals numbers enough => ?_⟩
  exact succeeds_of_combines numbers combines identifiers enough

/-- A sum over four cells, among which are a variable twice and another one. -/
theorem interpretAs_retried_sum :
    let state : State :=
      ⟨[.named ['y'], .named ['x'], .number .one, .named ['x']], NameTable.empty⟩
    let numerals := ["-1e400".toList, "5".toList, "nan".toList]
    let unbound := state.bindings.unboundNames (Kind.fold.operands state.stack)
    (Machine.fresh.interpretAs Kind.fold.name "sum".toList state).2.ending =
        .abandoned (.unassigned ['x']) ∧
      (∀ other ∈ unbound, classify other = .identifier) ∧
      (∀ numeral ∈ numerals, Token.IsNumeral numeral) ∧
      unbound.eraseDups = [['x'], ['y']] ∧
      Machine.fresh.Succeeds .fold "sum".toList state numerals [['x'], ['y']] := by
  intro state numerals unbound
  have raised : (Machine.fresh.interpretAs Kind.fold.name "sum".toList state).2.ending =
      .abandoned (.unassigned ['x']) := rfl
  have identifiers : ∀ other ∈ unbound, classify other = .identifier := by decide +kernel
  have numbers : ∀ numeral ∈ numerals, Token.IsNumeral numeral := by
    have negative : Token.IsNumeral "-1e400".toList :=
      ⟨by decide +kernel, .inf true, Double.ofText_eq_ok_iff.mpr (by decide +kernel)⟩
    have five : Token.IsNumeral "5".toList :=
      ⟨by decide +kernel, .finite false 0x4014000000000000,
        Double.ofText_eq_ok_iff.mpr (by decide +kernel)⟩
    have nan : Token.IsNumeral "nan".toList :=
      ⟨by decide +kernel, .nan, Double.ofText_eq_ok_iff.mpr (by decide +kernel)⟩
    exact List.forall_mem_cons.mpr ⟨negative, List.forall_mem_cons.mpr ⟨five,
      List.forall_mem_cons.mpr ⟨nan, List.forall_mem_nil _⟩⟩⟩
  have names : unbound.eraseDups = [['x'], ['y']] := by decide +kernel
  have laws := interpretAs_retried Machine.fresh .fold "sum".toList state raised
  have succeeds := laws.2 identifiers numerals numbers (by rw [names]; decide)
  rw [names] at succeeds
  exact ⟨raised, identifiers, numbers, names, succeeds⟩

end Machine

end ReversePolish
