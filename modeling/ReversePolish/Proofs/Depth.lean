import ReversePolish.Proofs.Steps
import ReversePolish.Proofs.Vocabularies

/-! # The depth of the stack

Each word needs a number of cells and changes the number of cells in one way, whatever the
cells are.  So the depth of the stack before every word of a line can be told from the depth
before the line (`Depth.run`), and with it which word will find too few cells.  What the cells
are matters only to the failures of other kinds, which can stop a line earlier.
-/

namespace ReversePolish

/-- What a word asks of the depth of the stack, and what it makes of it when it is carried out. -/
structure Demand where
  need : Nat
  after : Nat → Nat

def Keyword.demand : Keyword → Demand
  | .clear | .reset => ⟨0, fun _ => 0⟩
  | .exit => ⟨0, id⟩
  | .print | .drop => ⟨1, (· - 1)⟩
  | .dup => ⟨1, (· + 1)⟩
  | .swap => ⟨2, id⟩

namespace Token

def demand (token : Token) : Demand :=
  match token.kind with
  | .number | .identifier => ⟨0, (· + 1)⟩
  | .assignment => ⟨2, (· - 2)⟩
  | .binaryOperator => ⟨2, (· - 1)⟩
  | .keyword =>
    match Keyword.ofWord? token.word with
    | some keyword => keyword.demand
    | none => ⟨0, id⟩
  | .fold => ⟨0, fun _ => 1⟩
  | .invalid => ⟨0, id⟩

/-- What the cells are needed for, as it is reported. -/
def purpose (token : Token) : Text :=
  match token.kind with
  | .assignment => "assignment".toList
  | _ => token.word

end Token

/-- The run of tokens as far as the depth of the stack can tell: the tokens that are reached, each
    with the depth before it.  The run ends at `exit` and at a token that lacks cells. -/
def Depth.run : List Token → Nat → List (Token × Nat)
  | [], _ => []
  | token :: later, depth =>
    (token, depth) ::
      if token.word = Keyword.exit.word ∨ depth < token.demand.need then []
      else run later (token.demand.after depth)

/-- The effect is as demanded: it reports that there are too few cells just if there are, and if it
    is carried out it leaves as many cells as foretold. -/
structure Effect.Meets (effect : Effect) (demand : Demand) (purpose : Text) (state : State) :
    Prop where
  lacking : state.stack.length < demand.need → effect = .tooFew state demand.need purpose
  enough : demand.need ≤ state.stack.length → effect.ending.underflows = false
  depth : effect.ending = .completed →
    effect.state.stack.length = demand.after state.stack.length

namespace Effect

variable {demand : Demand} {purpose : Text} {state : State} {effect : Effect}

theorem meets_tooFew {need : Nat} {after : Nat → Nat} (few : state.stack.length < need) :
    (tooFew state need purpose).Meets ⟨need, after⟩ purpose state := by
  constructor
  · intro _
    rfl
  · intro enough
    exact absurd few (Nat.not_lt.mpr enough)
  · intro completed
    cases completed

theorem meets_of_completed (enough : demand.need ≤ state.stack.length)
    (completed : effect.ending = .completed)
    (depth : effect.state.stack.length = demand.after state.stack.length) :
    effect.Meets demand purpose state := by
  constructor
  · intro few
    exact absurd few (Nat.not_lt.mpr enough)
  · intro _
    rw [completed]
    rfl
  · intro _
    exact depth

theorem meets_of_stopped (enough : demand.need ≤ state.stack.length)
    (stopped : effect.ending ≠ .completed) (other : effect.ending.underflows = false) :
    effect.Meets demand purpose state := by
  constructor
  · intro few
    exact absurd few (Nat.not_lt.mpr enough)
  · intro _
    exact other
  · intro completed
    exact absurd completed stopped

theorem meets_failed (enough : demand.need ≤ state.stack.length) {failure : Failure}
    (other : (Ending.abandoned failure).underflows = false) :
    (failed state failure).Meets demand purpose state :=
  meets_of_stopped enough Ending.noConfusion other

theorem Meets.underflows_iff (meets : effect.Meets demand purpose state) :
    effect.ending.underflows = true ↔ state.stack.length < demand.need := by
  constructor
  · intro underflows
    by_contra enough
    rw [meets.enough (Nat.not_lt.mp enough)] at underflows
    cases underflows
  · intro few
    rw [meets.lacking few]
    rfl

end Effect

namespace State

open Effect

theorem operate_meets (state : State) (symbol : Text) (combine : Combination) :
    (state.operate symbol combine).Meets ⟨2, (· - 1)⟩ symbol state := by
  obtain ⟨stack, bindings⟩ := state
  match stack with
  | [] | [_] => exact meets_tooFew (by simp)
  | right :: left :: rest =>
      have enough : 2 ≤ (right :: left :: rest).length := by simp
      simp only [operate]
      cases leftValue : bindings.valueOf left with
      | error failure =>
          obtain ⟨name, -, -, rfl⟩ := Bindings.unassigned_of_valueOf leftValue
          exact meets_failed enough rfl
      | ok a =>
          cases rightValue : bindings.valueOf right with
          | error failure =>
              obtain ⟨name, -, -, rfl⟩ := Bindings.unassigned_of_valueOf rightValue
              exact meets_failed enough rfl
          | ok b => exact meets_of_completed enough rfl rfl

theorem assignTop_meets (state : State) :
    state.assignTop.Meets ⟨2, (· - 2)⟩ "assignment".toList state := by
  obtain ⟨stack, bindings⟩ := state
  match stack with
  | [] | [.number _] | [.named _] => exact meets_tooFew (by simp)
  | .number target :: source :: rest => exact meets_failed (by simp) rfl
  | .named target :: source :: rest =>
      have enough : 2 ≤ (Cell.named target :: source :: rest).length := by simp
      simp only [assignTop]
      cases bindings.valueOf source with
      | error failure => exact meets_failed enough rfl
      | ok value => exact meets_of_completed enough rfl rfl

theorem foldAll_meets (state : State) (fold : Fold) (purpose : Text) :
    (state.foldAll fold).Meets ⟨0, fun _ => 1⟩ purpose state := by
  unfold foldAll
  cases values : state.bindings.valuesOf state.stack.bottomUp with
  | error failure =>
      obtain ⟨name, -, -, rfl⟩ := Bindings.unassigned_of_valuesOf values
      exact meets_failed (Nat.zero_le _) rfl
  | ok values => exact meets_of_completed (Nat.zero_le _) rfl rfl

theorem act_meets (state : State) (keyword : Keyword) :
    (state.act keyword).Meets keyword.demand keyword.word state := by
  obtain ⟨stack, bindings⟩ := state
  cases keyword with
  | clear | reset => exact meets_of_completed (Nat.zero_le _) rfl rfl
  | exit => exact meets_of_stopped (Nat.zero_le _) Ending.noConfusion rfl
  | print | drop | dup =>
      cases stack with
      | nil => exact meets_tooFew (by simp)
      | cons cell rest => exact meets_of_completed (by simp [Keyword.demand]) rfl rfl
  | swap =>
      match stack with
      | [] | [_] => exact meets_tooFew (by simp)
      | last :: previous :: rest => exact meets_of_completed (by simp [Keyword.demand]) rfl rfl

end State

namespace Token

open Effect

theorem effect_meets {vocabulary : Vocabulary} (complete : vocabulary.Complete) (word : Text)
    (state : State) :
    ((ofWord word).effect vocabulary state).Meets (ofWord word).demand (ofWord word).purpose
      state := by
  rw [effect_eq_action]
  cases kind : classify word with
  | number =>
      simp only [action, demand, purpose, ofWord, kind]
      cases Double.ofText word with
      | error error => exact meets_of_stopped (Nat.zero_le _) Ending.noConfusion rfl
      | ok value => exact meets_of_completed (Nat.zero_le _) rfl rfl
  | identifier =>
      simp only [action, demand, purpose, ofWord, kind]
      exact meets_of_completed (Nat.zero_le _) rfl rfl
  | invalid =>
      simp only [action, demand, purpose, ofWord, kind]
      exact meets_failed (Nat.zero_le _) rfl
  | assignment =>
      simp only [action, demand, purpose, ofWord, kind]
      exact state.assignTop_meets
  | binaryOperator =>
      obtain ⟨combine, operates⟩ := complete.action_operator kind
      rw [operates]
      simp only [demand, purpose, ofWord, kind]
      exact state.operate_meets word combine
  | keyword =>
      obtain ⟨keyword, rfl⟩ := classify_eq_keyword_iff.mp kind
      rw [action_eq_act_iff.mpr rfl]
      simp only [demand, purpose, ofWord, kind, Keyword.ofWord?_word]
      exact state.act_meets keyword
  | fold =>
      obtain ⟨fold, folds⟩ := complete.action_fold kind
      rw [folds]
      simp only [demand, purpose, ofWord, kind]
      exact state.foldAll_meets fold word

/-- A word that is carried out finds enough cells and is no `exit`. -/
theorem goesOn_of_completed {vocabulary : Vocabulary} (complete : vocabulary.Complete)
    {word : Text} {state : State}
    (completed : ((ofWord word).effect vocabulary state).ending = .completed) :
    ¬ ((ofWord word).word = Keyword.exit.word ∨
      state.stack.length < (ofWord word).demand.need) := by
  rintro (rfl | few)
  · have exits : (ofWord Keyword.exit.word).action vocabulary = .act .exit :=
      action_eq_act_iff.mpr rfl
    rw [effect_eq_action, exits] at completed
    cases completed
  · rw [(effect_meets complete word state).lacking few] at completed
    cases completed

end Token

namespace Run

variable {vocabulary : Vocabulary}

/-- The steps of a run, with the depths they meet, are those that the depth alone foretells up to
    where the run stops. -/
theorem steps_prefix_depth (complete : vocabulary.Complete) (words : List Text) (state : State) :
    (steps vocabulary (Token.ofWords words) state).map
        (fun step => (step.token, step.before.stack.length)) <+:
      Depth.run (Token.ofWords words) state.stack.length := by
  induction words generalizing state with
  | nil => exact List.prefix_refl _
  | cons word words ih =>
      have meets := Token.effect_meets complete word state
      rw [Token.ofWords_cons, Depth.run]
      by_cases completed : ((Token.ofWord word).effect vocabulary state).ending = .completed
      · have goesOn := Token.goesOn_of_completed complete completed
        rw [steps_cons_of_completed completed, List.map_cons, if_neg goesOn,
          ← meets.depth completed]
        exact List.cons_prefix_cons.mpr ⟨rfl, ih _⟩
      · rw [steps_cons_of_stopped completed]
        exact List.cons_prefix_cons.mpr ⟨rfl, List.nil_prefix⟩

theorem tried_ne_nil {tokens : List Token} {state : State}
    (stopped : (ofTokens vocabulary tokens state).ending ≠ .completed) :
    (ofTokens vocabulary tokens state).tried ≠ [] := by
  cases tokens with
  | nil => exact absurd rfl stopped
  | cons token later =>
      by_cases completed : (token.effect vocabulary state).ending = .completed
      · rw [ofTokens_cons_of_completed completed]
        exact List.cons_ne_nil _ _
      · rw [ofTokens_cons_of_stopped completed]
        exact List.cons_ne_nil _ _

/-- The run is stopped by a failure that is no lack of cells, and before it has tried all that
    the other run tries. -/
structure FailsBefore (run other : Run) : Prop where
  tried : run.tried <+: other.tried
  earlier : run.tried.length < other.tried.length
  failed : ∃ failure, run.ending = .abandoned failure
  otherwise : run.ending.underflows = false

/-- Where one run lacks cells, a run of the same words from another state of the same depth lacks
    them too, or it failed before that for another reason. -/
theorem underflows_alike (complete : vocabulary.Complete) (words : List Text)
    {first second : State} (same : second.stack.length = first.stack.length)
    (underflows : (ofTokens vocabulary (Token.ofWords words) first).ending.underflows = true) :
    ((ofTokens vocabulary (Token.ofWords words) second).tried =
        (ofTokens vocabulary (Token.ofWords words) first).tried ∧
      (ofTokens vocabulary (Token.ofWords words) second).ending =
        (ofTokens vocabulary (Token.ofWords words) first).ending) ∨
      FailsBefore (ofTokens vocabulary (Token.ofWords words) second)
        (ofTokens vocabulary (Token.ofWords words) first) := by
  induction words generalizing first second with
  | nil => cases underflows
  | cons word words ih =>
      have meets := Token.effect_meets complete word first
      have alsoMeets := Token.effect_meets complete word second
      rw [Token.ofWords_cons] at underflows ⊢
      by_cases few : first.stack.length < (Token.ofWord word).demand.need
      · -- Both runs stop here, with the same report.
        left
        have lacks := meets.lacking few
        have alsoLacks := alsoMeets.lacking (same ▸ few)
        have stopped : ((Token.ofWord word).effect vocabulary first).ending ≠ .completed :=
          lacks ▸ Ending.noConfusion
        have alsoStopped : ((Token.ofWord word).effect vocabulary second).ending ≠ .completed :=
          alsoLacks ▸ Ending.noConfusion
        rw [ofTokens_cons_of_stopped stopped, ofTokens_cons_of_stopped alsoStopped, lacks,
          alsoLacks]
        simp only [Effect.tooFew, Effect.failed, same, and_self]
      · by_cases completed : ((Token.ofWord word).effect vocabulary first).ending = .completed
        · rw [ofTokens_cons_of_completed completed] at underflows ⊢
          by_cases alsoCompleted :
              ((Token.ofWord word).effect vocabulary second).ending = .completed
          · rw [ofTokens_cons_of_completed alsoCompleted]
            have sameAfter : ((Token.ofWord word).effect vocabulary second).state.stack.length =
                ((Token.ofWord word).effect vocabulary first).state.stack.length := by
              rw [meets.depth completed, alsoMeets.depth alsoCompleted, same]
            rcases ih sameAfter underflows with ⟨tried, ending⟩ | before
            · exact .inl ⟨congrArg (Token.ofWord word :: ·) tried, ending⟩
            · exact .inr ⟨List.cons_prefix_cons.mpr ⟨rfl, before.tried⟩,
                Nat.succ_lt_succ before.earlier, before.failed, before.otherwise⟩
          · -- The second run stops where the first one goes on, so it is a failure that stops it.
            right
            rw [ofTokens_cons_of_stopped alsoCompleted]
            have later := tried_ne_nil (Ending.not_completed_of_underflows underflows)
            constructor
            · exact List.cons_prefix_cons.mpr ⟨rfl, List.nil_prefix⟩
            · exact Nat.succ_lt_succ (List.length_pos_iff.mpr later)
            · exact Token.abandoned_of_completed completed alsoCompleted
            · exact alsoMeets.enough (same ▸ Nat.not_lt.mp few)
        · rw [ofTokens_cons_of_stopped completed] at underflows
          rw [meets.enough (Nat.not_lt.mp few)] at underflows
          cases underflows

end Run

/-- The report of a word that finds too few cells. -/
def Depth.shortage (token : Token) (depth : Nat) : Text :=
  "? insufficient values for ".toList ++ token.purpose ++ " (need ".toList ++
    Text.ofNat token.demand.need ++ ", have ".toList ++ Text.ofNat depth ++ [')']

theorem Failure.message_underflow (need found : Int) (purpose : Text) :
    (underflow need found (some purpose)).message =
      "insufficient values for ".toList ++ purpose ++ " (need ".toList ++ Text.ofInt need ++
        ", have ".toList ++ Text.ofInt found ++ [')'] := rfl

theorem Depth.opening : "? insufficient values for ".toList =
    "? ".toList ++ "insufficient values for ".toList := by decide

theorem Depth.report_underflow (token : Token) (depth : Nat) :
    Run.report (.underflow token.demand.need depth (some token.purpose)) =
      shortage token depth := by
  calc Run.report (.underflow token.demand.need depth (some token.purpose))
    _ = "? ".toList ++ _ :=
        congrArg ("? ".toList ++ ·) (Failure.message_underflow _ _ token.purpose)
    _ = "? insufficient values for ".toList ++ token.purpose ++ " (need ".toList ++
          Text.ofInt token.demand.need ++ ", have ".toList ++ Text.ofInt depth ++ [')'] := by
        simp only [opening, List.append_assoc]
    _ = shortage token depth := rfl

/-- The depth before each word that a line tries is told by the depth before the line alone, and
    so is whether the word finds too few cells, which is then reported with this depth.  Of two
    states of one depth, then, both lack cells at the same word of a line, unless one of them
    comes to a failure of another kind before. -/
theorem Machine.processLine_depth {machine : Machine} (made : machine.Made) (line : Text)
    (state : State) :
    let run := machine.processLine line state
    let steps := machine.steps line state
    steps.map Step.token = run.2.tried ∧
      steps.map (fun step => (step.token, step.before.stack.length)) <+:
        Depth.run (Token.ofWords (Words.split line)) state.stack.length ∧
      (∀ step ∈ steps,
        (step.effect.ending.underflows = true ↔
          step.before.stack.length < step.token.demand.need) ∧
        (step.effect.ending.underflows = true → run.1.messages =
          run.2.printed ++ [Depth.shortage step.token step.before.stack.length])) ∧
      ∀ other : State, other.stack.length = state.stack.length →
        let otherRun := machine.processLine line other
        run.2.ending.underflows = true →
          (otherRun.2.tried = run.2.tried ∧ otherRun.2.ending = run.2.ending) ∨
            otherRun.2.FailsBefore run.2 := by
  intro run steps
  have complete := made.complete
  refine ⟨map_token_steps machine line state, Run.steps_prefix_depth complete _ state, ?_, ?_⟩
  · intro step member
    obtain ⟨word, -, before, rfl⟩ := mem_steps member
    have meets := Token.effect_meets complete word before
    refine ⟨meets.underflows_iff, ?_⟩
    intro underflows
    have lacks := meets.lacking (meets.underflows_iff.mp underflows)
    have last := ending_of_mem_steps member (Ending.not_completed_of_underflows underflows)
    have ending : run.2.ending = .abandoned (.underflow (Token.ofWord word).demand.need
        before.stack.length (some (Token.ofWord word).purpose)) :=
      last.trans (congrArg Effect.ending lacks)
    rw [processLine_messages, Run.messages, ending]
    exact congrArg (run.2.printed ++ [·]) (Depth.report_underflow _ _)
  · intro other same otherRun underflows
    simp only [run, otherRun, processLine_snd] at underflows ⊢
    exact Run.underflows_alike complete _ same underflows

/-- A line that runs out of cells at its last `+`.  From a state of the same depth it fails at the
    first one already, for want of a value of the variable. -/
theorem Machine.processLine_depth_failsBefore :
    let machine := Machine.fresh.addOperator ['+'] Double.sub
    let line := "swap dup + drop + exit".toList
    let state : State := ⟨[.number .one, .named ['x']], NameTable.ofList [(['x'], .inf true)]⟩
    let other : State := ⟨state.stack, NameTable.empty⟩
    let run := machine.processLine line state
    run.1.messages = ["? insufficient values for + (need 2, have 1)".toList] ∧
      (machine.processLine line other).2.FailsBefore run.2 := by
  intro machine line state other run
  have made : machine.Made := .addOperator .fresh ['+'] Double.sub
  have depth := processLine_depth made line state
  have stops : run.2.ending = .abandoned (.underflow 2 1 (some ['+'])) := by
    simp only [run, processLine_snd]
    decide +kernel
  have earlier : (machine.processLine line other).2.ending ≠ run.2.ending := by
    simp only [run, processLine_snd]
    decide +kernel
  constructor
  · simp only [run, processLine_messages, processLine_snd]
    decide +kernel
  · rcases depth.2.2.2 other rfl (stops ▸ rfl) with ⟨-, alike⟩ | before
    · exact absurd alike earlier
    · exact before

end ReversePolish
