import ReversePolish.Machine
import ReversePolish.Proofs.Actions
import ReversePolish.Proofs.NameTables

/-! # What machines know

A machine starts with the words of the calculator itself.  Words can be added and can take a new
meaning, but none is ever forgotten, so whatever has been done to a machine it knows the
reserved operators and folds.
-/

namespace ReversePolish

namespace Vocabulary

/-- The vocabulary has a meaning for each reserved operator and fold. -/
structure Complete (vocabulary : Vocabulary) : Prop where
  operators : ∀ word, classify word = .binaryOperator →
    ∃ combine, vocabulary.operators.get? word = some combine
  folds : ∀ word, classify word = .fold → ∃ fold, vocabulary.folds.get? word = some fold

theorem complete_standard : standard.Complete := by
  constructor
  · intro word operator
    rw [classify_eq_operator_iff] at operator
    rcases operator with rfl | rfl | rfl | rfl
    · exact ⟨Double.add, rfl⟩
    · exact ⟨Double.sub, rfl⟩
    · exact ⟨Double.mul, rfl⟩
    · exact ⟨Double.div, rfl⟩
  · intro word fold
    rw [classify_eq_fold_iff] at fold
    rcases fold with rfl | rfl
    · exact ⟨⟨Double.add, Double.zero false⟩, rfl⟩
    · exact ⟨⟨Double.mul, Double.one⟩, rfl⟩

theorem Complete.addOperator {vocabulary : Vocabulary} (complete : vocabulary.Complete)
    (symbol : Text) (combine : Combination) : (vocabulary.addOperator symbol combine).Complete := by
  constructor
  · intro word operator
    obtain ⟨known, found⟩ := complete.operators word operator
    simp only [Vocabulary.addOperator, NameTable.get?_set]
    by_cases same : word = symbol
    · exact ⟨combine, if_pos same⟩
    · exact ⟨known, by rw [if_neg same, found]⟩
  · exact complete.folds

theorem Complete.addFold {vocabulary : Vocabulary} (complete : vocabulary.Complete)
    (name : Text) (fold : Fold) : (vocabulary.addFold name fold).Complete := by
  constructor
  · exact complete.operators
  · intro word isFold
    obtain ⟨known, found⟩ := complete.folds word isFold
    simp only [Vocabulary.addFold, NameTable.get?_set]
    by_cases same : word = name
    · exact ⟨fold, if_pos same⟩
    · exact ⟨known, by rw [if_neg same, found]⟩

variable {vocabulary : Vocabulary} {word : Text}

theorem Complete.action_operator (complete : vocabulary.Complete)
    (operator : classify word = .binaryOperator) :
    ∃ combine, (Token.ofWord word).action vocabulary = .operate word combine := by
  obtain ⟨combine, found⟩ := complete.operators word operator
  refine ⟨combine, ?_⟩
  simp only [Token.action, Token.ofWord, operator, found]

theorem Complete.action_fold (complete : vocabulary.Complete) (isFold : classify word = .fold) :
    ∃ fold, (Token.ofWord word).action vocabulary = .foldAll fold := by
  obtain ⟨fold, found⟩ := complete.folds word isFold
  refine ⟨fold, ?_⟩
  simp only [Token.action, Token.ofWord, isFold, found]

end Vocabulary

namespace Machine

/-- The machines that there are: fresh ones, and those that words were added to, that processed
    a line or that interpreted a word. -/
inductive Made : Machine → Prop where
  | fresh : Made fresh
  | addOperator {machine : Machine} (made : Made machine) (symbol : Text) (combine : Combination) :
    Made (machine.addOperator symbol combine)
  | addFold {machine : Machine} (made : Made machine) (name : Text) (fold : Fold) :
    Made (machine.addFold name fold)
  | processLine {machine : Machine} (made : Made machine) (line : Text) (state : State) :
    Made (machine.processLine line state).1
  | interpretAs {machine : Machine} (made : Made machine) (kindName word : Text) (state : State) :
    Made (machine.interpretAs kindName word state).1

theorem Made.complete {machine : Machine} (made : machine.Made) : machine.vocabulary.Complete := by
  induction made with
  | fresh => exact Vocabulary.complete_standard
  | addOperator made symbol combine ih => exact ih.addOperator symbol combine
  | addFold made name fold ih => exact ih.addFold name fold
  | processLine made line state ih => exact ih
  | interpretAs made kindName word state ih => exact ih

end Machine

end ReversePolish
