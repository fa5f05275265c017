import ReversePolish.Double.Arithmetic
import ReversePolish.NameTable

/-! # Vocabularies

The meanings of operator and fold words.  A vocabulary starts with the standard ones and
can be extended; a word that is entered again takes the new meaning.  Keywords and the
assignment word have one meaning only and are not part of it.
-/

namespace ReversePolish

abbrev Combination := Double → Double → Double

/-- A fold combines numbers from the first to the last, beginning with `initial`. -/
structure Fold where
  combine : Combination
  initial : Double

def Fold.result (fold : Fold) (values : List Double) : Double :=
  values.foldl fold.combine fold.initial

structure Vocabulary where
  operators : NameTable Combination
  folds : NameTable Fold

namespace Vocabulary

/-- The operators and folds of the calculator itself. -/
def standard : Vocabulary where
  operators := NameTable.ofList [
    ("+".toList, Double.add),
    ("-".toList, Double.sub),
    ("*".toList, Double.mul),
    ("/".toList, Double.div)]
  folds := NameTable.ofList [
    ("sum".toList, ⟨Double.add, Double.zero false⟩),
    ("prod".toList, ⟨Double.mul, Double.one⟩)]

def addOperator (vocabulary : Vocabulary) (symbol : Text) (combine : Combination) : Vocabulary :=
  { vocabulary with operators := vocabulary.operators.set symbol combine }

def addFold (vocabulary : Vocabulary) (name : Text) (fold : Fold) : Vocabulary :=
  { vocabulary with folds := vocabulary.folds.set name fold }

end Vocabulary

end ReversePolish
