import ReversePolish.Token.NumberWord
import ReversePolish.Unicode.Alphanumeric

/-! # Tokens

A token is a word together with its kind.  The kind depends on the word alone: the words
of the calculator have theirs, any other word is a number if it has the form of one, an
identifier if all its characters are letters or numbers, and invalid otherwise.
-/

namespace ReversePolish

inductive Kind where
  | number
  | identifier
  | binaryOperator
  | assignment
  | keyword
  | fold
  | invalid
  deriving Repr, DecidableEq

namespace Kind

def all : List Kind :=
  [.number, .identifier, .binaryOperator, .assignment, .keyword, .fold, .invalid]

/-- The name under which a kind is shown. -/
def name : Kind → Text
  | .number => "NUMBER".toList
  | .identifier => "IDENTIFIER".toList
  | .binaryOperator => "BINARY_OPERATOR".toList
  | .assignment => "ASSIGNMENT".toList
  | .keyword => "KEYWORD".toList
  | .fold => "FOLD".toList
  | .invalid => "INVALID".toList

def ofName? (name : Text) : Option Kind := all.find? (fun kind => kind.name = name)

end Kind

/-- The words that are read as keywords.  What they do is told elsewhere, by another list. -/
def reservedKeywords : List Text :=
  ["clear", "reset", "exit", "print", "dup", "drop", "swap"].map String.toList

/-- The words of the calculator itself.  Operators and folds that a machine learns later
    are not among them. -/
def reservedWords : List (Text × Kind) :=
  (['='], .assignment) ::
  (["+", "-", "*", "/"].map fun symbol => (symbol.toList, .binaryOperator)) ++
  (reservedKeywords.map fun word => (word, .keyword)) ++
  (["sum", "prod"].map fun name => (name.toList, .fold))

def classify (word : Text) : Kind :=
  match reservedWords.lookup word with
  | some kind => kind
  | none =>
    if NumberWord.isNumber word then .number
    else if !word.isEmpty && word.all Unicode.isAlphanumeric then .identifier
    else .invalid

/-- Number words win over identifiers, and reserved words over both. -/
example : ["1e5", "1e", "inf", "sum", "1_0"].map (fun word => classify word.toList) =
    [.number, .identifier, .number, .fold, .invalid] := by decide +kernel

structure Token where
  kind : Kind
  word : Text
  deriving Repr, DecidableEq

namespace Token

def ofWord (word : Text) : Token := ⟨classify word, word⟩

def ofWords (words : List Text) : List Token := words.map ofWord

end Token

end ReversePolish
