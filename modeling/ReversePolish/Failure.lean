import ReversePolish.Text

/-! # Failures

A failure abandons the line that is being processed.  Each kind of failure carries what
there is to know about it, and `Failure.message` has the wording of all.
-/

namespace ReversePolish

/-- What can go wrong while a line is processed. -/
inductive Failure where
  | unrecognised (token : Text)
  /-- Too few cells on the stack, for a certain purpose if one is known. -/
  | underflow (needed found : Int) (purpose : Option Text)
  | unassigned (name : Text)
  /-- Operands that a word cannot be applied to. -/
  | invalidOperands (reason : Text)
  | unknownOperator (reason : Text)
  | unknownKeyword (reason : Text)
  | other (reason : Text)
  deriving Repr, DecidableEq

namespace Failure

def message : Failure → Text
  | .unrecognised token => "unrecognised token: ".toList ++ token
  | .underflow needed found purpose =>
    let complaint := match purpose with
      | none => "stack underflow".toList
      | some purpose => "insufficient values for ".toList ++ purpose
    complaint ++ " (need ".toList ++ Text.ofInt needed ++ ", have ".toList ++ Text.ofInt found
      ++ [')']
  | .unassigned name => "variable not yet assigned: ".toList ++ name
  | .invalidOperands reason => reason
  | .unknownOperator reason => reason
  | .unknownKeyword reason => reason
  | .other reason => reason

/-- The target of an assignment is the number that is shown as `target`. -/
def assignedToNumber (target : Text) : Failure :=
  .invalidOperands ("cannot assign to ".toList ++ target)

/-- The value of an assignment is a variable without a value. -/
def assignedUnassigned (value target : Text) : Failure :=
  .invalidOperands ("cannot assign unassigned variable ".toList ++ value ++ " to ".toList ++ target)

def noOperator (symbol : Text) : Failure :=
  .unknownOperator ("unknown operator: ".toList ++ symbol)

def noFold (name : Text) : Failure := .unknownOperator ("unknown fold: ".toList ++ name)

def noKeyword (word : Text) : Failure := .unknownKeyword ("unknown keyword: ".toList ++ word)

def noKind (name : Text) : Failure := .other ("unknown token type: ".toList ++ name)

end Failure

end ReversePolish
