/-! # Objects

What a stack or a table holds are objects, and two of them can have the same value.  No word of the
calculator asks which object it works on.  Only to compare stacks or tables is to ask: an object
counts as the same as itself before values are looked at.  That matters to a value that does not
equal itself.
-/

namespace ReversePolish

/-- An object with a value; the mark tells it apart from other objects with this value. -/
structure Held (α : Type) where
  value : α
  mark : Nat
  deriving Repr, DecidableEq

/-- Whether two objects are one, or have equal values. -/
def Held.same {α : Type} [DecidableEq α] (equal : α → α → Bool) (x y : Held α) : Bool :=
  x = y || equal x.value y.value

end ReversePolish
