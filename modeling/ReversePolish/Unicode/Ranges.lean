/-! # Sets of code points

A property of characters is given as the list of its runs of code points, in
ascending order.  The order lets a look-up stop at the first run that lies beyond
the code point asked for.
-/

namespace ReversePolish.Unicode

/-- A set of code points: first and last code point of each run, runs ascending. -/
abbrev Ranges := List (Nat × Nat)

namespace Ranges

def contains : Ranges → Nat → Bool
  | [], _ => false
  | (first, last) :: later, code =>
    if code < first then false else code ≤ last || contains later code

end Ranges

end ReversePolish.Unicode
