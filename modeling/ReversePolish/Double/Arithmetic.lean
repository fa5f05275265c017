import ReversePolish.Double.Rounding

/-! # Arithmetic of doubles

Each operation takes its special cases from IEEE 754 and is otherwise exact arithmetic
on units, rounded once.
-/

namespace ReversePolish.Double

/-- The same number with the other sign. -/
def neg : Double → Double
  | .nan => .nan
  | .inf s => .inf (!s)
  | .finite s rank => .finite (!s) rank

/-- The exact value of a finite double, counted in units. -/
def signedUnits (negative : Bool) (rank : Nat) : Int :=
  if negative then -(units rank : Int) else units rank

/-- The sum.  A sum that is exactly zero is positive unless both terms are negative. -/
def add : Double → Double → Double
  | .finite s a, .finite t b =>
    let total := signedUnits s a + signedUnits t b
    if total = 0 then zero (s && t) else round (total < 0) total.natAbs 1
  | .inf s, .inf t => if s = t then .inf s else .nan
  | .inf s, .finite _ _ => .inf s
  | .finite _ _, .inf t => .inf t
  | _, _ => .nan

/-- The difference, as the sum with the second number negated. -/
def sub (x y : Double) : Double := add x (neg y)

/-- The product.  An infinity times a zero is no number. -/
def mul : Double → Double → Double
  | .finite s a, .finite t b => round (s != t) (units a * units b) (Nat.pow 2 1074)
  | .inf s, .inf t => .inf (s != t)
  | .inf s, .finite t b => if b.val = 0 then .nan else .inf (s != t)
  | .finite s a, .inf t => if a.val = 0 then .nan else .inf (s != t)
  | _, _ => .nan

/-- The quotient by a divisor that is not a zero. -/
def ratio : Double → Double → Double
  | .finite s a, .finite t b => round (s != t) (units a * Nat.pow 2 1074) (units b)
  | .inf s, .finite t _ => .inf (s != t)
  | .finite s _, .inf t => zero (s != t)
  | _, _ => .nan

/-- Why an operation on two doubles gives none. -/
inductive ArithmeticError where
  | zeroDivisor
  deriving Repr, DecidableEq

/-- The quotient, refused if the divisor is a zero, whatever it is to divide. -/
def checkedDiv (x y : Double) : Except ArithmeticError Double :=
  if y.equal (zero false) then .error .zeroDivisor else .ok (ratio x y)

/-- Whether the sign is minus; the one nan has no sign and counts as positive. -/
def isNegative : Double → Bool
  | .nan => false
  | .inf negative | .finite negative _ => negative

/-- The number with the magnitude of the first double and the sign of the second. -/
def copySign (magnitude sign : Double) : Double :=
  match magnitude with
  | .nan => .nan
  | .inf _ => .inf sign.isNegative
  | .finite _ rank => .finite sign.isNegative rank

/-- The quotient for all pairs.  Where a zero divisor is refused, a number divided by it is infinite
    with the signs of both, and a zero or a nan divided by it is no number. -/
def div (x y : Double) : Double :=
  match checkedDiv x y with
  | .ok quotient => quotient
  | .error .zeroDivisor =>
    if x.equal (zero false) || x = .nan then .nan
    else mul (copySign (.inf false) x) (copySign one y)

end ReversePolish.Double
