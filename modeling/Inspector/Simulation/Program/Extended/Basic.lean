/-!
# Numbers of extended precision

Binary floating-point numbers with a significand of 64 bits and an exponent of 15. Every result is
the exact one rounded to the nearest such number, and a tie goes to the even neighbour.
-/

namespace Inspector.Program

/-- A number of extended precision; a finite one is `significand` times two to the `exponent`. -/
inductive Extended where
  | finite (negative : Bool) (significand : Nat) (exponent : Int)
  | infinite (negative : Bool)
  | notANumber (negative : Bool)
deriving DecidableEq, Repr

namespace Extended

/-- The bits of a significand. -/
def precision : Nat := 64

/-- The exponent of the smallest numbers. -/
def minExponent : Int := -16445

/-- The exponent of the largest numbers. -/
def maxExponent : Int := 16320

/-- The whole number nearest to a quotient; of two nearest ones it is the even one. -/
def nearestQuotient (num den : Nat) : Nat :=
  let quotient := num / den
  let rest := num % den
  if den < 2 * rest ∨ 2 * rest = den ∧ quotient % 2 = 1 then quotient + 1 else quotient

/-- A number times two to the given exponent, as a quotient. -/
def asQuotient (n : Nat) (exponent : Int) : Nat × Nat :=
  (n <<< exponent.toNat, 1 <<< (-exponent).toNat)

/-- The largest power of two that is not above a quotient. -/
def binaryMagnitude (num den : Nat) : Int :=
  let guess := (num.log2 : Int) - den.log2
  let (low, high) := asQuotient 1 guess
  if den * low ≤ num * high then guess else guess - 1

def ofQuotient (negative : Bool) (num den : Nat) : Extended :=
  if num = 0 then finite negative 0 minExponent
  else
    let exponent := max minExponent (binaryMagnitude num den - (precision - 1 : Nat))
    let (up, down) := asQuotient 1 exponent
    let nearest := nearestQuotient (num * down) (den * up)
    let (significand, exponent) :=
      if nearest = 1 <<< precision then (nearest / 2, exponent + 1) else (nearest, exponent)
    if maxExponent < exponent then infinite negative else finite negative significand exponent

/-- The number nearest to a whole number times a power of two. -/
def ofScaled (negative : Bool) (n : Nat) (exponent : Int) : Extended :=
  let (num, den) := asQuotient n exponent
  ofQuotient negative num den

def ofNat (n : Nat) : Extended :=
  ofQuotient false n 1

/-- A finite number in units of two to the given exponent, which is not above its own. -/
def inUnits (unit : Int) (negative : Bool) (significand : Nat) (exponent : Int) : Int :=
  let size : Int := (significand <<< (exponent - unit).toNat : Nat)
  if negative then -size else size

/-- The sum of two numbers. A sum of zero is negative only if both numbers are. -/
def add : Extended → Extended → Extended
  | finite n s e, finite n' s' e' =>
    let unit := min e e'
    let total := inUnits unit n s e + inUnits unit n' s' e'
    ofScaled (if total = 0 then n && n' else total < 0) total.natAbs unit
  | finite .., infinite n | infinite n, finite .. => infinite n
  | infinite n, infinite n' => if n = n' then infinite n else notANumber true
  | notANumber n, _ | _, notANumber n => notANumber n

def mul : Extended → Extended → Extended
  | finite n s e, finite n' s' e' => ofScaled (n != n') (s * s') (e + e')
  | finite n s _, infinite n' | infinite n', finite n s _ =>
    if s = 0 then notANumber true else infinite (n != n')
  | infinite n, infinite n' => infinite (n != n')
  | notANumber n, _ | _, notANumber n => notANumber n

def isBelow : Extended → Extended → Bool
  | finite n s e, finite n' s' e' =>
    let unit := min e e'
    inUnits unit n s e < inUnits unit n' s' e'
  | finite .., infinite n => !n
  | infinite n, finite .. => n
  | infinite n, infinite n' => n && !n'
  | notANumber _, _ | _, notANumber _ => false

/-- Whether two numbers have the same value. -/
def sameValue : Extended → Extended → Bool
  | notANumber _, _ | _, notANumber _ => false
  | x, y => !x.isBelow y && !y.isBelow x

def isZero : Extended → Bool
  | finite _ s _ => s == 0
  | _ => false

def isFinite : Extended → Bool
  | finite .. => true
  | _ => false

end Extended

end Inspector.Program
