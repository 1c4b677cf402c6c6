import Inspector.Simulation.Program.Extended.Basic
import Inspector.Simulation.Program.Octets

/-!
# Writing numbers of extended precision

The digits of a number without its sign, in four forms: with a fixed number of places behind the
point, with one digit in front of it and an exponent behind, in whichever of these two is shorter,
and in hexadecimal digits. All of them round to the nearest, and a tie goes to the even digit.
-/

namespace Inspector.Program.Extended

/-- How the digits of a number are written. -/
inductive Form where
  | fixed
  | scientific
  | general
  | hexadecimal
deriving DecidableEq, Repr

/-- Digits with a point in front of the last `places`; a point that has nothing behind it is left
out unless `keepPoint` says otherwise. -/
def withPoint (places : Nat) (keepPoint : Bool) (digits : Octets) : Octets :=
  let padded := List.replicate (places + 1 - digits.length) '0' ++ digits
  let point := if places = 0 && !keepPoint then [] else ['.']
  padded.take (padded.length - places) ++ point ++ padded.drop (padded.length - places)

/-- So many places that all behind them are zeros, whichever digit of a number they start from. -/
def enoughPlaces (exponent : Int) : Nat :=
  20 + exponent.natAbs

/-- The digits of a number with so many places behind the point. -/
def fixedDigits (places : Nat) (keepPoint : Bool) (significand : Nat) (exponent : Int) : Octets :=
  let (num, den) := asQuotient significand exponent
  let kept := min places (enoughPlaces exponent)
  let nearest := nearestQuotient (num * Nat.pow 10 kept) den
  withPoint kept keepPoint (Nat.toDigits 10 nearest) ++ List.replicate (places - kept) '0'

/-- The largest power of ten that is not above a quotient. -/
def decimalMagnitude (num den : Nat) : Int :=
  if den ≤ num then ((Nat.toDigits 10 (num / den)).length : Int) - 1
  else
    let length := (Nat.toDigits 10 (den / num)).length
    if den = num * Nat.pow 10 (length - 1) then 1 - length else -length

/-- The first `places + 1` digits of a number as a whole number, and the power of ten of the first
of them. -/
def leadingDigits (places significand : Nat) (exponent : Int) : Nat × Int :=
  if significand = 0 then (0, 0)
  else
    let (num, den) := asQuotient significand exponent
    let magnitude := decimalMagnitude num den
    let shift : Int := places - magnitude
    let nearest :=
      nearestQuotient (num * Nat.pow 10 shift.toNat) (den * Nat.pow 10 (-shift).toNat)
    if nearest = Nat.pow 10 (places + 1) then (nearest / 10, magnitude + 1)
    else (nearest, magnitude)

/-- An exponent with its mark and its sign, in so many digits at least. -/
def exponentText (mark : Char) (room : Nat) (exponent : Int) : Octets :=
  let digits := Nat.toDigits 10 exponent.natAbs
  mark :: (if exponent < 0 then '-' else '+') ::
    (List.replicate (room - digits.length) '0' ++ digits)

/-- One digit, the point, so many places and the exponent. -/
def scientificDigits (places : Nat) (keepPoint : Bool) (significand : Nat) (exponent : Int) :
    Octets :=
  let kept := min places (enoughPlaces exponent)
  let (digits, power) := leadingDigits kept significand exponent
  withPoint kept keepPoint (Nat.toDigits 10 digits) ++ List.replicate (places - kept) '0' ++
    exponentText 'e' 2 power

/-- The places behind a point without the zeros at their end, nor the point if they are all zeros;
what follows the places is kept. -/
def trimPlaces (text : Octets) : Octets :=
  let digits := text.takeWhile (· != 'e')
  let trimmed := (digits.reverse.dropWhile (· == '0')).dropWhile (· == '.')
  if digits.contains '.' then trimmed.reverse ++ text.dropWhile (· != 'e') else text

/-- So many digits in all, of which the exponent decides the form. Zeros at the end are left out
unless `keepPoint` says otherwise. -/
def generalDigits (count : Nat) (keepPoint : Bool) (significand : Nat) (exponent : Int) : Octets :=
  let places := count - 1
  let (_, power) := leadingDigits (min places (enoughPlaces exponent)) significand exponent
  let text :=
    if -4 ≤ power ∧ power < count then
      fixedDigits (places - power).toNat keepPoint significand exponent
    else scientificDigits places keepPoint significand exponent
  if keepPoint then text else trimPlaces text

/-- The hexadecimal digits of a significand with so many behind the point, and whether they run
over. -/
def hexadecimalDigits (places significand : Nat) : Octets × Bool :=
  let kept := min places 15
  let nearest := nearestQuotient significand (1 <<< (4 * (15 - kept)))
  let runsOver := nearest = 1 <<< (4 * (kept + 1))
  let digits := Nat.toDigits 16 (if runsOver then nearest / 16 else nearest)
  (List.replicate (kept + 1 - digits.length) '0' ++ digits ++ List.replicate (places - kept) '0',
    runsOver)

/-- The hexadecimal digits of a number and the power of two behind them; all that differ from zero
if no number of places is given. -/
def hexadecimalText (places : Option Nat) (keepPoint : Bool) (significand : Nat) (exponent : Int) :
    Octets :=
  let count := places.getD (15 - ((hexadecimalDigits 15 significand).1.reverse.takeWhile
    (· == '0')).length)
  let (digits, runsOver) := hexadecimalDigits count significand
  let power := if significand = 0 then 0 else exponent + 60 + (if runsOver then 4 else 0)
  withPoint count keepPoint digits ++ exponentText 'p' 1 power

/-- The digits of a finite number in the given form. -/
def digits (form : Form) (places : Option Nat) (keepPoint : Bool) (significand : Nat)
    (exponent : Int) : Octets :=
  match form with
  | .fixed => fixedDigits (places.getD 6) keepPoint significand exponent
  | .scientific => scientificDigits (places.getD 6) keepPoint significand exponent
  | .general => generalDigits (max 1 (places.getD 6)) keepPoint significand exponent
  | .hexadecimal => hexadecimalText places keepPoint significand exponent

end Inspector.Program.Extended
