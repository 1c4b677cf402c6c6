import Inspector.Simulation.Program.Octets

/-!
# Whole numbers in words

A number may have a sign, and a mark in front tells its radix. Words that go on after the number
give the number all the same, and words without one give zero. Numbers that are too large are the
nearest ones of 64 bits.
-/

namespace Inspector.Program

/-- A sign in front of a number, and what follows it. -/
def splitSign : Octets → Bool × Octets
  | '-' :: rest => (true, rest)
  | '+' :: rest => (false, rest)
  | rest => (false, rest)

/-- The radix that the mark in front of the digits tells, and the digits. A mark without a digit
behind it is none. -/
def splitRadix : Octets → Nat × Octets
  | '0' :: mark :: digit :: rest =>
    if (mark == 'x' || mark == 'X') && isDigitOf 16 digit then (16, digit :: rest)
    else if (mark == 'b' || mark == 'B') && isDigitOf 2 digit then (2, digit :: rest)
    else (8, '0' :: mark :: digit :: rest)
  | '0' :: rest => (8, '0' :: rest)
  | word => (10, word)

/-- The sign and the size of the number at the start of a word. -/
def leadingInteger (word : Octets) : Bool × Nat :=
  let (negative, rest) := splitSign (word.dropWhile isSpace)
  let (radix, digits) := splitRadix rest
  (negative, numberOf radix (splitDigits radix digits).1)

/-- The character behind a quote in front, which stands for its number. -/
def quotedCharacter? : Octets → Option Nat
  | '"' :: c :: _ | '\'' :: c :: _ => some c.toNat
  | _ => none

/-- The number with a sign that a word stands for. -/
def signedArgument (word : Octets) : Int :=
  match quotedCharacter? word with
  | some n => n
  | none =>
    let (negative, size) := leadingInteger word
    if negative then -(min size (1 <<< 63) : Nat) else (min size ((1 <<< 63) - 1) : Nat)

/-- The number without a sign that a word stands for; a negative one counts down from the top. -/
def unsignedArgument (word : Octets) : Nat :=
  match quotedCharacter? word with
  | some n => n
  | none =>
    let (negative, size) := leadingInteger word
    if UInt64.size ≤ size then UInt64.size - 1
    else if negative then (UInt64.size - size) % UInt64.size
    else size

end Inspector.Program
