import Inspector.Simulation.Program.Extended.Basic
import Inspector.Simulation.Program.Integer

/-!
# Reading numbers of extended precision

A number is written in decimal or, after `0x`, in hexadecimal digits, with a point among them and
an exponent behind; or it is one of the words for what is not finite.
-/

namespace Inspector.Program.Extended

/-- What stands at the start of a word: a number, what follows it, and whether it is exact enough.
A number that is too large, or too small for its digits, is out of range. -/
structure Reading where
  value : Extended
  rest : Octets
  inRange : Bool := true

/-- What follows if the word starts with the given lower-case letters, in either case. -/
def afterLetters? : Octets → Octets → Option Octets
  | [], rest => some rest
  | _ :: _, [] => none
  | letter :: letters, c :: rest =>
    if c.toLower = letter then afterLetters? letters rest else none

/-- The remark in brackets that may follow the word for no number. -/
def afterRemark : Octets → Octets
  | '(' :: rest =>
    match rest.dropWhile fun c => c.isAlphanum || c == '_' with
    | ')' :: after => after
    | _ => '(' :: rest
  | word => word

/-- A value that is no finite number. -/
def special? (negative : Bool) (word : Octets) : Option Reading :=
  match afterLetters? "inf".toList word with
  | some rest =>
    some { value := infinite negative, rest := (afterLetters? "inity".toList rest).getD rest }
  | none =>
    (afterLetters? "nan".toList word).map fun rest =>
      { value := notANumber negative, rest := afterRemark rest }

/-- Digits with at most one point among them: their number, how many stand behind the point, and
what follows. There has to be a digit. -/
def pointed? (radix : Nat) (word : Octets) : Option (Nat × Nat × Octets) :=
  let (whole, rest) := splitDigits radix word
  let (fraction, after) :=
    match rest with
    | '.' :: behind => splitDigits radix behind
    | _ => ([], rest)
  if whole.isEmpty && fraction.isEmpty then none
  else some (numberOf radix (whole ++ fraction), fraction.length, after)

/-- The exponent behind a number, which its mark starts; zero if there is none. -/
def exponent (mark : Char) (word : Octets) : Int × Octets :=
  match word with
  | c :: rest =>
    let (negative, digits) := splitSign rest
    match splitDigits 10 digits with
    | ([], _) => (0, word)
    | (digits, after) =>
      let size := numberOf 10 digits
      if c.toLower = mark then (if negative then -(size : Int) else size, after) else (0, word)
  | [] => (0, [])

/-- Whether a number was rounded to one of the smallest, which have fewer bits. -/
def isTiny : Extended → Bool
  | finite _ s e => e == minExponent && s < 1 <<< (precision - 1)
  | _ => false

/-- The number nearest to a quotient, and whether it is in range. -/
def rounded (negative : Bool) (num den : Nat) (rest : Octets) : Reading :=
  let value := ofQuotient negative num den
  let isExact :=
    match value with
    | finite _ s e =>
      let (up, down) := asQuotient s e
      up * den == num * down
    | _ => false
  { value, rest, inRange := value.isFinite && (isExact || !value.isTiny) }

/-- A number far above or below all others. -/
def outOfRange (negative isLarge : Bool) (rest : Octets) : Reading :=
  { value := if isLarge then infinite negative else finite negative 0 minExponent
    rest
    inRange := false }

/-- A number times ten to the given exponent. -/
def ofDecimal (negative : Bool) (n : Nat) (exponent : Int) (rest : Octets) : Reading :=
  let magnitude := (Nat.toDigits 10 n).length + exponent
  if n = 0 then { value := finite negative 0 minExponent, rest }
  else if magnitude < -5000 ∨ 5000 < magnitude then outOfRange negative (0 < magnitude) rest
  else
    rounded negative (n * Nat.pow 10 exponent.toNat) (Nat.pow 10 (-exponent).toNat) rest

/-- A number times two to the given exponent. -/
def ofBinary (negative : Bool) (n : Nat) (exponent : Int) (rest : Octets) : Reading :=
  let magnitude := n.log2 + exponent
  if n = 0 then { value := finite negative 0 minExponent, rest }
  else if magnitude < -17000 ∨ 17000 < magnitude then outOfRange negative (0 < magnitude) rest
  else
    let (num, den) := asQuotient n exponent
    rounded negative num den rest

/-- A number in hexadecimal digits behind `0x`. -/
def hexadecimal? (negative : Bool) : Octets → Option Reading
  | '0' :: mark :: word =>
    if mark.toLower = 'x' then
      (pointed? 16 word).map fun (n, places, rest) =>
        let (power, rest) := exponent 'p' rest
        ofBinary negative n (power - 4 * places) rest
    else none
  | _ => none

def decimal? (negative : Bool) (word : Octets) : Option Reading :=
  (pointed? 10 word).map fun (n, places, rest) =>
    let (power, rest) := exponent 'e' rest
    ofDecimal negative n (power - places) rest

/-- The number at the start of a word, if there is one. -/
def read? (word : Octets) : Option Reading :=
  let (negative, digits) := splitSign (word.dropWhile isSpace)
  special? negative digits <|> hexadecimal? negative digits <|> decimal? negative digits

/-- The number that a word stands for: the character behind a quote, or the number at its start. -/
def argument (word : Octets) : Extended :=
  match quotedCharacter? word with
  | some n => ofNat n
  | none => ((read? word).map (·.value)).getD (ofNat 0)

/-- The number that a whole word stands for. -/
def whole? (word : Octets) : Option Extended := do
  let reading ← read? word
  if reading.rest.isEmpty && (reading.inRange || reading.value.isZero) then some reading.value
  else none

end Inspector.Program.Extended
