import Inspector.Text.Hexadecimal
import Inspector.Text.Utf8

/-!
# Words as programs see them

A program is given its words as bytes and knows no wider characters. A word is kept as one
character below 256 for each byte, so that it can be matched against plain characters.
-/

namespace Inspector.Program

/-- A word or a piece of output, one character for each byte. -/
abbrev Octets := List Char

namespace Octets

/-- The character that stands for the low eight bits of a number. -/
def ofNat (n : Nat) : Octets :=
  [Char.ofNat (n % 256)]

def ofText (text : String) : Octets :=
  (Text.encode text).map fun b => Char.ofNat b.toNat

/-- The bytes that the characters stand for. -/
def toBytes (octets : Octets) : Bytes :=
  octets.map fun c => UInt8.ofNat c.toNat

theorem toNat_charOfNat {n : Nat} (small : n < 256) : (Char.ofNat n).toNat = n := by
  have valid : n.isValidChar := Or.inl (by omega)
  rw [Char.ofNat, dif_pos valid]
  exact UInt32.toNat_ofNatLT

/-- Nothing is lost between a text and the bytes of its word. -/
theorem toBytes_ofText (text : String) : toBytes (ofText text) = Text.encode text := by
  have same : ∀ b : UInt8, UInt8.ofNat (Char.ofNat b.toNat).toNat = b := fun b => by
    rw [toNat_charOfNat b.toNat_lt, UInt8.ofNat_toNat]
  simp [toBytes, ofText, Function.comp_def, same]

end Octets

/-- Whether the character divides words in the sense of the C locale. -/
def isSpace (c : Char) : Bool :=
  c == ' ' || ('\t' ≤ c && c ≤ '\r')

/-! ## Digits -/

/-- What a digit of the given radix stands for. -/
def digit? (radix : Nat) (c : Char) : Option Nat :=
  (Text.Hexadecimal.value? c).filter (· < radix)

def isDigitOf (radix : Nat) (c : Char) : Bool :=
  (digit? radix c).isSome

/-- The number that digits of the given radix stand for. -/
def numberOf (radix : Nat) (digits : Octets) : Nat :=
  digits.foldl (fun n c => n * radix + (digit? radix c).getD 0) 0

/-- The digits at the start of a word, and what follows them. -/
def splitDigits (radix : Nat) (word : Octets) : Octets × Octets :=
  (word.takeWhile (isDigitOf radix), word.dropWhile (isDigitOf radix))

/-! ## Output -/

/-- What a program has printed, and whether it is still running. -/
structure Printed where
  text : Octets := []
  running : Bool := true

namespace Printed

def stop : Printed :=
  { running := false }

/-- What is printed next, unless the program has ended. -/
def andThen (first next : Printed) : Printed :=
  if first.running then { next with text := first.text ++ next.text } else first

end Printed

end Inspector.Program
