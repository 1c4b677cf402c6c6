import Inspector.Simulation.Program.Extended.Digits

/-!
# Fields

A value is printed in a field: it has a least width, is padded at one side, and its sign and its
digits follow the marks of the conversion.
-/

namespace Inspector.Program

structure Layout where
  /-- Padding stands at the right. -/
  toLeft : Bool := false
  /-- A number that is not negative has a plus sign. -/
  plus : Bool := false
  /-- A number that is not negative has a space for its sign. -/
  space : Bool := false
  /-- The radix is marked, and a point stays. -/
  marked : Bool := false
  /-- Padding in front is zeros. -/
  zeros : Bool := false
  /-- Digits are those of the locale's own writing. -/
  ownDigits : Bool := false
  width : Nat := 0
  precision : Option Nat := none
deriving Repr

namespace Layout

/-- The layout with the given mark as well. -/
def withMark (layout : Layout) : Char → Layout
  | '-' => { layout with toLeft := true }
  | '+' => { layout with plus := true }
  | ' ' => { layout with space := true }
  | '#' => { layout with marked := true }
  | '0' => { layout with zeros := true }
  | 'I' => { layout with ownDigits := true }
  | _ => layout

/-- The largest width and precision that a field can have. -/
def limit : Nat := (1 <<< 31) - 2

/-- Whether a field of this layout can be printed at all. -/
def isPrintable (layout : Layout) : Bool :=
  layout.width ≤ limit && layout.precision.getD 0 ≤ limit

/-- Pads a value with its front, which zeros follow and spaces do not. -/
def place (layout : Layout) (withZeros : Bool) (front body : Octets) : Octets :=
  let room := layout.width - (front.length + body.length)
  if layout.toLeft then front ++ body ++ List.replicate room ' '
  else if withZeros then front ++ List.replicate room '0' ++ body
  else List.replicate room ' ' ++ front ++ body

def sign (layout : Layout) (negative : Bool) : Octets :=
  if negative then ['-'] else if layout.plus then ['+'] else if layout.space then [' '] else []

/-- Digits of a whole number, of which the precision is the least count; zero has none if that is
zero. -/
def wholeDigits (layout : Layout) (radix n : Nat) : Octets :=
  let digits := if n = 0 && layout.precision == some 0 then [] else Nat.toDigits radix n
  List.replicate (layout.precision.getD 0 - digits.length) '0' ++ digits

/-- Whether zeros pad a whole number. -/
def padsWhole (layout : Layout) : Bool :=
  layout.zeros && layout.precision.isNone

def signed (layout : Layout) (n : Int) : Octets :=
  layout.place layout.padsWhole (layout.sign (n < 0)) (layout.wholeDigits 10 n.natAbs)

/-- Capital letters for small ones if so asked. -/
def inCase (capitals : Bool) (text : Octets) : Octets :=
  if capitals then text.map Char.toUpper else text

/-- A whole number without a sign. A marked octal number starts with a zero, and a marked
hexadecimal one other than zero with `0x`. -/
def unsigned (layout : Layout) (radix : Nat) (capitals : Bool) (n : Nat) : Octets :=
  let digits := layout.wholeDigits radix n
  let front := if layout.marked && radix == 16 && n != 0 then ['0', 'x'] else []
  let needsZero := layout.marked && radix == 8 && digits.head? != some '0'
  let body := if needsZero then '0' :: digits else digits
  inCase capitals (layout.place layout.padsWhole front body)

/-- Real numbers in digits of the locale's own writing: the C locale has none, so that their
places are empty. -/
def inOwnDigits (layout : Layout) (text : Octets) : Octets :=
  if layout.ownDigits then text.filter fun c => !c.isDigit else text

def real (layout : Layout) (form : Extended.Form) (capitals : Bool) (x : Extended) : Octets :=
  inCase capitals <| layout.inOwnDigits <|
    match x with
    | .finite negative significand exponent =>
      let radix := if form = .hexadecimal then ['0', 'x'] else []
      layout.place layout.zeros (layout.sign negative ++ radix)
        (Extended.digits form layout.precision layout.marked significand exponent)
    | .infinite negative => layout.place false (layout.sign negative) "inf".toList
    | .notANumber negative => layout.place false (layout.sign negative) "nan".toList

/-- A text, of which the precision is the greatest length. -/
def text (layout : Layout) (word : Octets) : Octets :=
  layout.place false [] ((layout.precision.map word.take).getD word)

end Layout

end Inspector.Program
