import Inspector.Simulation.Program.Extended.Numeral
import Inspector.Simulation.Program.Escape
import Inspector.Simulation.Program.Layout
import Inspector.Simulation.Program.Quoting

/-!
# `printf`

The first word is a format: text with escapes, and conversions that each print one of the other
words. The format is gone through again as long as it takes up words. A mistake in the format ends
the program where it stands.
-/

namespace Inspector.Program.Printf

/-! ## Formats -/

/-- A width or a precision: a number, or the next word. -/
inductive Amount where
  | given (n : Nat)
  | nextWord
deriving Repr

/-- What a conversion makes of its word. -/
inductive Kind where
  | character
  | text
  | signed
  | unsigned (radix : Nat) (capitals : Bool)
  | real (form : Extended.Form) (capitals : Bool)
deriving Repr

/-- A conversion with its marks, its width and its precision. -/
structure Conversion where
  marks : Octets
  width : Amount
  precision : Option Amount
  kind : Kind
deriving Repr

inductive Piece where
  /-- Prints this text, and may end the program. -/
  | plain (printed : Printed)
  /-- Prints a word with its escapes carried out. -/
  | escaped
  /-- Prints a word as it is written for a shell. -/
  | quoted
  | conversion (c : Conversion)

def kind? : Char → Option Kind
  | 'c' => some .character
  | 's' => some .text
  | 'd' | 'i' => some .signed
  | 'o' => some (.unsigned 8 false)
  | 'u' => some (.unsigned 10 false)
  | 'x' => some (.unsigned 16 false)
  | 'X' => some (.unsigned 16 true)
  | 'f' => some (.real .fixed false)
  | 'F' => some (.real .fixed true)
  | 'e' => some (.real .scientific false)
  | 'E' => some (.real .scientific true)
  | 'g' => some (.real .general false)
  | 'G' => some (.real .general true)
  | 'a' => some (.real .hexadecimal false)
  | 'A' => some (.real .hexadecimal true)
  | _ => none

def isMark (c : Char) : Bool :=
  "-+ #0'I".toList.contains c

/-- Whether a mark may stand with a letter. -/
def allows (mark letter : Char) : Bool :=
  match mark with
  | '\'' | 'I' => !"aAceEosxX".toList.contains letter
  | '#' => !"cdisu".toList.contains letter
  | '0' => !"cs".toList.contains letter
  | _ => true

/-- A width or a precision at the start of a format; without digits it is zero. -/
def splitAmount : Octets → Amount × Octets
  | '*' :: rest => (.nextWord, rest)
  | format =>
    let (digits, rest) := splitDigits 10 format
    (.given (numberOf 10 digits), rest)

/-- A precision, if a point starts one. -/
def splitPrecision : Octets → Option Amount × Octets
  | '.' :: rest =>
    let (amount, rest) := splitAmount rest
    (some amount, rest)
  | format => (none, format)

/-- The conversion behind a percent sign, and the rest of the format. -/
def conversion? (format : Octets) : Option (Conversion × Octets) := do
  let marks := format.takeWhile isMark
  let (width, rest) := splitAmount (format.drop marks.length)
  let (precision, rest) := splitPrecision rest
  match rest.dropWhile "lLhjtz".toList.contains with
  | letter :: rest =>
    let kind ← kind? letter
    if marks.all (allows · letter) && (letter != 'c' || precision.isNone) then
      return ({ marks, width, precision, kind }, rest)
    else none
  | [] => none

/-- The piece behind a percent sign, and the rest of the format. -/
def directive : Octets → Piece × Octets
  | '%' :: rest => (.plain { text := ['%'] }, rest)
  | 'b' :: rest => (.escaped, rest)
  | 'q' :: rest => (.quoted, rest)
  | format =>
    match conversion? format with
    | some (conversion, rest) => (.conversion conversion, rest)
    | none => (.plain Printed.stop, [])

/-- The pieces of a format. Each takes a character at least. -/
def piecesFrom : (fuel : Nat) → Octets → List Piece
  | 0, _ | _, [] => []
  | fuel + 1, '%' :: rest =>
    let (piece, rest) := directive rest
    piece :: piecesFrom fuel rest
  | fuel + 1, '\\' :: rest =>
    let (printed, rest) := printfEscape false rest
    .plain printed :: piecesFrom fuel rest
  | fuel + 1, c :: rest => .plain { text := [c] } :: piecesFrom fuel rest

def pieces (format : Octets) : List Piece :=
  piecesFrom format.length format

/-! ## Printing -/

/-- The number that a width or a precision stands for, and the words left over; zero if there is no
word for it. -/
def Amount.resolve : Amount → List Octets → Int × List Octets
  | given n, words => (n, words)
  | nextWord, word :: words => (signedArgument word, words)
  | nextWord, [] => (0, [])

/-- Whether a word may be used as a width or a precision of this size. -/
def fitsWord (n : Int) : Bool :=
  -(1 <<< 31 : Nat) ≤ n && n < (1 <<< 31 : Nat)

/-- The layout of a conversion, and the words left over. A negative width is one with padding at
the right, and a negative precision is none. A word that is no width or precision ends the
program. -/
def Conversion.layout? (conversion : Conversion) (words : List Octets) :
    Option (Layout × List Octets) := do
  let marked := conversion.marks.foldl Layout.withMark {}
  let (width, words) := conversion.width.resolve words
  let isWord := conversion.width matches .nextWord
  if isWord && !fitsWord width then none
  let placed := { marked with toLeft := marked.toLeft || width < 0, width := width.natAbs }
  match conversion.precision with
  | none => return (placed, words)
  | some amount =>
    let (precision, words) := amount.resolve words
    if (amount matches .nextWord) && (1 <<< 31 : Nat) ≤ precision then none
    if precision < 0 then return (placed, words)
    else return ({ placed with precision := some precision.toNat }, words)

/-- What a word prints in a field. -/
def Kind.render (kind : Kind) (layout : Layout) (word : Octets) : Octets :=
  match kind with
  | character => layout.text [word.headD (Char.ofNat 0)]
  | text => layout.text word
  | signed => layout.signed (signedArgument word)
  | unsigned radix capitals => layout.unsigned radix capitals (unsignedArgument word)
  | real form capitals => layout.real form capitals (Extended.argument word)

/-- What a piece prints, and the words left over. A field that is too wide prints nothing. -/
def Piece.print (piece : Piece) (words : List Octets) : Printed × List Octets :=
  match piece with
  | plain printed => (printed, words)
  | escaped => ((printfEscape true).apply (words.headD []), words.tail)
  | quoted => ({ text := (words.head?.map Quoting.quote).getD [] }, words.tail)
  | conversion c =>
    match c.layout? words with
    | none => (Printed.stop, words)
    | some (layout, words) =>
      let text := if layout.isPrintable then c.kind.render layout (words.headD []) else []
      ({ text }, words.tail)

def pass : List Piece → List Octets → Printed × List Octets
  | [], words => ({}, words)
  | piece :: pieces, words =>
    let (first, words) := piece.print words
    let (others, left) := pass pieces words
    (first.andThen others, left)

/-- Goes through the format until it takes up no more words. -/
def passes (pieces : List Piece) : (fuel : Nat) → List Octets → Printed
  | 0, _ => {}
  | fuel + 1, words =>
    let (printed, left) := pass pieces words
    if left.isEmpty || words.length ≤ left.length then printed
    else printed.andThen (passes pieces fuel left)

/-- What `printf` prints for the given words. Two dashes in front are left out. -/
def run (words : List Octets) : Octets :=
  let words := if words.head? = some ['-', '-'] then words.tail else words
  match words with
  | [] => []
  | format :: arguments => (passes (pieces format) (arguments.length + 1) arguments).text

end Inspector.Program.Printf
