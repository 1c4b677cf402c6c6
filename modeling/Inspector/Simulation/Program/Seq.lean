import Inspector.Simulation.Program.Extended.Numeral
import Inspector.Simulation.Program.Layout

/-!
# `seq`

The numbers from a first to a last one are printed. Whole numbers that are only counted up are
exact; all others are numbers of extended precision, printed with as many places as the operands
have.
-/

namespace Inspector.Program.Seq

/-! ## Options -/

structure Settings where
  equalWidth : Bool := false
  separator : Octets := ['\n']
  format : Option Octets := none

inductive Choice where
  | equalWidth
  | separator
  | format
  /-- Asks for information about the program. -/
  | information

/-- The long names of the options. -/
def longNames : List (String × Choice) :=
  [("equal-width", .equalWidth), ("format", .format), ("separator", .separator),
    ("help", .information), ("version", .information)]

/-- The option whose long name starts with the given letters. -/
def longChoice? (name : Octets) : Option Choice :=
  match longNames.filter fun (long, _) => !name.isEmpty && name.isPrefixOf long.toList with
  | [(_, choice)] => some choice
  | _ => none

/-- The settings with an option and its value. -/
def Settings.set (settings : Settings) (choice : Choice) (value : Octets) : Option Settings :=
  match choice with
  | .equalWidth => some { settings with equalWidth := true }
  | .separator => some { settings with separator := value }
  | .format => some { settings with format := some value }
  | .information => none

def Choice.hasValue : Choice → Bool
  | separator | format => true
  | equalWidth | information => false

/-- The settings after the letters of one word, and the words behind it. A letter that wants a
value takes the rest of its word, or else the next word. -/
def shortOptions (settings : Settings) : Octets → List Octets → Option (Settings × List Octets)
  | [], words => some (settings, words)
  | 'w' :: letters, words => shortOptions { settings with equalWidth := true } letters words
  | [letter], words => do
    let value ← words.head?
    if letter = 's' then some ({ settings with separator := value }, words.tail)
    else if letter = 'f' then some ({ settings with format := some value }, words.tail)
    else none
  | letter :: value, words =>
    if letter = 's' then some ({ settings with separator := value }, words)
    else if letter = 'f' then some ({ settings with format := some value }, words)
    else none

/-- The settings after an option with a long name, and the words behind it. -/
def longOption (settings : Settings) (text : Octets) (words : List Octets) :
    Option (Settings × List Octets) := do
  let choice ← longChoice? (text.takeWhile (· != '='))
  match text.dropWhile (· != '='), choice.hasValue with
  | _ :: value, true => return (← settings.set choice value, words)
  | _ :: _, false => none
  | [], true => return (← settings.set choice (← words.head?), words.tail)
  | [], false => return (← settings.set choice [], words)

/-- Whether a word starts like a negative number. -/
def isNegativeNumber : Octets → Bool
  | '-' :: c :: _ => c == '.' || c.isDigit
  | _ => false

/-- The settings after the options in front, and the operands behind them. Each step takes a word
at least. -/
def options (settings : Settings) : (fuel : Nat) → List Octets → Option (Settings × List Octets)
  | 0, words => some (settings, words)
  | _, [] => some (settings, [])
  | fuel + 1, word :: words =>
    if isNegativeNumber word then some (settings, word :: words)
    else
      match word with
      | ['-', '-'] => some (settings, words)
      | '-' :: '-' :: text => do
        let (settings, words) ← longOption settings text words
        options settings fuel words
      | '-' :: letter :: letters => do
        let (settings, words) ← shortOptions settings (letter :: letters) words
        options settings fuel words
      | _ => some (settings, word :: words)

/-! ## Operands -/

/-- An operand: its value, the width of its text, and the places behind its point if they can be
told. -/
structure Operand where
  value : Extended := Extended.ofNat 1
  width : Int := 1
  precision : Option Nat := some 0

/-- What stands behind the mark of an exponent, if there is one. -/
def afterExponentMark? (text : Octets) : Option Octets :=
  let behind (mark : Char) := (text.dropWhile (· != mark)).tail?
  behind 'e' <|> behind 'E'

/-- The number at the start of an exponent. -/
def exponentValue (text : Octets) : Int :=
  let (negative, digits) := splitSign text
  let size : Int := (min (numberOf 10 (splitDigits 10 digits).1) ((1 <<< 63) - 1) : Nat)
  if negative then -size else size

/-- How many places stand behind the point of a number, if it has one. -/
def places? (text : Octets) : Option Nat :=
  match text.dropWhile (· != '.') with
  | _ :: behind => some (behind.takeWhile fun c => c != 'e' && c != 'E').length
  | [] => none

/-- What the point of a number adds to its width when it is printed in full: a point with nothing
behind it is left out, and one with no digit in front is given a zero. -/
def pointWidth (text : Octets) : Int :=
  match places? text with
  | none => 0
  | some 0 => -1
  | some _ =>
    let front := text.takeWhile (· != '.')
    if (front.getLast?.map Char.isDigit).getD false then 0 else 1

/-- The width and the places of a number in decimal digits when it is printed in full. -/
def decimalShape (text : Octets) : Int × Nat :=
  let places := (places? text).getD 0
  let hasPoint := (places? text).isSome
  let width := text.length + pointWidth text
  match afterExponentMark? text with
  | none => (width, places)
  | some behind =>
    let exponent := exponentValue behind
    let width := width - (behind.length + 1)
    if exponent < 0 then
      let width := if !hasPoint || places = 0 then width + 1 else width
      (width - exponent, places + exponent.natAbs)
    else
      let left := places - exponent.toNat
      let width := if hasPoint && left = 0 && places ≠ 0 then width - 1 else width
      (width + (exponent.toNat - places : Nat), left)

def operand? (word : Octets) : Option Operand := do
  let value ← Extended.whole? word
  let text := word.dropWhile fun c => isSpace c || c == '+'
  match value with
  | .notANumber _ => none
  | .finite .. =>
    if text.contains 'x' || text.contains 'X' then
      let isWhole := !text.contains '.' && !text.contains 'p'
      return { value, width := 0, precision := if isWhole then some 0 else none }
    else
      let (width, places) := decimalShape text
      return { value, width, precision := some places }
  | .infinite _ => return { value, width := 0, precision := some 0 }

/-! ## Formats -/

/-- How a number is printed: in a field, with text around it. -/
structure Format where
  before : Octets := []
  layout : Layout
  form : Extended.Form
  capitals : Bool := false
  behind : Octets := []

def Format.field (format : Format) (x : Extended) : Octets :=
  format.layout.real format.form format.capitals x

def Format.render (format : Format) (x : Extended) : Octets :=
  format.before ++ format.field x ++ format.behind

/-- The text up to a percent sign, of which two stand for one, and what follows that sign; `none`
if there is no such sign. -/
def splitPercent : Octets → Octets × Option Octets
  | [] => ([], none)
  | '%' :: '%' :: rest =>
    let (text, behind) := splitPercent rest
    ('%' :: text, behind)
  | '%' :: rest => ([], some rest)
  | c :: rest =>
    let (text, behind) := splitPercent rest
    (c :: text, behind)

def form? : Char → Option (Extended.Form × Bool)
  | 'f' => some (.fixed, false)
  | 'F' => some (.fixed, true)
  | 'e' => some (.scientific, false)
  | 'E' => some (.scientific, true)
  | 'g' => some (.general, false)
  | 'G' => some (.general, true)
  | 'a' => some (.hexadecimal, false)
  | 'A' => some (.hexadecimal, true)
  | _ => none

/-- The precision at the start of a text, and what follows it. -/
def splitPrecision : Octets → Option Nat × Octets
  | '.' :: rest =>
    let (digits, rest) := splitDigits 10 rest
    (some (numberOf 10 digits), rest)
  | text => (none, text)

/-- The format that a word stands for. It has exactly one field. -/
def format? (word : Octets) : Option Format := do
  let (before, field) := splitPercent word
  let field ← field
  let marks := field.takeWhile "-+#0 '".toList.contains
  let (digits, rest) := splitDigits 10 (field.drop marks.length)
  let (precision, rest) := splitPrecision rest
  let rest := if rest.head? = some 'L' then rest.tail else rest
  let (form, capitals) ← rest.head?.bind form?
  let (behind, another) := splitPercent rest.tail
  let layout := { marks.foldl Layout.withMark {} with width := numberOf 10 digits, precision }
  if another.isSome || !layout.isPrintable then none
  return { before, layout, form, capitals, behind }

/-- The format for operands without a format of their own. All numbers have as many places as the
first one and the step; for equal widths they are padded with zeros to the wider end. -/
def defaultFormat (equalWidth : Bool) (first step last : Operand) : Format :=
  match first.precision, step.precision, last.precision with
  | some a, some b, some c =>
    let places := max a b
    let pointIf (missing : Bool) : Int := if missing && places ≠ 0 then 1 else 0
    let firstWidth := first.width + (places - a) + pointIf (a = 0)
    let lastWidth := last.width + ((places : Int) - c) + pointIf (c = 0) -
      (if c ≠ 0 && places = 0 then 1 else 0)
    let width := if equalWidth then (max firstWidth lastWidth).toNat else 0
    { layout := { width, zeros := equalWidth, precision := some places }, form := .fixed }
  | _, _, _ => { layout := {}, form := .general }

/-! ## Numbers -/

/-- The largest step by which whole numbers are counted exactly. -/
def maxExactStep : Nat := 200

/-- The natural numbers from the first on, so many of them. -/
def countUp (step : Nat) : (count first : Nat) → List Octets
  | 0, _ => []
  | count + 1, first => Nat.toDigits 10 first :: countUp step count (first + step)

/-- The natural numbers from the first to the last, unless there are none. -/
def exactNumbers? (first step last : Nat) : Option (List Octets) :=
  if first ≤ last then some (countUp step ((last - first) / step + 1) first) else none

/-- A natural number in digits alone. -/
def digitsOnly? (word : Octets) : Option Nat :=
  if !word.isEmpty && word.all (isDigitOf 10) then some (numberOf 10 word) else none

/-- The natural number that a number is nearest to; none if its sign is negative. -/
def natural? : Extended → Option Nat
  | .finite false significand exponent =>
    let (num, den) := Extended.asQuotient significand exponent
    some (Extended.nearestQuotient num den)
  | _ => none

/-- Whether a number is past the last one, in the direction of the step. -/
def isPast (step last x : Extended) : Bool :=
  if step.isBelow (Extended.ofNat 0) then x.isBelow last else last.isBelow x

/-- Whether a number past the last one is printed all the same: it reads as the last one, and not
like the number before it. -/
def isLastInPrint (format : Format) (last before x : Extended) : Bool :=
  match Extended.whole? (format.field x) with
  | some value => value.sameValue last && format.field before != format.field x
  | none => false

/-- The numbers that follow `x`, of which `i` is the next one's place. -/
def numbersAfter (format : Format) (first step last : Extended) :
    (fuel i : Nat) → (x : Extended) → List Octets
  | 0, _, _ => []
  | fuel + 1, i, x =>
    let next := first.add ((Extended.ofNat i).mul step)
    if isPast step last next then
      if isLastInPrint format last x next then [format.render next] else []
    else format.render next :: numbersAfter format first step last fuel (i + 1) next

/-- A bound on how many numbers there can be; none for numbers without an end. Rounding may hold
the numbers back, but by no more than a unit of the last one. -/
def bound? : (first step last : Extended) → Option Nat
  | .finite n s e, .finite _ s' e', .finite n'' s'' e'' =>
    let unit := min e (min e' e'')
    let distance := Extended.inUnits unit n'' s'' e'' - Extended.inUnits unit n s e
    let size := Extended.inUnits unit false s' e'
    let slack := Extended.inUnits unit false 4 e''
    some ((2 * distance.natAbs + slack.toNat) / size.toNat + 4)
  | .finite .., .infinite _, .finite .. => some 1
  | _, _, _ => none

/-- The numbers from the first to the last in a format. Numbers without an end are not printed. -/
def numbers (format : Format) (first step last : Extended) : List Octets :=
  if isPast step last first then []
  else
    match bound? first step last with
    | none => []
    | some bound => format.render first :: numbersAfter format first step last bound 1 first

/-! ## The program -/

/-- The words for the first number, the step and the last number. -/
structure Operands where
  first : Option Octets := none
  step : Option Octets := none
  last : Octets

/-- The operands that the words stand for by their places. -/
def operands? : List Octets → Option Operands
  | [last] => some { last }
  | [first, last] => some { first := some first, last }
  | [first, step, last] => some { first := some first, step := some step, last }
  | _ => none

/-- Whether whole numbers may be counted exactly. -/
def Settings.allowsExact (settings : Settings) : Bool :=
  !settings.equalWidth && settings.format.isNone && settings.separator.length == 1

/-- The numbers, if the operands are digits alone and may be counted exactly. -/
def digitNumbers? (operands : Operands) : Option (List Octets) := do
  let first ← digitsOnly? (operands.first.getD ['1'])
  let step ← digitsOnly? (operands.step.getD ['1'])
  let last ← digitsOnly? operands.last
  if 0 < step ∧ step ≤ maxExactStep then exactNumbers? first step last else none

/-- The numbers, if the operands are whole and may be counted exactly. -/
def wholeNumbers? (first step last : Operand) : Option (List Octets) := do
  let isWhole := [first, step, last].all fun operand => operand.precision == some 0
  let a ← natural? first.value
  let b ← natural? step.value
  let c ← natural? last.value
  if isWhole && 0 < b && b ≤ maxExactStep then exactNumbers? a b c else none

/-- The numbers for the given operands, each as it is printed; none if an operand is no number or
the step is zero. -/
def lines? (settings : Settings) (operands : Operands) : Option (List Octets) := do
  let first ← (operands.first.map operand?).getD (some {})
  let step ← (operands.step.map operand?).getD (some {})
  let last ← operand? operands.last
  if step.value.isZero then none
  let format ← match settings.format with
    | some word => format? word
    | none => some (defaultFormat settings.equalWidth first step last)
  let exact := if settings.allowsExact then wholeNumbers? first step last else none
  return exact.getD (numbers format first.value step.value last.value)

/-- What `seq` prints for the given words. -/
def run (words : List Octets) : Octets :=
  let printed := do
    let (settings, words) ← options {} words.length words
    let operands ← operands? words
    if settings.equalWidth && settings.format.isSome then none
    let exact := if settings.allowsExact then digitNumbers? operands else none
    let lines ← exact <|> lines? settings operands
    if lines.isEmpty then return []
    else return (lines.intersperse settings.separator).flatten ++ ['\n']
  printed.getD []

end Inspector.Program.Seq
