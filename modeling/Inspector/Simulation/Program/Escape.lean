import Inspector.Simulation.Program.Octets

/-!
# Escapes

A backslash and what follows it stand for a character, or for the end of the output. The two
programs that know escapes differ in how a number is written and in what they do with a backslash
that begins none.
-/

namespace Inspector.Program

/-- A reader of what follows a backslash: what it prints, and the rest of the word. -/
abbrev Escape := Octets → Printed × Octets

/-- The character that a letter behind a backslash stands for. -/
def letterEscape? : Char → Option Char
  | 'a' => some '\x07'
  | 'b' => some '\x08'
  | 'e' => some '\x1b'
  | 'f' => some '\x0c'
  | 'n' => some '\n'
  | 'r' => some '\r'
  | 't' => some '\t'
  | 'v' => some '\x0b'
  | '\\' => some '\\'
  | _ => none

/-- The digits at the start of a word, at most so many, and what follows them. -/
def splitFewDigits (radix limit : Nat) (word : Octets) : Octets × Octets :=
  let digits := (word.take limit).takeWhile (isDigitOf radix)
  (digits, word.drop digits.length)

/-- An octal number of at most three digits. -/
def octalEscape : Escape := fun word =>
  let (digits, rest) := splitFewDigits 8 3 word
  ({ text := Octets.ofNat (numberOf 8 digits) }, rest)

namespace Escape

/-- Carries out the escapes of a word. Each step takes a character at least. -/
def inWord (escape : Escape) : (fuel : Nat) → Octets → Printed
  | 0, _ | _, [] => {}
  | fuel + 1, '\\' :: rest =>
    let (piece, rest) := escape rest
    piece.andThen (inWord escape fuel rest)
  | fuel + 1, c :: rest => Printed.andThen { text := [c] } (inWord escape fuel rest)

/-- A word with its escapes carried out. -/
def apply (escape : Escape) (word : Octets) : Printed :=
  inWord escape word.length word

end Escape

/-- The escapes of `echo`. A number follows a zero or starts with its first digit, and a backslash
that begins no escape is printed. -/
def echoEscape : Escape
  | [] => ({ text := ['\\'] }, [])
  | 'c' :: _ => (Printed.stop, [])
  | 'x' :: word =>
    match splitFewDigits 16 2 word with
    | ([], _) => ({ text := ['\\', 'x'] }, word)
    | (digits, rest) => ({ text := Octets.ofNat (numberOf 16 digits) }, rest)
  | '0' :: word => octalEscape word
  | c :: word =>
    if isDigitOf 8 c then octalEscape (c :: word)
    else
      match letterEscape? c with
      | some plain => ({ text := [plain] }, word)
      | none => ({ text := ['\\', c] }, word)

/-- Whether a number is one of those that only stand in pairs and are no characters. -/
def isSurrogate (n : Nat) : Bool :=
  0xd800 ≤ n && n ≤ 0xdfff

/-- A character as it is printed where only bytes below 128 are characters: the others are shown
by their numbers. -/
def numberedCharacter (n : Nat) : Octets :=
  let digits := (Nat.toDigits 16 n).map Char.toUpper
  if n < 128 then [Char.ofNat n]
  else if n < 0x10000 then ['\\', 'u'] ++ List.replicate (4 - digits.length) '0' ++ digits
  else ['\\', 'U'] ++ List.replicate (8 - digits.length) '0' ++ digits

/-- A character given by its number in exactly so many hexadecimal digits. -/
def numberEscape (size : Nat) : Escape := fun word =>
  let (digits, rest) := splitFewDigits 16 size word
  let n := numberOf 16 digits
  if digits.length = size && !isSurrogate n then ({ text := numberedCharacter n }, rest)
  else (Printed.stop, [])

/-- The escapes of `printf`. In an argument, a zero may stand in front of a number of three digits.
A number without digits ends the program. -/
def printfEscape (inArgument : Bool) : Escape
  | [] => ({ text := ['\\'] }, [])
  | 'c' :: _ => (Printed.stop, [])
  | '"' :: word => ({ text := ['"'] }, word)
  | 'x' :: word =>
    match splitFewDigits 16 2 word with
    | ([], _) => (Printed.stop, [])
    | (digits, rest) => ({ text := Octets.ofNat (numberOf 16 digits) }, rest)
  | 'u' :: word => numberEscape 4 word
  | 'U' :: word => numberEscape 8 word
  | c :: word =>
    if inArgument && c == '0' then octalEscape word
    else if isDigitOf 8 c then octalEscape (c :: word)
    else
      match letterEscape? c with
      | some plain => ({ text := [plain] }, word)
      | none => ({ text := ['\\', c] }, word)

end Inspector.Program
