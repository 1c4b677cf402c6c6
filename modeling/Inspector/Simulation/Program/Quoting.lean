import Inspector.Simulation.Program.Octets

/-!
# Words for a shell

A word is written so that a shell reads it back: as it is where that is safe, between single quotes
otherwise, and between double quotes if it has a single quote and nothing that is special between
double ones. Characters that cannot be printed are written by their numbers.
-/

namespace Inspector.Program.Quoting

def isPrintable (c : Char) : Bool :=
  ' ' ≤ c && c ≤ '~'

/-- The characters that are special to a shell wherever they stand. -/
def specials : List Char :=
  "!\"$&()*;<=>[^`|\\?' ".toList

/-- Whether the character at the given place makes quotes necessary; `single` says that the word is
one character long. -/
def needsQuotes (single : Bool) (place : Nat) (c : Char) : Bool :=
  !isPrintable c || specials.contains c || (c == '#' || c == '~') && place == 0 ||
    (c == '\x7b' || c == '\x7d') && single

/-- Whether the character at the given place may stand between double quotes. -/
def isPlain (single : Bool) (place : Nat) (c : Char) : Bool :=
  c.isAlphanum || "%+,-./:]_@ '".toList.contains c || (c == '#' || c == '~') && place == 0 ||
    (c == '\x7b' || c == '\x7d') && single

/-- The letter or the digits that stand for a character that cannot be printed. -/
def number (c : Char) : Octets :=
  match c with
  | '\x07' => ['a']
  | '\x08' => ['b']
  | '\x0c' => ['f']
  | '\n' => ['n']
  | '\r' => ['r']
  | '\t' => ['t']
  | '\x0b' => ['v']
  | _ =>
    let n := c.toNat
    [Nat.digitChar (n / 64), Nat.digitChar (n / 8 % 8), Nat.digitChar (n % 8)]

/-- What stands between the outer single quotes. `inNumbers` says that quotes of the kind that
holds numbers are open. -/
def singleQuoted (inNumbers : Bool) : Octets → Octets
  | [] => []
  | c :: rest =>
    if c = '\'' then "'\\''".toList ++ singleQuoted false rest
    else if isPrintable c then
      (if inNumbers then "''".toList else []) ++ c :: singleQuoted false rest
    else
      (if inNumbers then [] else "'$'".toList) ++ '\\' :: number c ++ singleQuoted true rest

/-- Whether quotes that hold numbers are taken to be open at the start: a word with a single quote
is gone through twice, and the second time starts as the first one ended. -/
def startsInNumbers (word : Octets) : Bool :=
  word.contains '\'' && (word.getLast?.map fun c => !isPrintable c).getD false

def quote (word : Octets) : Octets :=
  let single := word.length == 1
  let places := word.zipIdx
  if !word.isEmpty && places.all fun (c, place) => !needsQuotes single place c then word
  else if word.contains '\'' && places.all fun (c, place) => isPlain single place c then
    '"' :: word ++ ['"']
  else '\'' :: singleQuoted (startsInNumbers word) word ++ ['\'']

end Inspector.Program.Quoting
