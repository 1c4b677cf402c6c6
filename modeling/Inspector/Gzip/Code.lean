import Inspector.Gzip.Bits

/-!
# Canonical codes

A code is given by the length of each symbol's code word. Words of one length are consecutive in
the order of their symbols, and they follow the shorter ones; so the number of words of each
length and the symbols in order are all that decoding needs.
-/

namespace Inspector.Gzip

/-- The longest code word. -/
def maxWord : Nat := 15

structure Code where
  /-- How many words there are of each length from 1 to `maxWord`. -/
  counts : List Nat
  symbols : Array Nat
deriving Repr

namespace Code

/-- The symbols whose words have the given length, in order. -/
def symbolsOf (lengths : List Nat) (length : Nat) : List Nat :=
  (lengths.zipIdx.filter fun (l, _) => l == length).map (·.2)

/-- The code with the given word lengths; a symbol of length 0 has no word. -/
def ofLengths (lengths : List Nat) : Code :=
  let groups := (List.range maxWord).map fun i => symbolsOf lengths (i + 1)
  { counts := groups.map List.length, symbols := groups.flatten.toArray }

/-- How much of the space of words of length `maxWord` the words take up. -/
def space : (width : Nat) → List Nat → Nat
  | width + 1, count :: rest => (count <<< width) + space width rest
  | _, _ => 0

/-- Whether the words fill the space: no bit string is left over, and none is used twice. -/
def isFull (code : Code) : Bool :=
  space maxWord code.counts == 1 <<< maxWord

/-- Compares the bits read so far with the words of each further length. `first` is the first word
of the length, and `index` the place of its symbol. Bits that no word starts with are given up once
there are no longer words. -/
def search (symbols : Array Nat) (value first index : Nat) : List Nat → Scan Nat
  | [] => throw .invalid
  | count :: rest => do
    let value := value + (← Scan.bit).toNat
    if value < first + count then
      match symbols[index + (value - first)]? with
      | some symbol => return symbol
      | none => throw .invalid
    else if rest.all (· == 0) then throw .invalid
    else search symbols (2 * value) (2 * (first + count)) (index + count) rest

def decode (code : Code) : Scan Nat :=
  search code.symbols 0 0 0 code.counts

end Code

end Inspector.Gzip
