import Inspector.Gzip.Code

/-!
# Compressed data

Compressed data is a sequence of blocks, each stored as it is or written in a code. What has been
written is kept with the newest byte first, since a block refers back to it by distance; a
reference to before the start finds zeros.
-/

namespace Inspector.Gzip

/-- The numbers of bits and the first values of a scale whose steps double. -/
structure Scale where
  base : Nat
  extra : Nat
deriving Repr

/-- Lengths, from symbol 257 on. -/
def lengthScale : Array Scale :=
  #[⟨3, 0⟩, ⟨4, 0⟩, ⟨5, 0⟩, ⟨6, 0⟩, ⟨7, 0⟩, ⟨8, 0⟩, ⟨9, 0⟩, ⟨10, 0⟩, ⟨11, 1⟩, ⟨13, 1⟩, ⟨15, 1⟩,
    ⟨17, 1⟩, ⟨19, 2⟩, ⟨23, 2⟩, ⟨27, 2⟩, ⟨31, 2⟩, ⟨35, 3⟩, ⟨43, 3⟩, ⟨51, 3⟩, ⟨59, 3⟩, ⟨67, 4⟩,
    ⟨83, 4⟩, ⟨99, 4⟩, ⟨115, 4⟩, ⟨131, 5⟩, ⟨163, 5⟩, ⟨195, 5⟩, ⟨227, 5⟩, ⟨258, 0⟩]

/-- Distances, from symbol 0 on. -/
def distanceScale : Array Scale :=
  #[⟨1, 0⟩, ⟨2, 0⟩, ⟨3, 0⟩, ⟨4, 0⟩, ⟨5, 1⟩, ⟨7, 1⟩, ⟨9, 2⟩, ⟨13, 2⟩, ⟨17, 3⟩, ⟨25, 3⟩, ⟨33, 4⟩,
    ⟨49, 4⟩, ⟨65, 5⟩, ⟨97, 5⟩, ⟨129, 6⟩, ⟨193, 6⟩, ⟨257, 7⟩, ⟨385, 7⟩, ⟨513, 8⟩, ⟨769, 8⟩,
    ⟨1025, 9⟩, ⟨1537, 9⟩, ⟨2049, 10⟩, ⟨3073, 10⟩, ⟨4097, 11⟩, ⟨6145, 11⟩, ⟨8193, 12⟩,
    ⟨12289, 12⟩, ⟨16385, 13⟩, ⟨24577, 13⟩]

/-- Reads the value that a symbol of the scale stands for. -/
def Scale.value (scale : Array Scale) (symbol : Nat) : Scan Nat := do
  match scale[symbol]? with
  | none => throw .invalid
  | some step => return step.base + (← Scan.number step.extra)

/-- Writes again what was written `distance` bytes ago, byte by byte. -/
def copyBack (distance : Nat) : (length : Nat) → Bytes → Bytes
  | 0, written => written
  | length + 1, written => copyBack distance length (written.getD (distance - 1) 0 :: written)

/-- The symbols of a block up to its end. Each takes a bit at least, so that the number of bits
ahead bounds their number. -/
def symbolsInto (literals distances : Code) : (fuel : Nat) → Bytes → Scan Bytes
  | 0, _ => throw .unexpectedEnd
  | fuel + 1, written => do
    let symbol ← literals.decode
    if symbol < 256 then symbolsInto literals distances fuel (UInt8.ofNat symbol :: written)
    else if symbol = 256 then return written
    else
      let length ← Scale.value lengthScale (symbol - 257)
      let distance ← Scale.value distanceScale (← distances.decode)
      symbolsInto literals distances fuel (copyBack distance length written)

def codedBlock (literals distances : Code) (written : Bytes) : Scan Bytes := do
  symbolsInto literals distances ((← get).size + 1) written

/-- A stored block: its length, the complement of its length, and its bytes. -/
def storedBlock (written : Bytes) : Scan Bytes := do
  Scan.align
  let length := Bytes.toNatLE (← Scan.takeBytes 2)
  let complement := Bytes.toNatLE (← Scan.takeBytes 2)
  if length + complement = 0xffff then return (← Scan.takeBytes length).reverse ++ written
  else throw .invalid

def fixedLiterals : List Nat :=
  List.replicate 144 8 ++ List.replicate 112 9 ++ List.replicate 24 7 ++ List.replicate 8 8

def fixedDistances : List Nat :=
  List.replicate 32 5

/-- The order in which the lengths of the code for lengths come. -/
def lengthOrder : List Nat :=
  [16, 17, 18, 0, 8, 7, 9, 6, 10, 5, 11, 4, 12, 3, 13, 2, 14, 1, 15]

/-- So many numbers of three bits. -/
def threeBitNumbers : (count : Nat) → Scan (List Nat)
  | 0 => return []
  | count + 1 => do
    let first ← Scan.number 3
    return first :: (← threeBitNumbers count)

/-- Reads word lengths, newest first, until there are `total` of them. A run may repeat the last
length or write zeros; it must not go past the end. -/
def wordLengths (code : Code) (total : Nat) : (fuel : Nat) → List Nat → Scan (List Nat)
  | 0, _ => throw .unexpectedEnd
  | fuel + 1, newest =>
    if total < newest.length then throw .invalid
    else if newest.length = total then return newest.reverse
    else do
      let symbol ← code.decode
      match symbol with
      | 16 =>
        match newest with
        | [] => throw .invalid
        | last :: _ =>
          let count := 3 + (← Scan.number 2)
          wordLengths code total fuel (List.replicate count last ++ newest)
      | 17 =>
        let count := 3 + (← Scan.number 3)
        wordLengths code total fuel (List.replicate count 0 ++ newest)
      | 18 =>
        let count := 11 + (← Scan.number 7)
        wordLengths code total fuel (List.replicate count 0 ++ newest)
      | length => wordLengths code total fuel (length :: newest)

/-- Whether a code can be used: the words fill the space, there are none, or the only word is a
single bit. -/
def isUsable (code : Code) : Bool :=
  code.isFull || code.symbols.isEmpty ||
    code.symbols.size == 1 && code.counts.head? == some 1

/-- A block that starts with its own codes. -/
def dynamicBlock (written : Bytes) : Scan Bytes := do
  let literalCount := 257 + (← Scan.number 5)
  let distanceCount := 1 + (← Scan.number 5)
  let lengthCount := 4 + (← Scan.number 4)
  if 286 < literalCount ∨ 30 < distanceCount then throw .invalid
  let given := lengthOrder.zip (← threeBitNumbers lengthCount)
  let lengthCode := Code.ofLengths ((List.range 19).map fun i => (given.lookup i).getD 0)
  if !lengthCode.isFull then throw .invalid
  let total := literalCount + distanceCount
  let lengths ← wordLengths lengthCode total ((← get).size + 1) []
  let literals := Code.ofLengths (lengths.take literalCount)
  let distances := Code.ofLengths (lengths.drop literalCount)
  if isUsable literals && isUsable distances then codedBlock literals distances written
  else throw .invalid

def block (kind : Nat) (written : Bytes) : Scan Bytes :=
  match kind with
  | 0 => storedBlock written
  | 1 => codedBlock (Code.ofLengths fixedLiterals) (Code.ofLengths fixedDistances) written
  | 2 => dynamicBlock written
  | _ => throw .invalid

/-- Blocks up to the last one. Each takes three bits at least. -/
def blocks : (fuel : Nat) → Bytes → Scan Bytes
  | 0, _ => throw .unexpectedEnd
  | fuel + 1, written => do
    let last ← Scan.bit
    let kind ← Scan.number 2
    let written ← block kind written
    if last then return written else blocks fuel written

def inflate : Scan Bytes := do
  let newestFirst ← blocks ((← get).size + 1) []
  return newestFirst.reverse

end Inspector.Gzip
