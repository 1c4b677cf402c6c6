import Inspector.Gzip.Checksum
import Inspector.Gzip.Inflate

/-!
# Compressed frames

Every message leaves the agent as one gzip member: a header, the compressed data, and the
checksum and the size of what it stands for. Writing stores the data as it is, which saves no room;
reading takes any member, whatever its blocks, and ignores what follows it.
-/

namespace Inspector.Gzip

/-! ## Writing -/

/-- The header of a member without name, comment, extra data or date. -/
def header : Bytes :=
  [0x1f, 0x8b, 0x08, 0, 0, 0, 0, 0, 0, 0xff]

/-- The most bytes that one stored block can hold. -/
def maxStored : Nat := 0xffff

/-- A stored block that is the last one or not. -/
def storedBytes (last : Bool) (data : Bytes) : Bytes :=
  (if last then 1 else 0) ::
    Bytes.ofNatLE 2 data.length ++ Bytes.ofNatLE 2 (0xffff - data.length) ++ data

/-- The data as stored blocks, of which exactly the last is marked as such. -/
def storedBlocks (data : Bytes) : Bytes :=
  if data.length ≤ maxStored then storedBytes true data
  else storedBytes false (data.take maxStored) ++ storedBlocks (data.drop maxStored)
termination_by data.length
decreasing_by
  simp only [List.length_drop, maxStored] at *
  omega

/-- The checksum and the size at the end of a member. -/
def trailer (data : Bytes) : Bytes :=
  Bytes.ofNatLE 4 (crc32 data).toNat ++ Bytes.ofNatLE 4 data.length

/-- The frame of some data. All of its blocks are stored ones, so that a frame is never shorter than
its data, also where the data repeats itself. -/
def compress (data : Bytes) : Bytes :=
  header ++ storedBlocks data ++ trailer data

/-! ## Reading -/

/-- The longest text that a header may hold. -/
def maxHeaderText : Nat := 65535

/-- A text in the header, which ends at a zero byte and has to be short enough. -/
def boundedText : (room : Nat) → Bytes → Except Error (Bytes × Bytes)
  | _, [] => .error .unexpectedEnd
  | _, 0 :: rest => .ok ([], rest)
  | 0, _ :: _ => .error .invalid
  | room + 1, b :: rest => do
    let (text, after) ← boundedText room rest
    return (b :: text, after)

def splitBytes (n : Nat) (input : Bytes) : Except Error (Bytes × Bytes) :=
  if n ≤ input.length then .ok (input.take n, input.drop n) else .error .unexpectedEnd

/-- The extra data of a header, with its length in front. -/
def extraData (input : Bytes) : Except Error (Bytes × Bytes) := do
  let (length, rest) ← splitBytes 2 input
  let (data, rest) ← splitBytes (Bytes.toNatLE length) rest
  return (length ++ data, rest)

/-- Reads a part of the header if its flag is set. -/
def optional (present : Bool) (part : Bytes → Except Error (Bytes × Bytes)) (input : Bytes) :
    Except Error (Bytes × Bytes) :=
  if present then part input else .ok ([], input)

/-- A text with its end mark. -/
def markedText (input : Bytes) : Except Error (Bytes × Bytes) := do
  let (text, rest) ← boundedText maxHeaderText input
  return (text ++ [0], rest)

/-- Reads a header and gives what follows it. -/
def skipHeader (input : Bytes) : Except Error Bytes := do
  let (start, rest) ← splitBytes 10 input
  let flags := (start.getD 3 0).toNat
  if start.take 3 ≠ [0x1f, 0x8b, 0x08] ∨ 32 ≤ flags then throw .invalid
  let (extra, rest) ← optional (flags.testBit 2) extraData rest
  let (name, rest) ← optional (flags.testBit 3) markedText rest
  let (comment, rest) ← optional (flags.testBit 4) markedText rest
  if flags.testBit 1 then
    let (check, rest) ← splitBytes 2 rest
    let sum := (crc32 (start ++ extra ++ name ++ comment)).toNat % 65536
    if Bytes.toNatLE check = sum then return rest else throw .invalid
  else return rest

/-- The data of the first member of the input. -/
def decompress (input : Bytes) : Except Error Bytes := do
  let body ← skipHeader input
  let (data, source) ← inflate.run { bytes := body }
  let (check, rest) ← splitBytes 4 source.bytes
  let (size, _) ← splitBytes 4 rest
  if Bytes.toNatLE check = (crc32 data).toNat ∧ Bytes.toNatLE size = data.length % UInt32.size then
    return data
  else throw .invalid

end Inspector.Gzip
