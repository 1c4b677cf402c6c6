import Inspector.Bytes

/-!
# A source of bits

Compressed data is read bit by bit, least significant first, and byte by byte where it is stored
as it is. A byte is opened only when its first bit is asked for.
-/

namespace Inspector.Gzip

inductive Error where
  | unexpectedEnd
  /-- The header, the compressed data or the check at the end is wrong. -/
  | invalid
deriving DecidableEq, Repr

/-- The input ahead: what is left of an opened byte, and the bytes behind it. -/
structure Source where
  opened : List Bool := []
  bytes : Bytes
deriving DecidableEq, Repr

abbrev Scan := StateT Source (Except Error)

/-- The bits of a byte, least significant first. -/
def bitsOf (byte : UInt8) : List Bool :=
  (List.range 8).map fun i => byte.toNat.testBit i

namespace Source

def size (source : Source) : Nat :=
  source.opened.length + 8 * source.bytes.length

end Source

namespace Scan

def bit : Scan Bool := fun source =>
  match source.opened, source.bytes with
  | b :: opened, bytes => .ok (b, { opened, bytes })
  | [], byte :: bytes =>
    match bitsOf byte with
    | b :: opened => .ok (b, { opened, bytes })
    | [] => .error .unexpectedEnd
  | [], [] => .error .unexpectedEnd

/-- A number of so many bits, least significant first. -/
def number : (width : Nat) → Scan Nat
  | 0 => return 0
  | width + 1 => do
    let low ← bit
    let high ← number width
    return low.toNat + 2 * high

/-- Leaves out what is left of an opened byte. -/
def align : Scan Unit := fun source =>
  .ok ((), { source with opened := [] })

/-- So many whole bytes. -/
def takeBytes (n : Nat) : Scan Bytes := fun source =>
  if n ≤ source.bytes.length then
    .ok (source.bytes.take n, { source with bytes := source.bytes.drop n })
  else .error .unexpectedEnd

end Scan

end Inspector.Gzip
