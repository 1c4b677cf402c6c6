import Inspector.Bytes

/-!
# The CRC-32 checksum
-/

namespace Inspector.Gzip

/-- Divides one bit out of the remainder. -/
def crcShift (crc : UInt32) : UInt32 :=
  if crc &&& 1 = 1 then (crc >>> 1) ^^^ 0xedb88320 else crc >>> 1

/-- Takes one byte into the remainder. -/
def crcByte (crc : UInt32) (byte : UInt8) : UInt32 :=
  Nat.repeat crcShift 8 (crc ^^^ byte.toUInt32)

/-- The CRC-32 checksum of a byte string. -/
def crc32 (bytes : Bytes) : UInt32 :=
  bytes.foldl crcByte 0xffffffff ^^^ 0xffffffff

example : crc32 [] = 0 := by decide

end Inspector.Gzip
