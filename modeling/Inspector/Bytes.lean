/-!
# Byte strings and little-endian numbers

Everything that crosses a connection is a list of bytes. A number of a fixed width is written
with its least significant byte first; `toNatLE_ofNatLE` and `ofNatLE_toNatLE` say that writing
and reading are inverse on numbers that fit.
-/

namespace Inspector

abbrev Bytes := List UInt8

namespace Bytes

/-- The `width` low bytes of `n`, least significant first. -/
def ofNatLE : (width n : Nat) → Bytes
  | 0, _ => []
  | width + 1, n => UInt8.ofNat n :: ofNatLE width (n / 256)

/-- The number whose little-endian digits are the given bytes. -/
def toNatLE : Bytes → Nat
  | [] => 0
  | b :: rest => b.toNat + 256 * toNatLE rest

/-- How many numbers fit into so many bytes. -/
def capacity : (width : Nat) → Nat
  | 0 => 1
  | width + 1 => 256 * capacity width

@[simp] theorem length_ofNatLE (width n : Nat) : (ofNatLE width n).length = width := by
  induction width generalizing n with
  | zero => rfl
  | succ width ih => simp [ofNatLE, ih]

/-- Reading undoes writing on every number that fits into the width. -/
theorem toNatLE_ofNatLE (width n : Nat) (fits : n < capacity width) :
    toNatLE (ofNatLE width n) = n := by
  induction width generalizing n with
  | zero =>
    rw [capacity] at fits
    rw [ofNatLE, toNatLE]
    omega
  | succ width ih =>
    have smaller : n / 256 < capacity width := by
      rw [capacity] at fits
      omega
    simp only [ofNatLE, toNatLE, ih _ smaller, UInt8.toNat_ofNat']
    omega

/-- Every byte string is the little-endian form of its own number. -/
theorem ofNatLE_toNatLE (bytes : Bytes) : ofNatLE bytes.length (toNatLE bytes) = bytes := by
  induction bytes with
  | nil => rfl
  | cons b rest ih =>
    have low := b.toNat_lt
    have head : UInt8.ofNat (b.toNat + 256 * toNatLE rest) = b := by
      apply UInt8.toNat_inj.1
      simp only [UInt8.toNat_ofNat']
      omega
    have tail : (b.toNat + 256 * toNatLE rest) / 256 = toNatLE rest := by omega
    simp [ofNatLE, toNatLE, head, tail, ih]

theorem toNatLE_lt (bytes : Bytes) : toNatLE bytes < capacity bytes.length := by
  induction bytes with
  | nil => simp [toNatLE, capacity]
  | cons b rest ih =>
    have low := b.toNat_lt
    simp only [toNatLE, List.length_cons, capacity]
    omega

end Bytes

end Inspector
