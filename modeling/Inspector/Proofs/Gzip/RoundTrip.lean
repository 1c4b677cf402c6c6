import Inspector.Gzip.Member
import Inspector.Proofs.Outcome

/-!
# Reading compressed frames back

What is written is read back from the front of any input that begins with it, and what follows it is
left (`readMember_compress_append`, `decompress_compress_append`). Writing uses stored blocks only:
each is read back as its data (`run_blocks_storedBytes`), and so are the blocks of any data, however
long (`run_storedBlocks`).
-/

namespace Inspector

/-- A number is written by its remainder if it does not fit. -/
theorem Bytes.toNatLE_ofNatLE_mod (width n : Nat) :
    toNatLE (ofNatLE width n) = n % capacity width := by
  induction width generalizing n with
  | zero => rw [capacity, Nat.mod_one, ofNatLE, toNatLE]
  | succ width ih =>
    rw [ofNatLE, toNatLE, ih, UInt8.toNat_ofNat', capacity]
    exact (Nat.mod_mul ..).symm

namespace Gzip

open Outcome

/-! ## Parts of the input -/

theorem run_bind {α β : Type} {first : Scan α} {next : α → Scan β} {source after : Source} {a : α}
    (read : first.run source = .ok (a, after)) :
    (first >>= next).run source = (next a).run after := by
  rw [StateT.run_bind, read]
  rfl

theorem run_takeBytes {bytes : Bytes} {n : Nat} (exact : bytes.length = n) (rest : Bytes) :
    (Scan.takeBytes n).run { bytes := bytes ++ rest } = .ok (bytes, { bytes := rest }) := by
  subst exact
  simp [Scan.takeBytes, StateT.run]

theorem splitBytes_append {bytes : Bytes} {n : Nat} (exact : bytes.length = n) (rest : Bytes) :
    splitBytes n (bytes ++ rest) = .ok (bytes, rest) := by
  subst exact
  simp [splitBytes]

theorem skipHeader_header (rest : Bytes) : skipHeader (header ++ rest) = .ok rest := by
  have length : header.length = 10 := rfl
  rw [skipHeader, splitBytes_append length]
  rfl

/-! ## Stored blocks -/

/-- A block starts with whether it is the last one, and the number of its kind. -/
theorem run_bit_marker (last : Bool) (rest : Bytes) :
    ∃ opened, Scan.bit.run { bytes := (if last then 1 else 0) :: rest } =
        .ok (last, { opened, bytes := rest }) ∧
      ∃ left, (Scan.number 2).run { opened, bytes := rest } =
        .ok (0, { opened := left, bytes := rest }) := by
  cases last with
  | false => exact ⟨_, rfl, _, rfl⟩
  | true => exact ⟨_, rfl, _, rfl⟩

theorem run_storedBlock {data : Bytes} (fits : data.length ≤ maxStored) (left : List Bool)
    (written rest : Bytes) :
    (storedBlock written).run
        { opened := left
          bytes := Bytes.ofNatLE 2 data.length ++ Bytes.ofNatLE 2 (0xffff - data.length) ++ data ++
            rest } =
      .ok (data.reverse ++ written, { bytes := rest }) := by
  rw [maxStored] at fits
  have length : Bytes.toNatLE (Bytes.ofNatLE 2 data.length) = data.length :=
    Bytes.toNatLE_ofNatLE 2 _ (by simp only [Bytes.capacity]; omega)
  have complement : Bytes.toNatLE (Bytes.ofNatLE 2 (0xffff - data.length)) =
      0xffff - data.length :=
    Bytes.toNatLE_ofNatLE 2 _ (by simp only [Bytes.capacity]; omega)
  have aligned (bytes : Bytes) :
      Scan.align.run { opened := left, bytes } = .ok ((), { bytes }) := rfl
  rw [storedBlock, run_bind (aligned _), List.append_assoc, List.append_assoc,
    run_bind (run_takeBytes (Bytes.length_ofNatLE 2 _) _),
    run_bind (run_takeBytes (Bytes.length_ofNatLE 2 _) _), length, complement,
    if_pos (by omega), run_bind (run_takeBytes rfl rest)]
  rfl

/-- A stored block is read back as its data. -/
theorem run_blocks_storedBytes {data : Bytes} (fits : data.length ≤ maxStored) (last : Bool)
    (fuel : Nat) (written rest : Bytes) :
    (blocks (fuel + 1) written).run { bytes := storedBytes last data ++ rest } =
      if last then .ok (data.reverse ++ written, { bytes := rest })
      else (blocks fuel (data.reverse ++ written)).run { bytes := rest } := by
  obtain ⟨opened, marker, left, kind⟩ := run_bit_marker last
    (Bytes.ofNatLE 2 data.length ++ Bytes.ofNatLE 2 (0xffff - data.length) ++ data ++ rest)
  rw [blocks, storedBytes, List.cons_append, List.cons_append, List.cons_append, run_bind marker,
    run_bind kind, block, run_bind (run_storedBlock fits left written rest)]
  cases last <;> rfl

/-- Stored blocks are read back as the data. A block takes in more than nothing of what is left, so
that the length of the data bounds their number. -/
theorem run_storedBlocks (data : Bytes) {fuel : Nat} (enough : data.length < fuel)
    (written rest : Bytes) :
    (blocks fuel written).run { bytes := storedBlocks data ++ rest } =
      .ok (data.reverse ++ written, { bytes := rest }) := by
  obtain ⟨fuel, rfl⟩ := Nat.exists_eq_add_one_of_ne_zero (Nat.ne_of_gt (Nat.zero_lt_of_lt enough))
  fun_induction storedBlocks data generalizing fuel written with
  | case1 data short => exact run_blocks_storedBytes short true fuel written rest
  | case2 data long ih =>
    have some : maxStored < data.length := Nat.lt_of_not_le long
    have fits : (data.take maxStored).length ≤ maxStored := List.length_take_le ..
    have room : 0 < maxStored := by decide
    have more : fuel ≠ 0 := by omega
    obtain ⟨fuel, rfl⟩ := Nat.exists_eq_add_one_of_ne_zero more
    have fewer : (data.drop maxStored).length < fuel + 1 := by
      rw [List.length_drop]
      omega
    rw [List.append_assoc, run_blocks_storedBytes fits]
    rw [if_neg Bool.false_ne_true, ih _ fuel fewer, ← List.append_assoc, ← List.reverse_append,
      List.take_append_drop]

theorem length_le_storedBlocks (data : Bytes) : data.length ≤ (storedBlocks data).length := by
  fun_induction storedBlocks data with
  | case1 data short =>
    rw [storedBytes, List.length_append]
    exact Nat.le_add_left ..
  | case2 data long ih =>
    have parts := congrArg List.length (List.take_append_drop maxStored data)
    rw [List.length_append] at parts
    rw [storedBytes, List.length_append, List.length_append]
    omega

/-- A frame is longer than what it stands for. -/
theorem length_lt_compress (data : Bytes) : data.length < (compress data).length := by
  have stored := length_le_storedBlocks data
  have start : header.length = 10 := rfl
  rw [compress, List.length_append, List.length_append]
  omega

theorem run_inflate (data rest : Bytes) :
    inflate.run { bytes := storedBlocks data ++ rest } = .ok (data, { bytes := rest }) := by
  let source : Source := { bytes := storedBlocks data ++ rest }
  have enough : data.length < source.size + 1 := by
    have bound := length_le_storedBlocks data
    simp only [source, Source.size, List.length_append, List.length_nil]
    omega
  have looked : (get : Scan Source).run source = .ok (source, source) := rfl
  rw [inflate, run_bind looked, run_bind (run_storedBlocks data enough [] rest), List.append_nil,
    List.reverse_reverse]
  rfl

/-! ## Members -/

/-- The data of the first member of the input, and what follows the member. -/
def readMember (input : Bytes) : Except Error (Bytes × Bytes) := do
  let body ← skipHeader input
  let (data, source) ← inflate.run { bytes := body }
  let (check, rest) ← splitBytes 4 source.bytes
  let (size, rest) ← splitBytes 4 rest
  if Bytes.toNatLE check = (crc32 data).toNat ∧ Bytes.toNatLE size = data.length % UInt32.size then
    return (data, rest)
  else throw .invalid

theorem decompress_eq (input : Bytes) : decompress input = Prod.fst <$> readMember input := by
  simp only [decompress, readMember, map_bind]
  refine bind_congr fun body => bind_congr fun inflated => bind_congr fun checked =>
    bind_congr fun sized => ?_
  split <;> rfl

/-- What is written is read back, and exactly what follows it is left. -/
theorem readMember_compress_append (data rest : Bytes) :
    readMember (compress data ++ rest) = .ok (data, rest) := by
  have sum : Bytes.toNatLE (Bytes.ofNatLE 4 (crc32 data).toNat) = (crc32 data).toNat :=
    Bytes.toNatLE_ofNatLE 4 _ (by
      have bound := (crc32 data).toNat_lt
      simp only [Bytes.capacity]
      omega)
  have size : Bytes.toNatLE (Bytes.ofNatLE 4 data.length) = data.length % UInt32.size :=
    Bytes.toNatLE_ofNatLE_mod 4 data.length
  rw [readMember, compress, trailer, List.append_assoc, List.append_assoc, List.append_assoc,
    skipHeader_header, ok_bind, run_inflate, ok_bind]
  dsimp only
  rw [splitBytes_append (Bytes.length_ofNatLE 4 _), ok_bind]
  dsimp only
  rw [splitBytes_append (Bytes.length_ofNatLE 4 _), ok_bind]
  dsimp only
  rw [if_pos ⟨sum, size⟩]
  rfl

/-- What is written is read back, whatever follows it. -/
theorem decompress_compress_append (data rest : Bytes) :
    decompress (compress data ++ rest) = .ok data := by
  rw [decompress_eq, readMember_compress_append]
  rfl

theorem decompress_compress (data : Bytes) : decompress (compress data) = .ok data := by
  have whole := decompress_compress_append data []
  rwa [List.append_nil] at whole

end Gzip

end Inspector
