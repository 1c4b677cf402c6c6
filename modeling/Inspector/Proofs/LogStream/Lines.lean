import Mathlib.Data.List.Basic
import Inspector.LogStream.Lines

/-!
# The lines of a text

A log is read as bytes. If the bytes are those of a text, its lines are those of the text: they end
at line feeds, a carriage return in front of a line feed belongs to the end, and what follows the
last line feed is a line unless it is empty (`lines_encode`).

* `linesBy` splits anything at line feeds, whether it consists of characters or of bytes.
* No byte of another character is a line feed or a carriage return (`ordinary_utf8EncodeChar`), so
  that splitting the bytes is splitting the characters (`linesBy_charBytes`).
-/

namespace Inspector.LogStream

/-! ## Splitting -/

section

variable {α : Type} [DecidableEq α] (feed ret : α)

/-- Puts an element in front of the first line. -/
def putFirst (a : α) : List (List α) → List (List α)
  | [] => [[a]]
  | line :: lines => (a :: line) :: lines

/-- The lines of a list of elements: a feed ends a line, and a return in front of it is left out. -/
def linesBy : List α → List (List α)
  | [] => []
  | a :: rest =>
    if a = feed then [] :: linesBy rest
    else if a = ret ∧ rest.head? = some feed then linesBy rest
    else putFirst a (linesBy rest)

variable {feed ret}

/-- What follows the last feed is a line as it is, unless it is empty. -/
theorem linesBy_tail {tail : List α} (plain : feed ∉ tail) :
    linesBy feed ret tail = if tail = [] then [] else [tail] := by
  induction tail with
  | nil => rfl
  | cons a rest ih =>
    obtain ⟨differ, plain⟩ := List.ne_and_not_mem_of_not_mem_cons plain
    have ahead : rest.head? ≠ some feed := fun first => plain (List.mem_of_head? first)
    rw [linesBy, if_neg differ.symm, if_neg fun both => ahead both.2, ih plain]
    cases rest <;> rfl

/-- A feed ends a line. -/
theorem linesBy_feed {line : List α} (plain : feed ∉ line) (bare : line.getLast? ≠ some ret)
    (rest : List α) :
    linesBy feed ret (line ++ feed :: rest) = line :: linesBy feed ret rest := by
  induction line with
  | nil => rw [List.nil_append, linesBy, if_pos rfl]
  | cons a others ih =>
    obtain ⟨differ, plain⟩ := List.ne_and_not_mem_of_not_mem_cons plain
    have unreturned : ¬(a = ret ∧ (others ++ feed :: rest).head? = some feed) := by
      rintro ⟨rfl, first⟩
      cases others with
      | nil => exact bare rfl
      | cons b more => exact plain (Option.some.inj first ▸ List.mem_cons_self)
    rw [List.cons_append, linesBy, if_neg differ.symm, if_neg unreturned, ih plain ?_]
    · rfl
    · intro last
      refine bare ?_
      cases others with
      | nil => cases last
      | cons b more => exact last

/-- So does a return with a feed behind it. -/
theorem linesBy_return (apart : ret ≠ feed) {line : List α} (plain : feed ∉ line)
    (rest : List α) :
    linesBy feed ret (line ++ ret :: feed :: rest) = line :: linesBy feed ret rest := by
  induction line with
  | nil => rw [List.nil_append, linesBy, if_neg apart, if_pos ⟨rfl, rfl⟩, linesBy, if_pos rfl]
  | cons a others ih =>
    obtain ⟨differ, plain⟩ := List.ne_and_not_mem_of_not_mem_cons plain
    have unreturned : ¬(a = ret ∧ (others ++ ret :: feed :: rest).head? = some feed) := by
      rintro ⟨rfl, first⟩
      cases others with
      | nil => exact apart (Option.some.inj first)
      | cons b more => exact plain (Option.some.inj first ▸ List.mem_cons_self)
    rw [List.cons_append, linesBy, if_neg differ.symm, if_neg unreturned, ih plain]
    rfl

end

/-- The lines of a text. -/
def textLines (text : String) : List String :=
  (linesBy '\n' '\r' text.toList).map String.ofList

/-- What follows the last line feed is a line unless it is empty. -/
theorem textLines_tail {tail : String} (plain : '\n' ∉ tail.toList) :
    textLines tail = if tail = "" then [] else [tail] := by
  rw [textLines, linesBy_tail plain]
  simp only [String.toList_eq_nil_iff]
  split
  · rfl
  · rw [List.map_singleton, String.ofList_toList]

/-- A line feed ends a line. -/
theorem textLines_feed {line : String} (plain : '\n' ∉ line.toList)
    (bare : line.toList.getLast? ≠ some '\r') (rest : String) :
    textLines (line ++ "\n" ++ rest) = line :: textLines rest := by
  have chars : (line ++ "\n" ++ rest).toList = line.toList ++ '\n' :: rest.toList := by simp
  rw [textLines, chars, linesBy_feed plain bare, List.map_cons, String.ofList_toList, textLines]

/-- A carriage return in front of it belongs to the end. -/
theorem textLines_return {line : String} (plain : '\n' ∉ line.toList) (rest : String) :
    textLines (line ++ "\r\n" ++ rest) = line :: textLines rest := by
  have chars : (line ++ "\r\n" ++ rest).toList =
      line.toList ++ '\r' :: '\n' :: rest.toList := by simp
  rw [textLines, chars, linesBy_return (by decide) plain, List.map_cons, String.ofList_toList,
    textLines]

/-- Lines of a text, each with a line feed behind it. -/
theorem textLines_join {lines : List String}
    (plain : ∀ line ∈ lines, '\n' ∉ line.toList ∧ '\r' ∉ line.toList) :
    textLines (String.join (lines.map (· ++ "\n"))) = lines := by
  induction lines with
  | nil => rfl
  | cons line rest ih =>
    obtain ⟨⟨feed, ret⟩, plain⟩ := List.forall_mem_cons.1 plain
    rw [List.map_cons, String.join_cons,
      textLines_feed feed (fun last => ret (List.mem_of_getLast? last)), ih plain]

example : textLines "a\r\n\nb\rc\r\r\nd" = ["a", "", "b\rc\r", "d"] := by decide +kernel

/-! ## The lines of the input -/

/-- Puts a byte in front of the first part. -/
def extend (b : UInt8) : List (Bytes × Bool) → List (Bytes × Bool)
  | [] => [([b], false)]
  | (part, ended) :: parts => (b :: part, ended) :: parts

theorem splitLines_concat (reversed input : Bytes) (b : UInt8) :
    splitLines (reversed ++ [b]) input = extend b (splitLines reversed input) := by
  induction input generalizing reversed with
  | nil =>
    cases reversed with
    | nil => rfl
    | cons c more => simp [splitLines, extend]
  | cons c rest ih =>
    rw [splitLines, splitLines]
    split
    · simp [extend]
    · exact ih (c :: reversed)

theorem splitLines_cons {b : UInt8} (differ : b ≠ 10) (rest : Bytes) :
    splitLines [] (b :: rest) = extend b (splitLines [] rest) := by
  rw [splitLines, if_neg differ]
  exact splitLines_concat [] rest b

/-- The first part is empty and ended just if a line feed comes first. -/
theorem head?_splitLines (input : Bytes) :
    (splitLines [] input).head? = some ([], true) ↔ input.head? = some 10 := by
  cases input with
  | nil => simp [splitLines]
  | cons b rest =>
    by_cases same : b = 10
    · simp [splitLines, same]
    · rw [splitLines_cons same]
      cases splitLines [] rest <;> simp [extend, same]

theorem lineBytes_cons {part : Bytes} {ended : Bool} (more : ¬(part = [] ∧ ended = true))
    (b : UInt8) : lineBytes (b :: part) ended = b :: lineBytes part ended := by
  cases ended with
  | false => rfl
  | true =>
    cases part with
    | nil => exact absurd ⟨rfl, rfl⟩ more
    | cons c others =>
      simp only [lineBytes, List.getLast?_cons_cons, Bool.true_and]
      split <;> rfl

/-- The parts of the input, without what belongs to their ends, are its lines. -/
theorem map_splitLines (input : Bytes) :
    (splitLines [] input).map (fun part => lineBytes part.1 part.2) = linesBy 10 13 input := by
  induction input with
  | nil => rfl
  | cons b rest ih =>
    by_cases same : b = 10
    · rw [splitLines, if_pos same, linesBy, if_pos same, List.map_cons, ih]
      rfl
    · have ahead := head?_splitLines rest
      rw [splitLines_cons same, linesBy, if_neg same, ← ih]
      cases split : splitLines [] rest with
      | nil =>
        rw [split] at ahead
        have plain : rest.head? ≠ some 10 := fun first => nomatch ahead.2 first
        rw [if_neg fun both => plain both.2]
        rfl
      | cons first parts =>
        obtain ⟨part, ended⟩ := first
        rw [split, List.head?_cons, Option.some.injEq, Prod.mk.injEq] at ahead
        by_cases empty : part = [] ∧ ended = true
        · -- only here does the byte stand right in front of a line feed
          obtain ⟨rfl, rfl⟩ := empty
          by_cases ret : b = 13
          · rw [if_pos ⟨ret, ahead.1 ⟨rfl, rfl⟩⟩, ret]
            rfl
          · have kept : lineBytes [b] true = [b] := by simp [lineBytes, ret]
            rw [if_neg fun both => ret both.1, extend, List.map_cons, kept]
            rfl
        · rw [if_neg fun both => empty (ahead.2 both.2), extend, List.map_cons,
            lineBytes_cons empty]
          rfl

theorem lines_eq (input : Bytes) : lines input = (linesBy 10 13 input).map Text.decode? := by
  rw [lines, ← map_splitLines, List.map_map]
  rfl

/-! ## Characters and their bytes -/

/-- A byte that is neither a line feed nor a carriage return. -/
def Ordinary (b : UInt8) : Prop := b ≠ 10 ∧ b ≠ 13

theorem ordinary_ofNat {n : Nat} (feed : n % 256 ≠ 10) (ret : n % 256 ≠ 13) :
    Ordinary (UInt8.ofNat n) := by
  constructor <;> intro same <;> have equal := congrArg UInt8.toNat same <;>
    rw [UInt8.toNat_ofNat'] at equal
  · exact feed equal
  · exact ret equal

theorem ordinary_utf8EncodeChar {c : Char} (feed : c ≠ '\n') (ret : c ≠ '\r') :
    ∀ b ∈ String.utf8EncodeChar c, Ordinary b := by
  have noFeed : c.val.toNat ≠ 10 := fun same => feed (Char.ext (UInt32.toNat_inj.1 same))
  have noReturn : c.val.toNat ≠ 13 := fun same => ret (Char.ext (UInt32.toNat_inj.1 same))
  intro b present
  rw [String.utf8EncodeChar] at present
  -- beyond one byte, all bytes are 128 at least
  split at present
  · rw [List.mem_singleton] at present
    exact present ▸ ordinary_ofNat (by omega) (by omega)
  · split at present
    · simp only [List.mem_cons, List.not_mem_nil, or_false] at present
      rcases present with rfl | rfl <;> exact ordinary_ofNat (by omega) (by omega)
    · split at present
      · simp only [List.mem_cons, List.not_mem_nil, or_false] at present
        rcases present with rfl | rfl | rfl <;> exact ordinary_ofNat (by omega) (by omega)
      · simp only [List.mem_cons, List.not_mem_nil, or_false] at present
        rcases present with rfl | rfl | rfl | rfl <;> exact ordinary_ofNat (by omega) (by omega)

theorem utf8EncodeChar_ne_nil (c : Char) : String.utf8EncodeChar c ≠ [] := by
  simp only [String.utf8EncodeChar]
  split_ifs <;> exact List.cons_ne_nil _ _

theorem linesBy_ordinary {bytes : Bytes} (ordinary : ∀ b ∈ bytes, Ordinary b) (rest : Bytes) :
    linesBy 10 13 (bytes ++ rest) = bytes.foldr putFirst (linesBy 10 13 rest) := by
  induction bytes with
  | nil => rfl
  | cons b more ih =>
    obtain ⟨⟨feed, ret⟩, ordinary⟩ := List.forall_mem_cons.1 ordinary
    rw [List.cons_append, linesBy, if_neg feed, if_neg fun both => ret both.1, ih ordinary]
    rfl

theorem foldr_putFirst {bytes : Bytes} (some : bytes ≠ []) (lines : List Bytes) :
    bytes.foldr putFirst lines =
      match lines with
      | [] => [bytes]
      | line :: lines => (bytes ++ line) :: lines := by
  induction bytes with
  | nil => exact absurd rfl some
  | cons b more ih =>
    cases more with
    | nil => cases lines <;> rfl
    | cons c others =>
      rw [List.foldr_cons, ih (List.cons_ne_nil _ _)]
      cases lines <;> rfl

/-- The bytes of characters. -/
def charBytes (chars : List Char) : Bytes := chars.flatMap String.utf8EncodeChar

theorem encode_ofList (chars : List Char) :
    Text.encode (String.ofList chars) = charBytes chars :=
  Text.encode_ofList chars

theorem charBytes_cons (c : Char) (rest : List Char) :
    charBytes (c :: rest) = String.utf8EncodeChar c ++ charBytes rest :=
  List.flatMap_cons

/-- A character in front of a line are its bytes in front of the bytes of the line. -/
theorem map_putFirst (c : Char) (lines : List (List Char)) :
    (putFirst c lines).map charBytes =
      (String.utf8EncodeChar c).foldr putFirst (lines.map charBytes) := by
  rw [foldr_putFirst (utf8EncodeChar_ne_nil c)]
  cases lines with
  | nil => exact congrArg ([·]) (List.append_nil _)
  | cons line lines => rfl

theorem head?_charBytes (chars : List Char) :
    (charBytes chars).head? = some 10 ↔ chars.head? = some '\n' := by
  cases chars with
  | nil => exact ⟨nofun, nofun⟩
  | cons c rest =>
    have first : (charBytes (c :: rest)).head? = (String.utf8EncodeChar c).head? := by
      rw [charBytes_cons, List.head?_append_of_ne_nil _ (utf8EncodeChar_ne_nil c)]
    rw [first, List.head?_cons, Option.some.injEq]
    by_cases feed : c = '\n'
    · simp only [feed]
      decide
    · by_cases ret : c = '\r'
      · simp only [ret]
        decide
      · refine ⟨fun found => ?_, fun same => absurd same feed⟩
        exact absurd rfl (ordinary_utf8EncodeChar feed ret 10 (List.mem_of_head? found)).1

/-- Splitting the bytes of characters is splitting the characters. -/
theorem linesBy_charBytes (chars : List Char) :
    linesBy 10 13 (charBytes chars) = (linesBy '\n' '\r' chars).map charBytes := by
  induction chars with
  | nil => rfl
  | cons c rest ih =>
    rw [charBytes_cons]
    by_cases feed : c = '\n'
    · have one : String.utf8EncodeChar c = [10] := feed ▸ by decide
      rw [one, List.singleton_append, linesBy, if_pos rfl, linesBy, if_pos feed, List.map_cons, ih]
      rfl
    · by_cases ret : c = '\r'
      · have one : String.utf8EncodeChar c = [13] := ret ▸ by decide
        rw [one, List.singleton_append, linesBy, if_neg (by decide), linesBy, if_neg feed, ih]
        by_cases ahead : rest.head? = some '\n'
        · rw [if_pos ⟨rfl, (head?_charBytes rest).2 ahead⟩, if_pos ⟨ret, ahead⟩]
        · rw [if_neg fun both => ahead ((head?_charBytes rest).1 both.2),
            if_neg fun both => ahead both.2, map_putFirst, one]
          rfl
      · rw [linesBy_ordinary (ordinary_utf8EncodeChar feed ret), ih, linesBy, if_neg feed,
          if_neg fun both => ret both.1, map_putFirst]

/-- The lines of a text that is given as bytes are its lines. -/
theorem lines_encode (text : String) :
    lines (Text.encode text) = (textLines text).map some := by
  have bytes : Text.encode text = charBytes text.toList := by
    rw [← encode_ofList, String.ofList_toList]
  rw [lines_eq, bytes, linesBy_charBytes, textLines, List.map_map, List.map_map]
  refine List.map_congr_left fun line _ => ?_
  rw [Function.comp_apply, Function.comp_apply, ← encode_ofList, Text.decode?_encode]

end Inspector.LogStream
