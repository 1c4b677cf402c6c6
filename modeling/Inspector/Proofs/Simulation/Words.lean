import Mathlib.Algebra.Order.Ring.Int
import Mathlib.Algebra.Order.Ring.Nat
import Mathlib.Data.List.Basic
import Inspector.Simulation.Program.Escape
import Inspector.Simulation.Program.Integer
import Inspector.Simulation.Program.Layout
import Inspector.Simulation.Program.Quoting

/-!
# How programs read and write words

* Escapes are carried out one after the other to the end of the word (`Escape.apply_backslash`,
  `Escape.apply_plain`): the bound on their number is never met.
* Numbers that words stand for have 64 bits, whatever the word (`signedArgument_bounds`,
  `unsignedArgument_lt`).
* A field is as wide as it has to be, and wider only to its least width (`Layout.length_place`).
* A shell reads a quoted word back as it was, if it can be printed (`Quoting.read_quote`).
-/

namespace Inspector.Program

/-! ## Escapes -/

/-- What is left behind an escape is no longer than what was there. -/
def Escape.Shrinks (escape : Escape) : Prop :=
  ∀ word, (escape word).2.length ≤ word.length

theorem length_splitFewDigits (radix limit : Nat) (word : Octets) :
    (splitFewDigits radix limit word).2.length ≤ word.length := by
  simp [splitFewDigits]

theorem octalEscape_shrinks : octalEscape.Shrinks :=
  length_splitFewDigits 8 3

theorem numberEscape_shrinks (size : Nat) : (numberEscape size).Shrinks := by
  intro word
  rw [numberEscape]
  dsimp only
  split
  · exact length_splitFewDigits 16 size word
  · exact Nat.zero_le _

theorem echoEscape_shrinks : echoEscape.Shrinks := by
  intro word
  fun_cases echoEscape word with
  | case1 | case2 => exact Nat.zero_le _
  | case4 word digits rest _ split =>
    have shorter := length_splitFewDigits 16 2 word
    rw [split] at shorter
    exact Nat.le_succ_of_le shorter
  | case5 word => exact Nat.le_succ_of_le (octalEscape_shrinks word)
  | case6 c word => exact octalEscape_shrinks (c :: word)
  | case3 | case7 | case8 => exact Nat.le_succ _

theorem printfEscape_shrinks (inArgument : Bool) : (printfEscape inArgument).Shrinks := by
  intro word
  fun_cases printfEscape inArgument word with
  | case1 | case2 | case4 => exact Nat.zero_le _
  | case5 word digits rest _ split =>
    have shorter := length_splitFewDigits 16 2 word
    rw [split] at shorter
    exact Nat.le_succ_of_le shorter
  | case6 word => exact Nat.le_succ_of_le (numberEscape_shrinks 4 word)
  | case7 word => exact Nat.le_succ_of_le (numberEscape_shrinks 8 word)
  | case8 c word => exact Nat.le_succ_of_le (octalEscape_shrinks word)
  | case9 c word => exact octalEscape_shrinks (c :: word)
  | case3 | case10 | case11 => exact Nat.le_succ _

namespace Escape

variable {escape : Escape}

/-- With at least so many steps as there are characters, their number makes no difference. -/
theorem inWord_eq (shrinks : escape.Shrinks) {fuel fuel' : Nat} {word : Octets}
    (enough : word.length ≤ fuel) (enough' : word.length ≤ fuel') :
    inWord escape fuel word = inWord escape fuel' word := by
  induction fuel generalizing fuel' word with
  | zero =>
    obtain rfl := List.eq_nil_of_length_eq_zero (Nat.le_zero.1 enough)
    cases fuel' <;> rfl
  | succ fuel ih =>
    cases word with
    | nil => cases fuel' <;> rfl
    | cons c rest =>
      cases fuel' with
      | zero => cases enough'
      | succ fuel' =>
        have there : rest.length ≤ fuel := Nat.le_of_succ_le_succ enough
        have there' : rest.length ≤ fuel' := Nat.le_of_succ_le_succ enough'
        by_cases backslash : c = '\\'
        · subst backslash
          have less := shrinks rest
          simp only [inWord]
          rw [ih (Nat.le_trans less there) (Nat.le_trans less there')]
        · simp only [inWord]
          rw [ih there there']

theorem apply_backslash (shrinks : escape.Shrinks) (word : Octets) :
    escape.apply ('\\' :: word) = (escape word).1.andThen (escape.apply (escape word).2) := by
  have same := inWord_eq shrinks (shrinks word) (Nat.le_refl (escape word).2.length)
  rw [apply, apply, List.length_cons, inWord, ← same]

theorem apply_plain {c : Char} (plain : c ≠ '\\') (word : Octets) :
    escape.apply (c :: word) = Printed.andThen { text := [c] } (escape.apply word) := by
  rw [apply, List.length_cons, inWord, apply]
  exact plain

end Escape

/-! ## Whole numbers -/

theorem quotedCharacter?_lt {word : Octets} {n : Nat} (quoted : quotedCharacter? word = some n) :
    n < 2 ^ 32 := by
  have small (c : Char) : c.toNat < 2 ^ 32 := UInt32.toNat_lt c.val
  simp only [quotedCharacter?] at quoted
  split at quoted
  · exact Option.some.inj quoted ▸ small _
  · exact Option.some.inj quoted ▸ small _
  · cases quoted

theorem signedArgument_bounds (word : Octets) :
    -2 ^ 63 ≤ signedArgument word ∧ signedArgument word < 2 ^ 63 := by
  rw [signedArgument]
  split
  · rename_i n quoted
    have small := quotedCharacter?_lt quoted
    omega
  · rcases leadingInteger word with ⟨negative, size⟩
    cases negative <;> simp only [Bool.false_eq_true, ↓reduceIte, Nat.shiftLeft_eq] <;> omega

theorem unsignedArgument_lt (word : Octets) : unsignedArgument word < 2 ^ 64 := by
  rw [unsignedArgument]
  split
  · rename_i n quoted
    have small := quotedCharacter?_lt quoted
    omega
  · rcases leadingInteger word with ⟨negative, size⟩
    simp only [UInt64.size]
    split
    · omega
    · split <;> omega

/-! ## Fields -/

theorem Layout.length_place (layout : Layout) (withZeros : Bool) (front body : Octets) :
    (layout.place withZeros front body).length = max layout.width (front.length + body.length) := by
  simp only [place]
  split
  · simp only [List.length_append, List.length_replicate]
    omega
  · split <;> simp only [List.length_append, List.length_replicate] <;> omega

/-! ## Quotes -/

namespace Quoting

/-- Where a shell is in a word: outside of quotes, or between single or double ones. -/
inductive Place where
  | outside
  | single
  | double

/-- The word that a shell reads. It is none if something special is met where it is special, or if
quotes are left open. -/
def read : Place → Octets → Option Octets
  | .outside, [] => some []
  | _, [] => none
  | .outside, '\'' :: rest => read .single rest
  | .outside, '"' :: rest => read .double rest
  | .outside, '\\' :: c :: rest => (read .outside rest).map (c :: ·)
  | .outside, c :: rest => if specials.contains c then none else (read .outside rest).map (c :: ·)
  | .single, '\'' :: rest => read .outside rest
  | .single, c :: rest => (read .single rest).map (c :: ·)
  | .double, '"' :: rest => read .outside rest
  | .double, c :: rest =>
    if "$`\\!".toList.contains c then none else (read .double rest).map (c :: ·)

theorem read_singleQuoted {word : Octets} (printable : ∀ c ∈ word, isPrintable c = true) :
    read .single (singleQuoted false word ++ ['\'']) = some word := by
  induction word with
  | nil => rfl
  | cons c rest ih =>
    obtain ⟨first, printable⟩ := List.forall_mem_cons.1 printable
    have onward := ih printable
    by_cases quote : c = '\''
    · subst quote
      have written : singleQuoted false ('\'' :: rest) =
          '\'' :: '\\' :: '\'' :: '\'' :: singleQuoted false rest := rfl
      rw [written]
      simp [read, onward]
    · have written : singleQuoted false (c :: rest) = c :: singleQuoted false rest := by
        simp [singleQuoted, quote, first]
      rw [written]
      simp [read, onward]

theorem read_doubleQuoted {word : Octets}
    (plain : ∀ c ∈ word, c ≠ '"' ∧ "$`\\!".toList.contains c = false) :
    read .double (word ++ ['"']) = some word := by
  induction word with
  | nil => rfl
  | cons c rest ih =>
    obtain ⟨⟨noEnd, unspecial⟩, plain⟩ := List.forall_mem_cons.1 plain
    rw [List.cons_append, read, if_neg (Bool.eq_false_iff.1 unspecial), ih plain]
    · rfl
    · exact noEnd

theorem read_unquoted {word : Octets} (plain : ∀ c ∈ word, specials.contains c = false) :
    read .outside word = some word := by
  induction word with
  | nil => rfl
  | cons c rest ih =>
    obtain ⟨first, plain⟩ := List.forall_mem_cons.1 plain
    have differ (special : Char) (among : specials.contains special = true) : c ≠ special := by
      rintro rfl
      exact Bool.false_ne_true (first.symm.trans among)
    rw [read, if_neg (Bool.eq_false_iff.1 first), ih plain]
    · rfl
    · exact differ '\'' (by decide)
    · exact differ '"' (by decide)
    · exact fun _ _ same => absurd same (differ '\\' (by decide))

/-- What may stand between double quotes is not special there. -/
theorem isPlain_spec {single : Bool} {place : Nat} {c : Char}
    (plain : isPlain single place c = true) :
    c ≠ '"' ∧ "$`\\!".toList.contains c = false := by
  refine ⟨?_, ?_⟩
  · rintro rfl
    cases plain
  · have list : "$`\\!".toList = ['$', Char.ofNat 96, '\\', '!'] := by decide
    refine Bool.eq_false_iff.2 fun special => ?_
    rw [list, List.contains_iff_mem] at special
    simp only [List.mem_cons, List.not_mem_nil, or_false] at special
    rcases special with rfl | rfl | rfl | rfl <;> cases plain

/-- A word of characters that can be printed is read back from its quotes. -/
theorem read_quote {word : Octets} (printable : ∀ c ∈ word, isPrintable c = true) :
    read .outside (quote word) = some word := by
  have placed {c : Char} (found : c ∈ word) : ∃ place, (c, place) ∈ word.zipIdx := by
    rw [← List.zipIdx_map_fst 0 word] at found
    obtain ⟨⟨c, place⟩, among, rfl⟩ := List.mem_map.1 found
    exact ⟨place, among⟩
  have started : startsInNumbers word = false := by
    rw [startsInNumbers]
    cases last : word.getLast? with
    | none => exact Bool.and_false _
    | some c => simp [printable c (List.mem_of_getLast? last)]
  simp only [quote]
  split
  · rename_i safe
    refine read_unquoted fun c found => ?_
    obtain ⟨place, among⟩ := placed found
    have bare := List.all_eq_true.1 (Bool.and_eq_true_iff.1 safe).2 _ among
    simp only [needsQuotes, Bool.not_eq_true', Bool.or_eq_false_iff] at bare
    exact bare.1.1.2
  · split
    · rename_i plain
      refine read_doubleQuoted fun c found => ?_
      obtain ⟨place, among⟩ := placed found
      exact isPlain_spec (List.all_eq_true.1 (Bool.and_eq_true_iff.1 plain).2 _ among)
    · rw [started]
      exact read_singleQuoted printable

end Quoting

end Inspector.Program
