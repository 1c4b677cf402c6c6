/-!
# White space

The characters with the Unicode property `White_Space`, and the two things the program does with
them: a text is trimmed at both ends, and a command line is divided into words.
-/

namespace Inspector.Text

/-- Whether the character is white space in Unicode's sense. -/
def isBlank (c : Char) : Bool :=
  let n := c.toNat
  (9 ≤ n && n ≤ 13) || n == 0x20 || n == 0x85 || n == 0xa0 || n == 0x1680 ||
    (0x2000 ≤ n && n ≤ 0x200a) || n == 0x2028 || n == 0x2029 || n == 0x202f ||
    n == 0x205f || n == 0x3000

/-- The text without white space at its ends. -/
def trim (text : String) : String :=
  let start := text.toList.dropWhile isBlank
  String.ofList (start.reverse.dropWhile isBlank).reverse

/-- The maximal runs of characters that are not white space, with the first of them still open
in `word`. -/
def wordsFrom (word : List Char) : List Char → List (List Char)
  | [] => if word.isEmpty then [] else [word.reverse]
  | c :: rest =>
    if isBlank c then
      if word.isEmpty then wordsFrom [] rest else word.reverse :: wordsFrom [] rest
    else wordsFrom (c :: word) rest

/-- The words of a text, divided by white space of any length. -/
def words (text : String) : List String :=
  (wordsFrom [] text.toList).map String.ofList

/-- Core's white space is white space here. -/
theorem isBlank_of_isWhitespace (c : Char) (blank : c.isWhitespace) : isBlank c := by
  simp only [Char.isWhitespace, Bool.or_eq_true, decide_eq_true_eq] at blank
  rcases blank with ((rfl | rfl) | rfl) | rfl <;> decide

end Inspector.Text
