import Mathlib.Data.List.TakeWhile
import Inspector.LogStream.Command
import Inspector.Options.Settings

/-!
# Log commands on any machine

`Text.Spells` says how words are written in a text, and every text spells just one list of words,
those it is divided into (`Text.words_eq_iff`). White space around a text does not count
(`Text.words_trim`).

So a log command is refused just if it has no words or the command before it has none
(`LogStream.tail?_eq_none_iff`), whatever the machine. Those of an agent's settings are never
refused, and run as they are set (`LogStream.tail?_of_settings`).
-/

namespace Inspector

/-! ## Words -/

namespace Text

/-- Characters that are all white space. -/
def Blank (chars : List Char) : Prop := ∀ c ∈ chars, isBlank c = true

/-- Characters, at least one, none of which is white space. -/
def IsWord (word : List Char) : Prop := word ≠ [] ∧ ∀ c ∈ word, isBlank c = false

/-- How words are written: white space stands between them, and may stand around them. -/
inductive Spells : List (List Char) → List Char → Prop
  | blank {gap : List Char} : Blank gap → Spells [] gap
  | word {gap word rest : List Char} {words : List (List Char)} :
      Blank gap → IsWord word → (∀ c ∈ rest.head?, isBlank c = true) → Spells words rest →
      Spells (word :: words) (gap ++ word ++ rest)

variable {words : List (List Char)} {text gap word : List Char}

theorem Blank.append {more : List Char} (blank : Blank gap) (also : Blank more) :
    Blank (gap ++ more) :=
  fun c found => (List.mem_append.1 found).elim (blank c) (also c)

theorem Spells.blank_append (spells : Spells words text) (front : Blank gap) :
    Spells words (gap ++ text) := by
  cases spells with
  | blank rest => exact .blank (front.append rest)
  | @word between word rest words blank isWord ended spells =>
    rw [List.append_assoc, ← List.append_assoc, ← List.append_assoc]
    exact .word (front.append blank) isWord ended spells

theorem Spells.append_blank (spells : Spells words text) (back : Blank gap) :
    Spells words (text ++ gap) := by
  induction spells with
  | blank front => exact .blank (front.append back)
  | @word between word rest words blank isWord ended _ ih =>
    rw [List.append_assoc]
    refine .word blank isWord (fun c first => ?_) ih
    cases rest with
    | nil => exact back c (List.mem_of_head? first)
    | cons _ _ => exact ended c first

theorem wordsFrom_blank (blank : Blank gap) (rest : List Char) :
    wordsFrom [] (gap ++ rest) = wordsFrom [] rest := by
  induction gap with
  | nil => rfl
  | cons c gap ih =>
    obtain ⟨first, blank⟩ := List.forall_mem_cons.1 blank
    rw [List.cons_append, wordsFrom, if_pos first]
    exact ih blank

theorem wordsFrom_append (plain : ∀ c ∈ word, isBlank c = false) (front rest : List Char) :
    wordsFrom front (word ++ rest) = wordsFrom (word.reverse ++ front) rest := by
  induction word generalizing front with
  | nil => rfl
  | cons c word ih =>
    obtain ⟨first, plain⟩ := List.forall_mem_cons.1 plain
    rw [List.cons_append, wordsFrom, if_neg (by simp [first]), ih plain]
    simp

/-- A word ends where white space or the end of the text follows. -/
theorem wordsFrom_ended {front rest : List Char} (isOpen : front ≠ [])
    (ended : ∀ c ∈ rest.head?, isBlank c = true) :
    wordsFrom front rest = front.reverse :: wordsFrom [] rest := by
  have isOpen : front.isEmpty = false := List.isEmpty_eq_false_iff.2 isOpen
  cases rest with
  | nil => simp [wordsFrom, isOpen]
  | cons c rest => simp [wordsFrom, isOpen, ended c rfl]

theorem Spells.wordsFrom_eq (spells : Spells words text) : wordsFrom [] text = words := by
  induction spells with
  | @blank gap blank => simpa [wordsFrom] using wordsFrom_blank blank []
  | @word gap word rest words blank isWord ended _ ih =>
    have isOpen : word.reverse ++ [] ≠ [] := by simpa using isWord.1
    rw [List.append_assoc, wordsFrom_blank blank, wordsFrom_append isWord.2,
      wordsFrom_ended isOpen ended, ih]
    simp

/-- The induction is over the text, with the start of a word still open. -/
theorem spells_wordsFrom (text : List Char) {front : List Char}
    (plain : ∀ c ∈ front, isBlank c = false) :
    Spells (wordsFrom front text) (front.reverse ++ text) := by
  have closed {front rest : List Char} (plain : ∀ c ∈ front, isBlank c = false)
      (isOpen : front.isEmpty = false) (ended : ∀ c ∈ rest.head?, isBlank c = true)
      (spells : Spells (wordsFrom [] rest) rest) :
      Spells (front.reverse :: wordsFrom [] rest) (front.reverse ++ rest) := by
    refine @Spells.word [] _ _ _ nofun ⟨?_, ?_⟩ ended spells
    · simpa using isOpen
    · simpa using plain
  induction text generalizing front with
  | nil =>
    cases isOpen : front.isEmpty with
    | true =>
      obtain rfl := List.isEmpty_iff.1 isOpen
      exact .blank nofun
    | false =>
      have written := @closed _ [] plain isOpen nofun (.blank nofun)
      simpa [wordsFrom, isOpen] using written
  | cons c rest ih =>
    by_cases blank : isBlank c = true
    · have spells : Spells (wordsFrom [] rest) (c :: rest) :=
        (@ih [] nofun).blank_append (List.forall_mem_singleton.2 blank)
      have same : wordsFrom [] (c :: rest) = wordsFrom [] rest := by simp [wordsFrom, blank]
      cases isOpen : front.isEmpty with
      | true =>
        obtain rfl := List.isEmpty_iff.1 isOpen
        exact same ▸ spells
      | false =>
        have written := @closed _ (c :: rest) plain isOpen (by simpa using blank) (same ▸ spells)
        simpa [wordsFrom, isOpen, blank] using written
    · have plain : ∀ d ∈ c :: front, isBlank d = false :=
        List.forall_mem_cons.2 ⟨by simpa using blank, plain⟩
      have spells := ih plain
      rw [List.reverse_cons, List.append_assoc] at spells
      simpa [wordsFrom, blank] using spells

/-- A text is divided into the words that it spells. -/
theorem words_eq_iff {line : String} {words : List String} :
    Text.words line = words ↔ Spells (words.map String.toList) line.toList := by
  have spelled : Spells (wordsFrom [] line.toList) line.toList :=
    @spells_wordsFrom line.toList [] nofun
  constructor
  · rintro rfl
    simpa [Text.words, Function.comp_def] using spelled
  · intro spells
    rw [Text.words, spells.wordsFrom_eq]
    simp

theorem Spells.isWord (spells : Spells words text) : ∀ word ∈ words, IsWord word := by
  induction spells with
  | blank => exact List.forall_mem_nil _
  | word _ isWord _ _ ih => exact List.forall_mem_cons.2 ⟨isWord, ih⟩

theorem isWord_of_mem_words {line word : String} (found : word ∈ Text.words line) :
    IsWord word.toList :=
  (words_eq_iff.1 rfl).isWord _ (List.mem_map_of_mem found)

/-- A word has no ends of lines in it. -/
theorem IsWord.plain (isWord : IsWord word) : '\n' ∉ word ∧ '\r' ∉ word :=
  ⟨fun found => absurd (isWord.2 _ found) (by decide),
    fun found => absurd (isWord.2 _ found) (by decide)⟩

theorem words_eq_nil_iff {line : String} : Text.words line = [] ↔ Blank line.toList := by
  rw [words_eq_iff, List.map_nil]
  refine ⟨fun spells => ?_, .blank⟩
  generalize line.toList = text at *
  cases spells with | blank blank => exact blank

theorem exists_trim (line : String) : ∃ front back, Blank front ∧ Blank back ∧
    line.toList = front ++ (trim line).toList ++ back := by
  let start := line.toList.dropWhile isBlank
  refine ⟨line.toList.takeWhile isBlank, (start.reverse.takeWhile isBlank).reverse,
    fun c found => List.mem_takeWhile_imp found,
    fun c found => List.mem_takeWhile_imp (List.mem_reverse.1 found), ?_⟩
  have back : (trim line).toList ++ (start.reverse.takeWhile isBlank).reverse = start := by
    rw [trim, String.toList_ofList, ← List.reverse_append, List.takeWhile_append_dropWhile,
      List.reverse_reverse]
  rw [List.append_assoc, back, List.takeWhile_append_dropWhile]

theorem words_trim (line : String) : Text.words (trim line) = Text.words line := by
  obtain ⟨front, back, blank, blank', parts⟩ := exists_trim line
  have spells : Spells ((Text.words (trim line)).map String.toList) (trim line).toList :=
    words_eq_iff.1 rfl
  refine (words_eq_iff.2 ?_).symm
  rw [parts]
  exact (spells.blank_append blank).append_blank blank'

theorem trim_eq_empty_iff {line : String} : trim line = "" ↔ Blank line.toList := by
  constructor
  · intro empty
    obtain ⟨front, back, blank, blank', parts⟩ := exists_trim line
    rw [parts, empty]
    exact (blank.append (List.forall_mem_nil _)).append blank'
  · intro blank
    have none : line.toList.dropWhile isBlank = [] := List.dropWhile_eq_nil_iff.2 blank
    rw [trim, none]
    rfl

end Text

/-! ## Commands -/

namespace LogStream

open Text

variable {command line : String} {words : List String}

theorem command?_eq_some_iff :
    command? line = some words ↔ Text.words line = words ∧ words ≠ [] := by
  rw [command?]
  split
  · rename_i empty
    rw [empty]
    exact ⟨nofun, fun both => absurd both.1.symm both.2⟩
  · rename_i some
    rw [Option.some.injEq]
    exact ⟨fun same => ⟨same, same ▸ some⟩, And.left⟩

theorem command?_eq_none_iff : command? line = none ↔ Blank line.toList := by
  rw [← words_eq_nil_iff, command?]
  split
  · exact iff_of_true rfl ‹_›
  · exact iff_of_false nofun ‹_›

/-- A command of the settings is there just if it has words, and then it has the same ones. -/
theorem command?_of_settings (text : String) :
    (Settings.command? text).map command? = (command? text).map some := by
  rw [Settings.command?]
  by_cases blank : Blank text.toList
  · have empty : (trim text).isEmpty = true := by simpa using trim_eq_empty_iff.2 blank
    rw [command?_eq_none_iff.2 blank]
    simp [empty]
  · have some : (trim text).isEmpty = false := by simpa using mt trim_eq_empty_iff.1 blank
    obtain ⟨words, found⟩ := Option.ne_none_iff_exists'.1 (mt command?_eq_none_iff.1 blank)
    have same : command? (trim text) = command? text := by rw [command?, words_trim, command?]
    simp [some, same, found]

section

variable [Machine]

/-- A log command is refused just if it or the command before it has no words. -/
theorem tail?_eq_none_iff {clear : Option String} : tail? command clear = none ↔
    Blank command.toList ∨ ∃ line ∈ clear, Blank line.toList := by
  have cleared : clear.mapM command? = none ↔ ∃ line ∈ clear, Blank line.toList := by
    cases clear with
    | none => exact iff_of_false nofun nofun
    | some line =>
      rw [Option.mapM_some, Option.map_eq_map, Option.map_eq_none_iff, command?_eq_none_iff]
      simp
  rw [← cleared, ← command?_eq_none_iff, tail?]
  cases command? command with
  | none => simp
  | some words => cases clear.mapM command? <;> simp

/-- A log command that is not refused is run. -/
theorem tail?_eq_some {clear : Option String} (found : command? command = some words)
    (cleared : ∀ line ∈ clear, ¬Blank line.toList) : ∃ before,
      tail? command clear = some (lines ((Machine.output? before words).getD [])) := by
  rw [tail?, found]
  cases clear with
  | none => exact ⟨none, rfl⟩
  | some line =>
    obtain ⟨before, there⟩ :=
      Option.ne_none_iff_exists'.1 (mt command?_eq_none_iff.1 (cleared line rfl))
    exact ⟨some before, by simp [there]⟩

/-- The commands of an agent's settings are never refused. -/
theorem tail?_of_settings (settings : Settings)
    (found : settings.effectiveLogCommand = some command) :
    ∃ words, command? settings.logCommand = some words ∧
      tail? command settings.effectiveClearCommand =
        some (lines ((Machine.output? (command? settings.clearCommand) words).getD [])) := by
  have log := command?_of_settings settings.logCommand
  rw [Settings.effectiveLogCommand] at found
  rw [found] at log
  obtain ⟨words, there, same⟩ := Option.map_eq_some_iff.1 log.symm
  refine ⟨words, there, ?_⟩
  have clear := command?_of_settings settings.clearCommand
  rw [tail?, ← same, Settings.effectiveClearCommand]
  cases cleared : Settings.command? settings.clearCommand with
  | none =>
    rw [cleared] at clear
    rw [Option.map_eq_none_iff.1 clear.symm]
    rfl
  | some line =>
    rw [cleared] at clear
    obtain ⟨before, there', same'⟩ := Option.map_eq_some_iff.1 clear.symm
    rw [there']
    simp [← same']

end

end LogStream

end Inspector
