import Mathlib.Data.List.Perm.Subperm
import Inspector.Proofs.LogStream.Commands
import Inspector.Proofs.LogStream.Lines
import Inspector.Simulation.Machine

/-!
# What log commands print on the simulated machine

Each of the programs is followed from the words of a command line to the lines of the log:

* `echo` prints its words on one line (`tail?_echo`),
* `printf %s\n` prints each of its words on a line of its own, going through its format for one
  after the other (`tail?_printf`),
* `seq` prints the numbers that it counts (`tail?_seq`),
* `ls` prints nothing but paths that it is given and that lead somewhere (`tail?_ls`).
-/

namespace Inspector

open LogStream Text

/-! ## Texts as octets -/

namespace Program.Octets

theorem ofText_append (first second : String) :
    ofText (first ++ second) = ofText first ++ ofText second := by
  have bytes : Text.encode (first ++ second) = Text.encode first ++ Text.encode second := by
    simp [Text.encode, String.toUTF8_eq_toByteArray, String.toByteArray_append]
  rw [ofText, bytes, List.map_append, ofText, ofText]

theorem ofText_join (texts : List String) :
    ofText (String.join texts) = texts.flatMap ofText := by
  induction texts with
  | nil => rfl
  | cons text rest ih => rw [String.join_cons, ofText_append, ih, List.flatMap_cons]

theorem ofText_intercalate (between : String) (texts : List String) :
    ofText (between.intercalate texts) =
      ((texts.map ofText).intersperse (ofText between)).flatten := by
  induction texts with
  | nil => rfl
  | cons text rest ih =>
    cases rest with
    | nil => simp
    | cons second rest =>
      rw [String.intercalate_cons_cons, ofText_append, ofText_append, ih, List.append_assoc]
      rfl

/-- A character below 128 is its own byte. -/
theorem ofText_ofList {chars : List Char} (plain : ∀ c ∈ chars, c.toNat < 128) :
    ofText (String.ofList chars) = chars := by
  rw [ofText, Text.encode_ofList]
  induction chars with
  | nil => rfl
  | cons c rest ih =>
    obtain ⟨first, plain⟩ := List.forall_mem_cons.1 plain
    have byte : String.utf8EncodeChar c = [UInt8.ofNat c.toNat] := by
      have small : c.val.toNat ≤ 127 := Nat.le_of_lt_succ first
      simp only [String.utf8EncodeChar, if_pos small]
      rfl
    have same : (UInt8.ofNat c.toNat).toNat = c.toNat := by
      rw [UInt8.toNat_ofNat']
      omega
    rw [List.flatMap_cons, byte, List.map_append, ih plain]
    simp [same]

theorem ofText_toString (n : Nat) : ofText (toString n) = Nat.toDigits 10 n := by
  rw [Nat.toString_eq_ofList_toDigits]
  refine ofText_ofList fun c found => ?_
  have digit := Nat.isDigit_of_mem_toDigits (by decide) le_rfl found
  simp only [Char.isDigit, Bool.and_eq_true, decide_eq_true_eq] at digit
  have small : c.val.toNat ≤ 57 := UInt32.le_iff_toNat_le.1 digit.2
  exact Nat.lt_of_le_of_lt small (by decide)

end Program.Octets

/-! ## The machine -/

namespace Simulation

open Program

variable {command name : String} {clear : Option String} {words lines : List String}

/-- A log command whose program prints some lines, each with a line feed behind it. -/
theorem tail?_of_output (spelled : Text.words command = name :: words)
    (passable : ∀ word ∈ name :: words, isPassable word = true)
    (cleared : ∀ line ∈ clear, ¬Blank line.toList)
    (plain : ∀ line ∈ lines, '\n' ∉ line.toList ∧ '\r' ∉ line.toList)
    (printed : output (programName name) (words.map Octets.ofText) =
      (lines.map (Octets.ofText · ++ ['\n'])).flatten) :
    tail? command clear = some (lines.map some) := by
  have text : output (programName name) (words.map Octets.ofText) =
      Octets.ofText (String.join (lines.map (· ++ "\n"))) := by
    have feed : Octets.ofText "\n" = ['\n'] := by decide
    rw [printed, Octets.ofText_join, List.flatMap_def, List.map_map]
    simp [Function.comp_def, Octets.ofText_append, feed]
  have all : (name :: words).all isPassable = true := List.all_eq_true.2 passable
  have ran (before : Option (List String)) : Machine.output? before (name :: words) =
      some (Text.encode (String.join (lines.map (· ++ "\n")))) := by
    simp only [Machine.output?, if_pos all, text, Octets.toBytes_ofText]
  obtain ⟨before, told⟩ :=
    tail?_eq_some (command?_eq_some_iff.2 ⟨spelled, List.cons_ne_nil _ _⟩) cleared
  rw [told, ran, Option.getD_some, lines_encode, textLines_join plain]

end Simulation

/-! ## `echo` -/

namespace Program.Echo

/-- Without options, the words are printed with spaces between them. -/
theorem run_of_plain {words : List String}
    (plain : ∀ word ∈ words.head?, letters? (Octets.ofText word) = none) :
    run (words.map Octets.ofText) = Octets.ofText (" ".intercalate words) ++ ['\n'] := by
  have read : options {} (words.map Octets.ofText) = ({}, words.map Octets.ofText) := by
    cases words with
    | nil => rfl
    | cons word rest => rw [List.map_cons, options, plain word rfl]
  have space : Octets.ofText " " = [' '] := by decide
  rw [run, read, Octets.ofText_intercalate, space]
  rfl

end Program.Echo

/-! ## `printf` -/

namespace Program.Printf

/-- The pieces of the format that prints a word and a line feed. -/
theorem pieces_line : pieces (Octets.ofText "%s\\n") =
    [.conversion { marks := [], width := .given 0, precision := none, kind := .text },
      .plain { text := ['\n'] }] := by
  rfl

theorem pass_line (word : Octets) (rest : List Octets) :
    pass (pieces (Octets.ofText "%s\\n")) (word :: rest) = ({ text := word ++ ['\n'] }, rest) := by
  simp [pieces_line, pass, Piece.print, Conversion.layout?, Amount.resolve, Layout.isPrintable,
    Kind.render, Layout.text, Layout.place, Printed.andThen]

/-- The format is gone through once for each word. -/
theorem passes_line (word : Octets) (words : List Octets) {fuel : Nat}
    (enough : words.length < fuel) :
    passes (pieces (Octets.ofText "%s\\n")) fuel (word :: words) =
      { text := (word :: words).flatMap (· ++ ['\n']) } := by
  induction words generalizing word fuel with
  | nil =>
    cases fuel with
    | zero => cases enough
    | succ fuel => simp [passes, pass_line]
  | cons next words ih =>
    cases fuel with
    | zero => cases enough
    | succ fuel =>
      have onward := ih next (Nat.lt_of_succ_lt_succ enough)
      rw [passes, pass_line]
      simp [Printed.andThen, onward]

theorem run_line {words : List Octets} (hasWords : words ≠ []) :
    run (Octets.ofText "%s\\n" :: words) = words.flatMap (· ++ ['\n']) := by
  have format : Octets.ofText "%s\\n" ≠ ['-', '-'] := by decide
  cases words with
  | nil => exact absurd rfl hasWords
  | cons word words =>
    simp only [run, List.head?_cons, Option.some.injEq, if_neg format]
    rw [passes_line word words (by rw [List.length_cons]; omega)]

end Program.Printf

/-! ## `seq` -/

namespace Program

theorem digit?_digitChar : ∀ n < 10, digit? 10 (Nat.digitChar n) = some n := by
  decide

theorem numberOf_concat (radix : Nat) (digits : Octets) (c : Char) :
    numberOf radix (digits ++ [c]) = numberOf radix digits * radix + (digit? radix c).getD 0 := by
  rw [numberOf, List.foldl_append]
  rfl

theorem numberOf_toDigits (n : Nat) : numberOf 10 (Nat.toDigits 10 n) = n := by
  induction n using Nat.strongRecOn with
  | ind n ih =>
    rw [Nat.toDigits_eq_if (by decide)]
    split
    · rename_i small
      have last := numberOf_concat 10 [] (Nat.digitChar n)
      rw [digit?_digitChar n small] at last
      simpa [numberOf] using last
    · rename_i large
      rw [numberOf_concat, ih (n / 10) (by omega), digit?_digitChar _ (Nat.mod_lt n (by decide))]
      exact Nat.div_add_mod' n 10

theorem isDigitOf_of_mem_toDigits {n : Nat} : ∀ c ∈ Nat.toDigits 10 n, isDigitOf 10 c = true := by
  induction n using Nat.strongRecOn with
  | ind n ih =>
    have digit {d : Nat} (small : d < 10) : isDigitOf 10 (Nat.digitChar d) = true := by
      rw [isDigitOf, digit?_digitChar d small]
      rfl
    rw [Nat.toDigits_eq_if (by decide)]
    split
    · rename_i small
      exact List.forall_mem_singleton.2 (digit small)
    · rename_i large
      exact List.forall_mem_append.2 ⟨ih (n / 10) (by omega),
        List.forall_mem_singleton.2 (digit (Nat.mod_lt n (by decide)))⟩

namespace Seq

/-- A separator between lines and a line feed at the end. -/
theorem intersperse_feed {lines : List Octets} (hasLines : lines ≠ []) :
    (lines.intersperse ['\n']).flatten ++ ['\n'] = (lines.map (· ++ ['\n'])).flatten := by
  induction lines with
  | nil => exact absurd rfl hasLines
  | cons line rest ih =>
    cases rest with
    | nil => simp
    | cons next rest =>
      have onward := ih (List.cons_ne_nil _ _)
      rw [List.map_cons, List.flatten_cons, ← onward]
      simp

theorem digitsOnly?_toDigits (n : Nat) : digitsOnly? (Nat.toDigits 10 n) = some n := by
  have all : (Nat.toDigits 10 n).all (isDigitOf 10) = true :=
    List.all_eq_true.2 isDigitOf_of_mem_toDigits
  rw [digitsOnly?, numberOf_toDigits]
  simp [all, Nat.toDigits_ne_nil]

theorem countUp_eq (step count first : Nat) :
    countUp step count first = (List.range' first count step).map (Nat.toDigits 10) := by
  induction count generalizing first with
  | zero => rfl
  | succ count ih => rw [countUp, ih, List.range'_succ, List.map_cons]

/-- The numbers from the first on, step by step, that are not above the last. -/
theorem run_eq {first step last : Nat} (pos : 0 < step) (small : step ≤ maxExactStep)
    (le : first ≤ last) :
    run [Nat.toDigits 10 first, Nat.toDigits 10 step, Nat.toDigits 10 last] =
      ((List.range' first ((last - first) / step + 1) step).map
        (Nat.toDigits 10 · ++ ['\n'])).flatten := by
  have read : options {} 3 [Nat.toDigits 10 first, Nat.toDigits 10 step, Nat.toDigits 10 last] =
      some ({}, [Nat.toDigits 10 first, Nat.toDigits 10 step, Nat.toDigits 10 last]) := by
    obtain ⟨c, rest, digits⟩ := List.exists_cons_of_ne_nil (@Nat.toDigits_ne_nil first 10)
    have digit : isDigitOf 10 c = true :=
      @isDigitOf_of_mem_toDigits first c (digits ▸ List.mem_cons_self)
    have differ : c ≠ '-' := by
      rintro rfl
      exact absurd digit (by decide)
    rw [digits]
    simp [options, isNegativeNumber, differ]
  have counted : digitNumbers? ⟨some (Nat.toDigits 10 first), some (Nat.toDigits 10 step),
      Nat.toDigits 10 last⟩ =
        some ((List.range' first ((last - first) / step + 1) step).map (Nat.toDigits 10)) := by
    simp [digitNumbers?, digitsOnly?_toDigits, pos, small, exactNumbers?, le, countUp_eq]
  have counts :
      (List.range' first ((last - first) / step + 1) step).map (Nat.toDigits 10) ≠ [] := by
    simp
  have feeds := intersperse_feed counts
  rw [List.map_map] at feeds
  simp only [run, List.length_cons, List.length_nil, Nat.zero_add, Nat.reduceAdd, read,
    Option.bind_eq_bind, Option.bind_some, operands?, counted]
  have allowed : ({} : Settings).allowsExact = true := rfl
  simpa [allowed, Function.comp_def] using feeds

end Seq

end Program

/-! ## `ls` -/

namespace Program.Ls

theorem sublist_of_options? {settings settings' : Settings} {words paths : List Octets}
    (read : options? settings words = some (settings', paths)) : paths.Sublist words := by
  induction settings, words using options?.induct generalizing paths with
  | case1 settings =>
    cases read
    exact .slnil
  | case2 settings words =>
    rw [options?] at read
    cases read
    exact List.sublist_cons_self _ _
  | case3 settings name words hasName ih =>
    rw [options?] at read
    · simp only [Option.bind_eq_bind, Option.bind_eq_some_iff] at read
      obtain ⟨letter, -, settings'', -, read⟩ := read
      exact (ih _ read).cons _
    · exact hasName
  | case4 settings letter letters words one two ih =>
    rw [options?] at read
    · simp only [Option.bind_eq_bind, Option.bind_eq_some_iff] at read
      obtain ⟨settings'', -, read⟩ := read
      exact (ih _ read).cons _
    · exact one
    · exact two
  | case5 settings path words dashes long short ih =>
    rw [options?] at read
    · simp only [Option.bind_eq_bind, Option.bind_eq_some_iff] at read
      obtain ⟨⟨settings'', others⟩, read, same⟩ := read
      cases same
      exact (ih read).cons_cons _
    · exact dashes
    · exact long
    · exact short

/-- What is printed are paths among the words that lead somewhere, in some order, each on its line
and no path more often than it is given. -/
theorem run_eq (files : Files) (words : List Octets) : ∃ paths : List Octets,
    run files words = paths.flatMap (· ++ ['\n']) ∧ paths.Subperm words ∧
      ∀ path ∈ paths, files.isFile path = true ∨ files.isDirectory path = true := by
  rw [run]
  split
  · exact ⟨[], rfl, List.nil_subperm, List.forall_mem_nil _⟩
  · rename_i settings paths read
    let known := paths.filter (settings.prints files)
    let sorted := if settings.unsorted then known else known.mergeSort isBefore
    let ordered := if settings.reversed && !settings.unsorted then sorted.reverse else sorted
    have same : ordered.Perm known := by
      have arranged : sorted.Perm known := by
        dsimp only [sorted]
        split
        · exact .rfl
        · exact List.mergeSort_perm _ _
      dsimp only [ordered]
      split
      · exact (List.reverse_perm _).trans arranged
      · exact arranged
    have among : known.Sublist words := List.filter_sublist.trans (sublist_of_options? read)
    refine ⟨ordered, rfl, same.subperm.trans among.subperm, fun path found => ?_⟩
    have prints := (List.mem_filter.1 (same.mem_iff.1 found)).2
    simp only [Settings.prints, Bool.or_eq_true, Bool.and_eq_true] at prints
    exact prints.imp_right And.right

end Program.Ls

/-! ## Log commands -/

namespace Simulation

open Program

variable {command : String} {clear : Option String} {words : List String}

theorem mem_intercalate {c : Char} (found : c ∈ (" ".intercalate words).toList) :
    c = ' ' ∨ ∃ word ∈ words, c ∈ word.toList := by
  induction words with
  | nil => cases found
  | cons word rest ih =>
    cases rest with
    | nil =>
      rw [String.intercalate_singleton] at found
      exact .inr ⟨word, List.mem_cons_self, found⟩
    | cons next rest =>
      rw [String.intercalate_cons_cons, String.toList_append, String.toList_append] at found
      simp only [List.mem_append] at found
      rcases found with (here | space) | later
      · exact .inr ⟨word, List.mem_cons_self, here⟩
      · exact .inl (List.mem_singleton.1 space)
      · refine (ih later).imp_right fun ⟨word, among, there⟩ => ?_
        exact ⟨word, List.mem_cons_of_mem _ among, there⟩

/-- Words without options are printed on one line, with one space between any two. -/
theorem tail?_echo (spelled : Text.words command = "echo" :: words)
    (passable : ∀ word ∈ words, isPassable word = true)
    (cleared : ∀ line ∈ clear, ¬Blank line.toList)
    (plain : ∀ word ∈ words.head?, Echo.letters? (Octets.ofText word) = none) :
    tail? command clear = some [some (" ".intercalate words)] := by
  have isWord (word : String) (among : word ∈ words) : IsWord word.toList :=
    isWord_of_mem_words (spelled ▸ List.mem_cons_of_mem _ among)
  have absent {c : Char} (differ : c ≠ ' ') (unused : ∀ word ∈ words, c ∉ word.toList) :
      c ∉ (" ".intercalate words).toList := by
    intro found
    rcases mem_intercalate found with space | ⟨word, among, there⟩
    · exact differ space
    · exact unused word among there
  refine @tail?_of_output _ _ _ _ [" ".intercalate words] spelled
    (List.forall_mem_cons.2 ⟨by decide, passable⟩) cleared (List.forall_mem_singleton.2 ⟨?_, ?_⟩) ?_
  · exact absent (by decide) fun word among => (isWord word among).plain.1
  · exact absent (by decide) fun word among => (isWord word among).plain.2
  · exact (Echo.run_of_plain plain).trans (by simp)

/-- Each word is printed on a line of its own. -/
theorem tail?_printf (spelled : Text.words command = "printf" :: "%s\\n" :: words)
    (hasWords : words ≠ []) (passable : ∀ word ∈ words, isPassable word = true)
    (cleared : ∀ line ∈ clear, ¬Blank line.toList) :
    tail? command clear = some (words.map some) := by
  refine tail?_of_output spelled (List.forall_mem_cons.2 ⟨by decide,
    List.forall_mem_cons.2 ⟨by decide, passable⟩⟩) cleared (fun word among => ?_) ?_
  · have found : word ∈ Text.words command := by simp [spelled, among]
    exact (isWord_of_mem_words found).plain
  · have some : words.map Octets.ofText ≠ [] := by simpa using hasWords
    exact (Printf.run_line some).trans (by rw [List.flatMap_def, List.map_map]; rfl)

/-- Counting goes from the first number on, step by step, as long as it is not above the last. -/
theorem tail?_seq {first step last : Nat}
    (spelled : Text.words command = ["seq", toString first, toString step, toString last])
    (pos : 0 < step) (small : step ≤ Seq.maxExactStep) (le : first ≤ last)
    (cleared : ∀ line ∈ clear, ¬Blank line.toList) :
    tail? command clear = some
      ((List.range' first ((last - first) / step + 1) step).map fun n => some (toString n)) := by
  have digits (n : Nat) : ∀ c ∈ (toString n).toList, c.isDigit = true := by
    rw [Nat.toString_eq_ofList_toDigits, String.toList_ofList]
    exact fun c found => Nat.isDigit_of_mem_toDigits (by decide) le_rfl found
  have absent (n : Nat) {c : Char} (other : c.isDigit = false) : c ∉ (toString n).toList :=
    fun found => Bool.false_ne_true (other.symm.trans (digits n c found))
  have passable (n : Nat) : isPassable (toString n) = true := by
    refine List.all_eq_true.2 fun c found => bne_iff_ne.2 fun zero => ?_
    obtain rfl : c = Char.ofNat 0 := Char.toNat_inj.1 zero
    exact absent n (by decide) found
  let counted := List.range' first ((last - first) / step + 1) step
  have shown : counted.map (fun n => some (toString n)) = (counted.map toString).map some := by
    rw [List.map_map]
    rfl
  rw [shown]
  refine tail?_of_output spelled ?_ cleared (fun line among => ?_) ?_
  · simp only [List.mem_cons, List.not_mem_nil, or_false, forall_eq_or_imp, forall_eq]
    exact ⟨by decide, passable first, passable step, passable last⟩
  · obtain ⟨n, -, rfl⟩ := List.mem_map.1 among
    exact ⟨absent n (by decide), absent n (by decide)⟩
  · have printed := Seq.run_eq pos small le
    simp only [List.map_cons, List.map_nil, Octets.ofText_toString, List.map_map,
      Function.comp_def]
    exact printed

/-- The log has paths that are given and lead somewhere, in some order. -/
theorem tail?_ls (spelled : Text.words command = "ls" :: words)
    (passable : ∀ word ∈ words, isPassable word = true)
    (cleared : ∀ line ∈ clear, ¬Blank line.toList) : ∃ paths : List String,
      tail? command clear = some (paths.map some) ∧ paths.Subperm words ∧
        ∀ path ∈ paths, files.isFile (Octets.ofText path) = true ∨
          files.isDirectory (Octets.ofText path) = true := by
  let back (octets : Octets) : String := (Text.decode? octets.toBytes).getD ""
  have undone : back ∘ Octets.ofText = id := by
    funext text
    simp only [back, Function.comp_apply, Octets.toBytes_ofText, Text.decode?_encode,
      Option.getD_some, id]
  obtain ⟨printed, ran, among, lead⟩ := Ls.run_eq files (words.map Octets.ofText)
  have texts : (printed.map back).map Octets.ofText = printed := by
    rw [List.map_map]
    refine (List.map_congr_left fun octets found => ?_).trans (List.map_id _)
    obtain ⟨text, -, rfl⟩ := List.mem_map.1 (among.subset found)
    exact congrArg Octets.ofText (congrFun undone text)
  have given : (printed.map back).Subperm words := by
    obtain ⟨listed, same, sublist⟩ := among
    have mapped : (listed.map back).Sublist ((words.map Octets.ofText).map back) := sublist.map back
    rw [List.map_map, undone, List.map_id] at mapped
    exact ⟨listed.map back, same.map back, mapped⟩
  refine ⟨printed.map back, ?_, given, fun path found => ?_⟩
  · refine tail?_of_output spelled (List.forall_mem_cons.2 ⟨by decide, passable⟩) cleared
      (fun path found => ?_) ?_
    · have word : path ∈ Text.words command := by simp [spelled, given.subset found]
      exact (isWord_of_mem_words word).plain
    · have lines : (printed.map back).map (Octets.ofText · ++ ['\n']) =
          printed.map (· ++ ['\n']) := by
        conv_rhs => rw [← texts, List.map_map]
        rfl
      rw [lines, ← List.flatMap_def]
      exact ran
  · refine lead _ ?_
    rw [← texts]
    exact List.mem_map_of_mem found

end Simulation

end Inspector
