import Inspector.Simulation.Program.Octets

/-!
# `ls`

Paths that are files are printed as they are given, each on its line and in order. The contents of
directories are not known, so that nothing is printed of them.
-/

namespace Inspector.Program.Ls

structure Settings where
  /-- A directory is printed like a file. -/
  directories : Bool := false
  /-- The paths stay in the order in which they are given. -/
  unsorted : Bool := false
  reversed : Bool := false

/-- The settings after one more letter, if it changes nothing that is not known. -/
def Settings.withLetter? (settings : Settings) : Char → Option Settings
  | 'd' => some { settings with directories := true }
  | 'U' | 'f' => some { settings with unsorted := true }
  | 'r' => some { settings with reversed := true }
  | letter => if "1aAbBGhHkLNqRv".toList.contains letter then some settings else none

/-- The letters of the options that have long names. -/
def longNames : List (String × Char) :=
  [("all", 'a'), ("almost-all", 'A'), ("directory", 'd'), ("escape", 'b'), ("human-readable", 'h'),
    ("ignore-backups", 'B'), ("literal", 'N'), ("no-group", 'G'), ("recursive", 'R'),
    ("reverse", 'r')]

/-- The settings, and the paths among the words. Behind two dashes all words are paths. -/
def options? (settings : Settings) : List Octets → Option (Settings × List Octets)
  | [] => some (settings, [])
  | ['-', '-'] :: words => some (settings, words)
  | ('-' :: '-' :: name) :: words => do
    options? (← settings.withLetter? (← longNames.lookup (String.ofList name))) words
  | ('-' :: letter :: letters) :: words => do
    options? (← (letter :: letters).foldlM Settings.withLetter? settings) words
  | path :: words => do
    let (settings, paths) ← options? settings words
    return (settings, path :: paths)

/-- The paths that lead to files, and those that lead to directories. -/
structure Files where
  isFile : Octets → Bool
  isDirectory : Octets → Bool

/-- Whether a path is printed as it is. -/
def Settings.prints (settings : Settings) (files : Files) (path : Octets) : Bool :=
  files.isFile path || settings.directories && files.isDirectory path

/-- Whether a path stands in front of another one. -/
def isBefore (a b : Octets) : Bool :=
  compareOfLessAndEq a b != .gt

/-- What `ls` prints for the given words. -/
def run (files : Files) (words : List Octets) : Octets :=
  match options? {} words with
  | none => []
  | some (settings, paths) =>
    let known := paths.filter (settings.prints files)
    let sorted := if settings.unsorted then known else known.mergeSort isBefore
    let ordered := if settings.reversed && !settings.unsorted then sorted.reverse else sorted
    ordered.flatMap (· ++ ['\n'])

end Inspector.Program.Ls
