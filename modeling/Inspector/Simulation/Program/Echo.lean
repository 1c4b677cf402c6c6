import Inspector.Simulation.Program.Escape

/-!
# `echo`

The words are printed with spaces between them. Words in front that consist of option letters say
whether a line feed follows and whether escapes are carried out.
-/

namespace Inspector.Program.Echo

structure Settings where
  newline : Bool := true
  escapes : Bool := false

/-- The letters of a word that is an option. -/
def letters? : Octets → Option Octets
  | '-' :: letter :: letters =>
    if (letter :: letters).all fun c => c == 'n' || c == 'e' || c == 'E' then
      some (letter :: letters)
    else none
  | _ => none

/-- The settings after one more letter. -/
def Settings.withLetter (settings : Settings) : Char → Settings
  | 'n' => { settings with newline := false }
  | 'e' => { settings with escapes := true }
  | 'E' => { settings with escapes := false }
  | _ => settings

/-- The settings after the options in front, and the words behind them. -/
def options (settings : Settings) : List Octets → Settings × List Octets
  | [] => (settings, [])
  | word :: rest =>
    match letters? word with
    | some letters => options (letters.foldl Settings.withLetter settings) rest
    | none => (settings, word :: rest)

/-- What `echo` prints for the given words. -/
def run (words : List Octets) : Octets :=
  let (settings, words) := options {} words
  let text := (words.intersperse [' ']).flatten
  let body : Printed := if settings.escapes then echoEscape.apply text else { text }
  (body.andThen { text := if settings.newline then ['\n'] else [] }).text

end Inspector.Program.Echo
