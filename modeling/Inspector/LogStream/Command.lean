import Inspector.LogStream.Lines
import Inspector.Text.Blank

/-!
# Commands that print a log

A command line is divided at white space; there is no quoting. What a command prints is up to the
machine that the agent runs on, of which only this is asked.
-/

namespace Inspector.LogStream

/-- The words of a command line, unless there are none. -/
def command? (line : String) : Option (List String) :=
  match Text.words line with
  | [] => none
  | words => some words

/-- The text shown for a command line without words. -/
def emptyCommand : String := "empty log command"

/-- The machine that an agent runs on. -/
class Machine where
  /-- What the command of these words prints with nothing for its input, if it can be started.
  Another one may have been run to its end before it. -/
  output? (before : Option (List String)) (words : List String) : Option Bytes

/-- The lines that a log command prints, if it and the command that is run before it have words at
all. A command that cannot be started prints none. -/
def tail? [Machine] (command : String) (clear : Option String) :
    Option (List (Option String)) := do
  let words ← command? command
  let before ← clear.mapM command?
  return lines ((Machine.output? before words).getD [])

end Inspector.LogStream
