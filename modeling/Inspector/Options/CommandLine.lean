import Inspector.Options.Settings

/-!
# The command line

An option takes one value, attached to it or in the next word; each option can be given once. A
value is looked at only when the next option comes or the line ends, so that an unknown word is
reported before the bad value in front of it.
-/

namespace Inspector.CommandLine

inductive Setting where
  | port | bind | logCommand | clearCommand | streamLogs | bindAttempts | bindBackoff
  | queueDepth | logLevel
deriving DecidableEq, Repr

/-- The words that stand alone. -/
inductive Switch where
  | help | version
deriving DecidableEq, Repr

inductive Word where
  | setting (setting : Setting)
  | switch (switch : Switch)
deriving DecidableEq, Repr

inductive Error where
  /-- The value is not of the option's kind. -/
  | badValue (setting : Setting) (value : String)
  /-- The value is not among those that the option allows. -/
  | disallowedValue (setting : Setting) (value : String)
  | missingValue (setting : Setting)
  | unknownArgument (argument : String)
  | repeated (setting : Setting)
  /-- A value is attached to a switch. -/
  | unexpectedValue (switch : Switch)
  /-- Help or the version is asked for. -/
  | asked (switch : Switch)
deriving DecidableEq, Repr

namespace Setting

def name : Setting → String
  | port => "port"
  | bind => "bind"
  | logCommand => "log-command"
  | clearCommand => "clear-command"
  | streamLogs => "stream-logs"
  | bindAttempts => "bind-attempts"
  | bindBackoff => "bind-backoff-ms"
  | queueDepth => "queue-depth"
  | logLevel => "log-level"

def all : List Setting :=
  [port, bind, logCommand, clearCommand, streamLogs, bindAttempts, bindBackoff, queueDepth,
    logLevel]

end Setting

namespace Word

def ofName? (name : String) : Option Word :=
  match name with
  | "help" => some (switch .help)
  | "version" => some (switch .version)
  | _ => (Setting.all.find? fun s => s.name == name).map setting

def ofLetter? : Char → Option Word
  | 'p' => some (setting .port)
  | 'b' => some (setting .bind)
  | 'h' => some (switch .help)
  | 'V' => some (switch .version)
  | _ => none

end Word

/-! ## Values -/

/-- Decimal digits, one at least. -/
def digits? (text : List Char) : Option Nat :=
  if !text.isEmpty && text.all Char.isDigit then
    some (text.foldl (fun n c => n * 10 + (c.toNat - '0'.toNat)) 0)
  else none

/-- A whole number with an optional plus in front. -/
def unsigned? : List Char → Option Nat
  | '+' :: rest => digits? rest
  | text => digits? text

/-- A whole number with an optional sign in front, if it is not below zero. -/
def signed? : List Char → Option Nat
  | '-' :: rest => (digits? rest).filter (· == 0)
  | text => unsigned? text

/-- The number if it is below the bound. -/
def below (bound : Nat) (n : Option Nat) : Option Nat :=
  n.filter (· < bound)

/-- The settings with one option set. -/
def assign (settings : Settings) (setting : Setting) (value : String) : Except Error Settings :=
  let number (read : List Char → Option Nat) (bound : Nat) (put : Nat → Settings) :=
    match below bound (read value.toList) with
    | some n => .ok (put n)
    | none => .error (.badValue setting value)
  match setting with
  | .port => number signed? UInt16.size fun n => { settings with port := n }
  | .bindAttempts => number signed? UInt32.size fun n => { settings with bindAttempts := n }
  | .bindBackoff => number unsigned? UInt64.size fun n => { settings with bindBackoff := n }
  | .queueDepth => number unsigned? UInt64.size fun n => { settings with queueDepth := n }
  | .bind =>
    match Address.ofText? value with
    | some address => .ok { settings with bind := address }
    | none => .error (.badValue setting value)
  | .streamLogs =>
    match value with
    | "true" => .ok { settings with streamLogs := true }
    | "false" => .ok { settings with streamLogs := false }
    | _ => .error (.disallowedValue setting value)
  | .logCommand => .ok { settings with logCommand := value }
  | .clearCommand => .ok { settings with clearCommand := value }
  | .logLevel => .ok { settings with logLevel := value }

/-! ## Words -/

/-- What is known after some words. -/
structure State where
  settings : Settings := {}
  given : List Setting := []
  /-- An option whose value has not been looked at, or has not come yet. -/
  pending : Option (Setting × Option String) := none

namespace State

/-- Sets an option, which must not have been set before. -/
def set (state : State) (setting : Setting) (value : String) : Except Error State := do
  if setting ∈ state.given then throw (.repeated setting)
  return { state with
    settings := ← assign state.settings setting value
    given := setting :: state.given }

/-- Looks at the value of the pending option. -/
def settle (state : State) : Except Error State :=
  match state.pending with
  | none => .ok state
  | some (setting, none) => .error (.missingValue setting)
  | some (setting, some value) => { state with pending := none }.set setting value

/-- Takes an option with its attached value, or waits for the value. -/
def option (state : State) (setting : Setting) (attached : Option String) :
    Except Error State := do
  let settled ← state.settle
  match attached with
  | some value => settled.set setting value
  | none => return { settled with pending := some (setting, none) }

/-- Takes a switch, which ends the reading. -/
def switch (state : State) (switch : Switch) : Except Error State := do
  let _ ← state.settle
  throw (.asked switch)

/-- Takes a word that starts with two dashes. -/
def long (state : State) (argument : List Char) : Except Error State :=
  let name := String.ofList (argument.takeWhile (· != '='))
  let attached := match argument.dropWhile (· != '=') with
    | [] => none
    | _ :: value => some (String.ofList value)
  match Word.ofName? name with
  | none => .error (.unknownArgument name)
  | some (.setting setting) => state.option setting attached
  | some (.switch s) =>
    match attached with
    | some _ => .error (.unexpectedValue s)
    | none => state.switch s

/-- Takes the letters behind one dash. The value of an option may follow its letter directly or
behind an equals sign. -/
def short (state : State) : List Char → Except Error State
  | [] => .ok state
  | letter :: rest =>
    match Word.ofLetter? letter with
    | none => .error (.unknownArgument letter.toString)
    | some (.switch s) => state.switch s
    | some (.setting setting) =>
      state.option setting <| match rest with
        | [] => none
        | '=' :: value => some (String.ofList value)
        | value => some (String.ofList value)

/-- Takes a word without dashes: the value that an option waits for. -/
def plain (state : State) (argument : String) : Except Error State :=
  match state.pending with
  | some (setting, none) => .ok { state with pending := some (setting, some argument) }
  | _ => .error (.unknownArgument argument)

/-- Takes the words of a command line. Behind two dashes alone there is no option, and no other
word is known. -/
def words (state : State) : List String → Except Error State
  | [] => state.settle
  | argument :: rest => do
    match argument.toList with
    | ['-', '-'] =>
      match rest with
      | [] => state.settle
      | first :: _ => throw (.unknownArgument first)
    | '-' :: '-' :: name => (← state.long name).words rest
    | '-' :: letter :: letters => (← state.short (letter :: letters)).words rest
    | _ => (← state.plain argument).words rest

end State

def parse (arguments : List String) : Except Error Settings := do
  return (← State.words {} arguments).settings

/-- The text shown for a command line that gives no settings. -/
def Error.message : Error → String
  | badValue setting value => s!"invalid value '{value}' for '--{setting.name}'"
  | disallowedValue setting value => s!"invalid value '{value}' for '--{setting.name}'"
  | missingValue setting => s!"a value is required for '--{setting.name}' but none was supplied"
  | unknownArgument argument => s!"unexpected argument '{argument}' found"
  | repeated setting => s!"the argument '--{setting.name}' cannot be used multiple times"
  | unexpectedValue .help => "unexpected value for '--help'"
  | unexpectedValue .version => "unexpected value for '--version'"
  | asked .help => "Host introspection agent - serves live type and heap queries over WebSocket"
  | asked .version => "inspector"

end Inspector.CommandLine
