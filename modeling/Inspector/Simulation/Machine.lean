import Inspector.LogStream.Command
import Inspector.Simulation.Program.Echo
import Inspector.Simulation.Program.Ls
import Inspector.Simulation.Program.Printf
import Inspector.Simulation.Program.Seq

/-!
# A machine to try log commands out on

Stands in for the machine of an agent, so that log commands can be run where no processes are at
hand. It has the usual small programs, which run in the C locale and print the same whatever was run
before, and of files those that are found everywhere.
-/

namespace Inspector.Simulation

open Program

/-! ## Files -/

/-- The names along a path, with those that lead nowhere left out; they come last first. -/
def namesAlong (names : List Octets) : List Octets → List Octets
  | [] => names
  | name :: rest =>
    if name.isEmpty || name = ['.'] then namesAlong names rest
    else if name = ['.', '.'] then namesAlong names.tail rest
    else namesAlong (name :: names) rest

/-- The parts of a path between slashes, with the first of them still open in `part`. -/
def partsFrom (part : Octets) : Octets → List Octets
  | [] => [part.reverse]
  | '/' :: rest => part.reverse :: partsFrom [] rest
  | c :: rest => partsFrom (c :: part) rest

/-- The names that a path leads along, last first. -/
def namesOf (path : Octets) : List String :=
  (namesAlong [] (partsFrom [] path)).map String.ofList

def devices : List String :=
  ["null", "zero", "full", "random", "urandom", "tty"]

def topDirectories : List String :=
  ["bin", "dev", "etc", "home", "lib", "proc", "root", "sbin", "sys", "tmp", "usr", "var"]

/-- Devices are files; of directories there are those at the top, and the one that one is in. -/
def files : Ls.Files where
  isFile path :=
    match path.head?, namesOf path with
    | some '/', [device, "dev"] => devices.contains device && path.getLast? != some '/'
    | _, _ => false
  isDirectory path :=
    match path.head?, namesOf path with
    | some '/', [] => true
    | some '/', [top] => topDirectories.contains top
    | some '.', [] => true
    | _, _ => false

/-! ## Programs -/

/-- The name of a program that is given with or without the directory it is in. -/
def programName (word : String) : String :=
  let behind (directory : String) :=
    if directory.toList.isPrefixOf word.toList then
      some (String.ofList (word.toList.drop directory.length))
    else none
  (behind "/usr/bin/" <|> behind "/bin/").getD word

/-- What a program prints for its words; those that print nothing need no case. -/
def output (program : String) (words : List Octets) : Octets :=
  match program with
  | "echo" => Echo.run words
  | "printf" => Printf.run words
  | "seq" => Seq.run words
  | "ls" => Ls.run files words
  | _ => []

/-- Whether a word can be handed to a program: a null character would end it. -/
def isPassable (word : String) : Bool :=
  word.toList.all (·.toNat != 0)

instance machine : LogStream.Machine where
  output? _ words :=
    match words with
    | [] => none
    | program :: arguments =>
      if words.all isPassable then
        some (output (programName program) (arguments.map Octets.ofText)).toBytes
      else none

end Inspector.Simulation
