import Inspector.Text.Utf8

/-!
# Lines of a log

Lines end at a line feed; a carriage return in front of it belongs to the end. What follows the
last line feed is a line too, unless it is empty. A line that is not text ends the reading.
-/

namespace Inspector.LogStream

/-- Splits input at line feeds. Each part is given with whether a line feed ended it; the bytes of
the part at hand are in `reversed`, newest first. -/
def splitLines (reversed : Bytes) : Bytes → List (Bytes × Bool)
  | [] => if reversed.isEmpty then [] else [(reversed.reverse, false)]
  | b :: rest =>
    if b = 10 then (reversed.reverse, true) :: splitLines [] rest
    else splitLines (b :: reversed) rest

/-- The bytes of a line without the carriage return that belongs to its end. -/
def lineBytes (line : Bytes) (ended : Bool) : Bytes :=
  if ended && line.getLast? == some 13 then line.dropLast else line

/-- The lines of the input; one that is not text is `none`. -/
def lines (input : Bytes) : List (Option String) :=
  (splitLines [] input).map fun (line, ended) => Text.decode? (lineBytes line ended)

/-- How many lines were sent on and how many were not. -/
structure LineStats where
  forwarded : Nat := 0
  discarded : Nat := 0
deriving DecidableEq, Repr

end Inspector.LogStream
