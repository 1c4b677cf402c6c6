import Inspector.Pack.Reader

/-!
# Walking through packed data

A walk keeps a stack of places: inside an item's bytes, a list's body or a map's body. A move
applies to the place on top; entering a container puts a new place on the stack. A failed move
leaves its place where the read left it.
-/

namespace Inspector.Pack

/-- A place in packed data, with the bytes that lie ahead. -/
inductive Place where
  | item (ahead : Bytes)
  | list (ahead : Bytes)
  | map (ahead : Bytes)
deriving DecidableEq, Repr

inductive Move where
  | peekTag | skip | nil | bool | int | float | text | list | map | field
  /-- The next item of a list or the next field of a map. -/
  | next
  /-- Back to the place below. -/
  | pop
deriving DecidableEq, Repr

inductive Found where
  | tag (tag : Tag)
  | nothing
  | bool (value : Bool)
  | int (value : Int64)
  | float (bits : UInt64)
  | text (value : String)
  | list
  | map
  | item
deriving DecidableEq, Repr

inductive Report where
  /-- A read, and how many bytes lie ahead of its place after it. -/
  | read (outcome : Except Error Found) (remaining : Nat)
  | finished
  /-- The next item or field, and how many bytes it has. -/
  | entered (found : Found) (remaining : Nat)
  /-- The next item or field is malformed. -/
  | refused (error : Error)
  | popped
  /-- The first place cannot be left. -/
  | bottom
  /-- The move does not apply to such a place. -/
  | notApplicable
deriving Repr

/-- A walk that stands at `top`, with the places to return to. -/
structure Walk where
  top : Place
  below : List Place := []
deriving DecidableEq, Repr

namespace Walk

def start (input : Bytes) : Walk :=
  { top := .item input }

/-- Reads at an item's place and goes into what `inside` finds in the result. -/
def readItem (w : Walk) (input : Bytes) (reader : Read α) (found : α → Found)
    (inside : α → Option Place) : Report × Walk :=
  match reader.run input with
  | (.error e, rest) => (.read (.error e) rest.length, { w with top := .item rest })
  | (.ok value, rest) =>
    let report := Report.read (.ok (found value)) rest.length
    match inside value with
    | none => (report, { w with top := .item rest })
    | some place => (report, { top := place, below := .item rest :: w.below })

def back (w : Walk) : Report × Walk :=
  match w.below with
  | [] => (.bottom, w)
  | place :: below => (.popped, { top := place, below })

/-- The next item of the list body that the walk stands in. -/
def nextItem (w : Walk) (input : Bytes) : Report × Walk :=
  match Pack.nextItem.run input with
  | (.error e, rest) => (.refused e, { w with top := .list rest })
  | (.ok none, rest) => (.finished, { w with top := .list rest })
  | (.ok (some item), rest) =>
    (.entered .item item.length, { top := .item item, below := .list rest :: w.below })

/-- The next field of the map body that the walk stands in. -/
def nextField (w : Walk) (input : Bytes) : Report × Walk :=
  match Pack.nextField.run input with
  | (.error e, rest) => (.refused e, { w with top := .map rest })
  | (.ok none, rest) => (.finished, { w with top := .map rest })
  | (.ok (some (name, payload)), rest) =>
    (.entered (.text name) payload.length,
      { top := .item payload, below := .map rest :: w.below })

def step (w : Walk) (move : Move) : Report × Walk :=
  match move, w.top with
  | .pop, _ => w.back
  | .next, .list input => w.nextItem input
  | .next, .map input => w.nextField input
  | .peekTag, .item input => w.readItem input Pack.peekTag .tag fun _ => none
  | .skip, .item input => w.readItem input Pack.skip (fun _ => .nothing) fun _ => none
  | .nil, .item input => w.readItem input Pack.nil (fun _ => .nothing) fun _ => none
  | .bool, .item input => w.readItem input Pack.bool .bool fun _ => none
  | .int, .item input => w.readItem input Pack.int .int fun _ => none
  | .float, .item input => w.readItem input Pack.float .float fun _ => none
  | .text, .item input => w.readItem input Pack.text .text fun _ => none
  | .list, .item input =>
    w.readItem input Pack.list (fun _ => .list) fun inner => some (.list inner)
  | .map, .item input => w.readItem input Pack.map (fun _ => .map) fun inner => some (.map inner)
  | .field, .item input =>
    w.readItem input Pack.field (fun entry => .text entry.1) fun entry => some (.item entry.2)
  | _, _ => (.notApplicable, w)

/-- Makes moves in order and keeps what each led to. -/
def run (w : Walk) : List Move → List Report
  | [] => []
  | move :: rest =>
    let (report, next) := w.step move
    report :: next.run rest

end Walk

end Inspector.Pack
