import Inspector.Pack.Item

/-!
# Writing call by call

A writer keeps the scopes that are open, innermost first, with what has been written inside each.
Closing a scope puts its tag, its length and its body behind what its parent holds. A call that
fails leaves the writer as it was, with two exceptions, both for lengths that do not fit: a field
whose name or text is too long stays open, and a scope whose body is too long is given up with a
length of zero.
-/

namespace Inspector.Pack

/-- One open scope: what has been written inside it, and how many items that was. -/
structure Level where
  scope : Scope
  body : Bytes := []
  count : Nat := 0
deriving DecidableEq, Repr

structure Writer where
  /-- The innermost scope. -/
  top : Level := { scope := .root }
  /-- The scopes around it, innermost first. -/
  outer : List Level := []
deriving DecidableEq, Repr

/-- A call on a writer: its outcome, and the writer after it. -/
abbrev Written := Except Error Unit × Writer

namespace Writer

def empty : Writer := {}

/-- The bytes written, once every scope is closed. -/
def bytes (w : Writer) : Except Error Bytes :=
  if w.outer.isEmpty then .ok w.top.body else .error .scopeStillOpen

/-- Whether an item of the kind may be written where the writer stands. -/
def check (w : Writer) (tag : Tag) : Except Error Unit :=
  match w.top.scope with
  | .root | .list => .ok ()
  | .map => if tag = .field then .ok () else .error .invalidMapEntry
  | .field => if w.top.count = 0 then .ok () else .error .tooManyItems

/-- Puts a finished item behind what the innermost scope holds. -/
def append (w : Writer) (item : Bytes) : Writer :=
  { w with top := { w.top with body := w.top.body ++ item, count := w.top.count + 1 } }

/-- Runs the next call if the first succeeded. -/
def andThen (first : Written) (next : Writer → Written) : Written :=
  match first with
  | (.ok (), w) => next w
  | failed => failed

def scalar (w : Writer) (tag : Tag) (item : Bytes) : Written :=
  match w.check tag with
  | .ok () => (.ok (), w.append item)
  | .error e => (.error e, w)

/-- Writes a text. Its length is checked before its place. -/
def text (w : Writer) (value : String) : Written :=
  match textBytes value with
  | .error e => (.error e, w)
  | .ok item => w.scalar .text item

def nil (w : Writer) : Written := w.scalar .nil [Tag.nil.byte]

def bool (w : Writer) (value : Bool) : Written :=
  w.scalar (if value then .yes else .no) (boolBytes value)

def int (w : Writer) (value : Int64) : Written := w.scalar .int (intBytes value)

def float (w : Writer) (bits : UInt64) : Written := w.scalar .float (floatBytes bits)

def openScope (w : Writer) (tag : Tag) (scope : Scope) : Written :=
  match w.check tag with
  | .ok () => (.ok (), { top := { scope := scope }, outer := w.top :: w.outer })
  | .error e => (.error e, w)

/-- Closes the innermost scope, which has to be of the given kind. -/
def closeScope (w : Writer) (tag : Tag) (expected : Scope) : Written :=
  match w.outer with
  | [] => (.error .scopeUnderflow, w)
  | parent :: outer =>
    if w.top.scope ≠ expected then (.error (.scopeMismatch expected w.top.scope), w)
    else if w.top.scope = .field ∧ w.top.count = 0 then (.error .emptyField, w)
    else
      let enclosing : Writer := { top := parent, outer }
      match framed tag w.top.body with
      | .ok item => (.ok (), enclosing.append item)
      | .error e =>
        let abandoned := tag.byte :: Bytes.ofNatLE 4 0 ++ w.top.body
        (.error e, { enclosing with top := { parent with body := parent.body ++ abandoned } })

def listBegin (w : Writer) : Written := w.openScope .list .list
def listEnd (w : Writer) : Written := w.closeScope .list .list
def mapBegin (w : Writer) : Written := w.openScope .map .map
def mapEnd (w : Writer) : Written := w.closeScope .map .map

/-- Opens a field and writes its name, which does not count as its payload. -/
def fieldBegin (w : Writer) (name : String) : Written :=
  andThen (andThen (w.openScope .field .field) (·.text name)) fun named =>
    (.ok (), { named with top := { named.top with count := 0 } })

def fieldEnd (w : Writer) : Written := w.closeScope .field .field

/-- A whole field: its name, the payload that `payload` writes, and its end. -/
def field (w : Writer) (name : String) (payload : Writer → Written) : Written :=
  andThen (andThen (w.fieldBegin name) payload) fieldEnd

def fieldInt (w : Writer) (name : String) (value : Int64) : Written :=
  w.field name (·.int value)

def fieldText (w : Writer) (name value : String) : Written :=
  w.field name (·.text value)

def fieldBool (w : Writer) (name : String) (value : Bool) : Written :=
  w.field name (·.bool value)

def fieldUnit (w : Writer) (name : String) : Written :=
  w.field name nil

/-! ## Whole items -/

mutual

/-- Writes an item with everything inside it, up to the first call that fails. -/
def item (w : Writer) : Item → Written
  | .nil => w.nil
  | .bool value => w.bool value
  | .int value => w.int value
  | .float bits => w.float bits
  | .text value => w.text value
  | .list items => andThen (andThen w.listBegin fun inner => inner.items items) listEnd
  | .map fields => andThen (andThen w.mapBegin fun inner => inner.fields fields) mapEnd
  | .field name payload => w.field name fun inner => inner.item payload

def items (w : Writer) : List Item → Written
  | [] => (.ok (), w)
  | first :: rest => andThen (w.item first) fun next => next.items rest

def fields (w : Writer) : List (String × Item) → Written
  | [] => (.ok (), w)
  | (name, payload) :: rest =>
    andThen (w.field name fun inner => inner.item payload) fun next => next.fields rest

end

end Writer

/-- The bytes of an item, as a fresh writer puts them together. -/
def Item.encode (item : Item) : Except Error Bytes :=
  match Writer.empty.item item with
  | (.ok (), w) => w.bytes
  | (.error e, _) => .error e

/-! ## Calls as data -/

inductive Call where
  | nil
  | bool (value : Bool)
  | int (value : Int64)
  | float (bits : UInt64)
  | text (value : String)
  | listBegin
  | listEnd
  | mapBegin
  | mapEnd
  | fieldBegin (name : String)
  | fieldEnd
  | fieldInt (name : String) (value : Int64)
  | fieldText (name value : String)
  | fieldBool (name : String) (value : Bool)
  | fieldUnit (name : String)
deriving DecidableEq, Repr

def Writer.run (w : Writer) : Call → Written
  | .nil => w.nil
  | .bool value => w.bool value
  | .int value => w.int value
  | .float bits => w.float bits
  | .text value => w.text value
  | .listBegin => w.listBegin
  | .listEnd => w.listEnd
  | .mapBegin => w.mapBegin
  | .mapEnd => w.mapEnd
  | .fieldBegin name => w.fieldBegin name
  | .fieldEnd => w.fieldEnd
  | .fieldInt name value => w.fieldInt name value
  | .fieldText name value => w.fieldText name value
  | .fieldBool name value => w.fieldBool name value
  | .fieldUnit name => w.fieldUnit name

/-- Carries out calls in order, going on after a failed one, and keeps each outcome. -/
def Writer.runAll (w : Writer) : List Call → List (Except Error Unit) × Writer
  | [] => ([], w)
  | call :: rest =>
    let (outcome, next) := w.run call
    let (outcomes, last) := next.runAll rest
    (outcome :: outcomes, last)

end Inspector.Pack
