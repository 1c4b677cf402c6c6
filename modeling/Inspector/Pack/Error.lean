import Inspector.Bytes

/-!
# Tags, scopes and errors of the packed format

Every item starts with a tag byte. Numbers are eight bytes wide; text and containers carry their
length in four bytes.
-/

namespace Inspector.Pack

inductive Tag where
  | nil | yes | no | int | float | text | list | map | field
deriving DecidableEq, Repr, Inhabited

namespace Tag

def all : List Tag :=
  [nil, yes, no, int, float, text, list, map, field]

/-- The byte that starts an item of the kind. -/
def byte : Tag → UInt8
  | nil => 0x00
  | yes => 0x01
  | no => 0x02
  | int => 0x03
  | float => 0x04
  | text => 0x10
  | list => 0x20
  | map => 0x21
  | field => 0x22

def ofByte? (b : UInt8) : Option Tag :=
  all.find? fun tag => tag.byte == b

@[simp] theorem ofByte?_byte (tag : Tag) : ofByte? tag.byte = some tag := by
  cases tag <;> decide

/-- A byte is read as a tag exactly when it is that tag's byte. -/
theorem ofByte?_eq_some_iff {b : UInt8} {tag : Tag} : ofByte? b = some tag ↔ b = tag.byte := by
  constructor
  · intro found
    have same := List.find?_some found
    simpa using (beq_iff_eq.1 same).symm
  · rintro rfl
    exact ofByte?_byte tag

end Tag

/-- What a writer is inside of. -/
inductive Scope where
  /-- Outside of every container. -/
  | root
  | list
  /-- Takes fields only. -/
  | map
  /-- Holds one payload after its name. -/
  | field
deriving DecidableEq, Repr, Inhabited

def Scope.name : Scope → String
  | root => "Root"
  | list => "List"
  | map => "Map"
  | field => "Field"

/-- Why packed data cannot be written or read. -/
inductive Error where
  /-- The byte is no tag, or not the tag that was asked for. -/
  | invalidTag (byte : UInt8)
  | invalidUtf8
  | unexpectedEnd
  /-- The innermost open scope is not the one to be closed. -/
  | scopeMismatch (expected actual : Scope)
  | scopeUnderflow
  /-- The bytes were asked for with a scope still open. -/
  | scopeStillOpen
  /-- The length does not fit into four bytes. -/
  | blobTooLarge (length : Nat)
  /-- A field has its payload already. -/
  | tooManyItems
  | emptyField
  /-- Something other than a field was written directly into a map. -/
  | invalidMapEntry
deriving DecidableEq, Repr

/-- A byte as `0x` and two hexadecimal digits. -/
def byteText (b : UInt8) : String :=
  let digits := Nat.toDigits 16 b.toNat
  "0x" ++ String.ofList (List.replicate (2 - digits.length) '0' ++ digits)

def Error.message : Error → String
  | invalidTag byte => "invalid tag byte: " ++ byteText byte
  | invalidUtf8 => "InvalidUtf8"
  | unexpectedEnd => "UnexpectedEnd"
  | scopeMismatch expected actual =>
    "scope mismatch: expected " ++ expected.name ++ ", found " ++ actual.name
  | scopeUnderflow => "ScopeUnderflow"
  | scopeStillOpen => "ScopeStillOpen"
  | blobTooLarge length => s!"blob of {length} bytes exceeds u32 length"
  | tooManyItems => "TooManyItems"
  | emptyField => "EmptyField"
  | invalidMapEntry => "InvalidMapEntry"

/-- The greatest length that four bytes can hold. -/
def maxLength : Nat := 0xffffffff

/-- A tag, the length of a body in four bytes, and the body. -/
def block (tag : Tag) (body : Bytes) : Bytes :=
  tag.byte :: Bytes.ofNatLE 4 body.length ++ body

@[simp] theorem length_block (tag : Tag) (body : Bytes) :
    (block tag body).length = body.length + 5 := by
  simp only [block, List.length_append, List.length_cons, Bytes.length_ofNatLE]
  omega

/-- A tag, a length and so many bytes, unless the length does not fit. -/
def framed (tag : Tag) (body : Bytes) : Except Error Bytes :=
  if body.length ≤ maxLength then .ok (block tag body) else .error (.blobTooLarge body.length)

def intBytes (value : Int64) : Bytes :=
  Tag.int.byte :: Bytes.ofNatLE 8 value.toUInt64.toNat

/-- A floating-point number, given by its bits, as an item. -/
def floatBytes (bits : UInt64) : Bytes :=
  Tag.float.byte :: Bytes.ofNatLE 8 bits.toNat

def boolBytes (value : Bool) : Bytes :=
  [if value then Tag.yes.byte else Tag.no.byte]

end Inspector.Pack
