import Inspector.Pack.Error
import Inspector.Text.Utf8

/-!
# Packed items as trees

An item is a tree whose maps hold named fields only and whose fields hold one payload. `bytes` is
its packed form, written from left to right; a length is written as it comes, also where four
bytes cannot hold it. `Fits` says that they can.
-/

namespace Inspector.Pack

inductive Item where
  | nil
  | bool (value : Bool)
  | int (value : Int64)
  | float (bits : UInt64)
  | text (value : String)
  | list (items : List Item)
  | map (fields : List (String × Item))
  | field (name : String) (payload : Item)
deriving Repr

def textBytes (value : String) : Except Error Bytes :=
  framed .text (Text.encode value)

/-- The bytes of a field, given those of its payload. -/
def fieldBytes (name : String) (payload : Bytes) : Bytes :=
  block .field (block .text (Text.encode name) ++ payload)

@[simp] theorem length_fieldBytes (name : String) (payload : Bytes) :
    (fieldBytes name payload).length = (Text.encode name).length + payload.length + 10 := by
  simp only [fieldBytes, length_block, List.length_append]
  omega

namespace Item

mutual

def bytes : Item → Bytes
  | nil => [Tag.nil.byte]
  | bool value => boolBytes value
  | int value => intBytes value
  | float bits => floatBytes bits
  | text value => block .text (Text.encode value)
  | list items => block .list (bytesOfItems items)
  | map fields => block .map (bytesOfFields fields)
  | field name payload => fieldBytes name payload.bytes

def bytesOfItems : List Item → Bytes
  | [] => []
  | item :: rest => item.bytes ++ bytesOfItems rest

def bytesOfFields : List (String × Item) → Bytes
  | [] => []
  | (name, payload) :: rest => fieldBytes name payload.bytes ++ bytesOfFields rest

end

/-- Four bytes hold every length in the item's packed form. It is enough to look at the outermost
one, as the others are shorter; five bytes of the form are its own tag and length. -/
def Fits (item : Item) : Prop :=
  item.bytes.length ≤ maxLength + 5

instance (item : Item) : Decidable item.Fits :=
  inferInstanceAs (Decidable (_ ≤ _))

/-- A field without content, used for variants that carry nothing. -/
def unit (name : String) : Item :=
  field name nil

end Item

end Inspector.Pack
