/-!
# Types of the host

A type is a primitive, `void`, a class held by its dotted name, or an array of another type.
-/

namespace Inspector

/-- The eight primitive types. -/
inductive Primitive where
  | byte | short | int | long | float | double | char | boolean
deriving DecidableEq, Repr, Inhabited

namespace Primitive

def all : List Primitive :=
  [byte, short, int, long, float, double, char, boolean]

/-- The letter that stands for the type in a descriptor. -/
def code : Primitive → Char
  | byte => 'B'
  | short => 'S'
  | int => 'I'
  | long => 'J'
  | float => 'F'
  | double => 'D'
  | char => 'C'
  | boolean => 'Z'

/-- The name of the type in the host's language. -/
def name : Primitive → String
  | byte => "byte"
  | short => "short"
  | int => "int"
  | long => "long"
  | float => "float"
  | double => "double"
  | char => "char"
  | boolean => "boolean"

def ofCode? (c : Char) : Option Primitive :=
  all.find? fun p => p.code == c

def ofName? (text : String) : Option Primitive :=
  all.find? fun p => p.name == text

theorem mem_all (p : Primitive) : p ∈ all := by
  cases p <;> decide

end Primitive

/-- A type of the host. A class is held by its name only. -/
inductive HostType where
  | primitive (kind : Primitive)
  | void
  | array (component : HostType)
  | cls (name : String)
deriving DecidableEq, Repr, Inhabited

/-- The dotted form of a class name: `a/b/C` and `a.b.C` both give `a.b.C`. -/
def dottedName (name : String) : String :=
  name.map fun c => if c = '/' then '.' else c

@[simp] theorem dottedName_dottedName (name : String) :
    dottedName (dottedName name) = dottedName name := by
  rw [dottedName, dottedName, ← String.toList_inj, String.toList_map, String.toList_map,
    List.map_map]
  apply List.map_congr_left
  intro c _
  by_cases slash : c = '/' <;> simp [slash]

/-- The slashed form of a class name: `a.b.C` gives `a/b/C`. -/
def slashedName (name : String) : String :=
  name.map fun c => if c = '.' then '/' else c

namespace HostType

/-- The class of the given name, in either form. -/
def ofClassName (name : String) : HostType :=
  cls (dottedName name)

/-- The type under so many levels of array. -/
def arrayOf (element : HostType) : (dimensions : Nat) → HostType
  | 0 => element
  | dimensions + 1 => array (arrayOf element dimensions)

/-- Classes and arrays are held by reference. -/
def isReference : HostType → Bool
  | array _ | cls _ => true
  | primitive _ | void => false

def isArray : HostType → Bool
  | array _ => true
  | _ => false

/-- The component type of an array, one level down. -/
def component? : HostType → Option HostType
  | array component => some component
  | _ => none

def className? : HostType → Option String
  | cls name => some name
  | _ => none

/-- The type left when all array levels are taken off. -/
def element : HostType → HostType
  | array component => component.element
  | other => other

def dimensions : HostType → Nat
  | array component => component.dimensions + 1
  | _ => 0

/-- A type is its element under its array levels. -/
theorem arrayOf_element_dimensions (t : HostType) : arrayOf t.element t.dimensions = t := by
  induction t with
  | array component ih => simp [element, dimensions, arrayOf, ih]
  | primitive | void | cls => rfl

end HostType

end Inspector
