import Inspector.HostType.Basic

/-!
# Classes of the host

What the host says of its classes and threads.
-/

namespace Inspector

inductive ClassKind where
  | cls | interface | enumeration | annotated
  /-- Known to the host and not loaded. -/
  | unresolved
deriving DecidableEq, Repr

namespace ClassKind

def word : ClassKind → String
  | cls => "class"
  | interface => "interface"
  | enumeration => "enum"
  | annotated => "annotation"
  | unresolved => "unresolved"

def ofWord? : String → Option ClassKind
  | "class" => some cls
  | "interface" => some interface
  | "enum" => some enumeration
  | "annotation" => some annotated
  | "unresolved" => some unresolved
  | _ => none

@[simp] theorem ofWord?_word (kind : ClassKind) : ofWord? kind.word = some kind := by
  cases kind <;> rfl

end ClassKind

structure LoadedClass where
  name : String
  kind : ClassKind
  loaded : Bool
deriving DecidableEq, Repr

structure ThreadInfo where
  name : String
  daemon : Bool
  stackTrace : String
deriving DecidableEq, Repr

structure FieldDecl where
  name : String
  type : HostType
  isStatic : Bool
deriving DecidableEq, Repr

structure MethodDecl where
  name : String
  params : List HostType
  result : HostType
  isStatic : Bool
deriving DecidableEq, Repr

/-- The root of all reference types. -/
def objectClass : String := "java.lang.Object"

def stringClass : String := "java.lang.String"

end Inspector
