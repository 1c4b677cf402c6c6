import Inspector.Reflection.Assignability

/-!
# Looking up members

Members are looked for level by level, most derived first, and within a level in the order of
declaration; the first that fits is the answer. An overload fits if it takes as many arguments as
there are hints and each parameter accepts its hint.
-/

namespace Inspector

inductive MemberKind where
  | static | onInstance
deriving DecidableEq, Repr

/-- Whether the question is about such members. -/
def MemberKind.admits (kind : MemberKind) (isStatic : Bool) : Bool :=
  match kind with
  | static => isStatic
  | onInstance => !isStatic

inductive MemberShape where
  | field (type : HostType)
  | method (params : List HostType) (result : HostType)
deriving DecidableEq, Repr

structure Member where
  name : String
  declaringClass : String
  shape : MemberShape
  kind : MemberKind
deriving DecidableEq, Repr

/-- A field's descriptor or a method's signature. -/
def Member.signature (member : Member) : String :=
  match member.shape with
  | .field type => type.descriptor
  | .method params result => methodSignature params result

/-- A row in a list of fields. -/
structure FieldSummary where
  name : String
  /-- The display name of the field's type. -/
  typeName : String
  descriptor : String
deriving DecidableEq, Repr

/-- The row for a declared field. -/
def FieldDecl.summary (declared : FieldDecl) : FieldSummary :=
  { name := declared.name
    typeName := declared.type.displayName
    descriptor := declared.type.descriptor }

namespace TypeSource

/-- The field of the name that a class declares itself. -/
def fieldAt (types : TypeSource) (field : String) (kind : MemberKind) (level : String) :
    Option Member :=
  ((types.declaredFields level).find? fun declared =>
    kind.admits declared.isStatic && declared.name == field).map fun declared =>
      { name := declared.name, declaringClass := level, shape := .field declared.type, kind }

def resolveField (types : TypeSource) (className field : String) (kind : MemberKind) :
    Except ReflectionError (Option Member) := do
  return (← types.hierarchy className).findSome? (types.fieldAt field kind)

/-- Whether a declaration answers a question for a method. -/
def isEligible (types : TypeSource) (method : String) (hints : List HostType)
    (kind : MemberKind) (declared : MethodDecl) : Bool :=
  kind.admits declared.isStatic && declared.name == method &&
    declared.params.length == hints.length &&
    (declared.params.zip hints).all fun (param, hint) => types.isAssignable param hint

/-- The first eligible method that a class declares itself. -/
def methodAt (types : TypeSource) (method : String) (hints : List HostType) (kind : MemberKind)
    (level : String) : Option Member :=
  ((types.declaredMethods level).find? (types.isEligible method hints kind)).map fun declared =>
    { name := declared.name, declaringClass := level
      shape := .method declared.params declared.result, kind }

/-- Looks up a method. The hints are read before the search, so a bad hint is an error also where
no method has the name. -/
def resolveMethod (types : TypeSource) (className method : String) (hints : List String)
    (kind : MemberKind) : Except ReflectionError (Option Member) := do
  let levels ← types.hierarchy className
  let hintTypes ← hints.mapM types.decodeDescriptor
  return levels.findSome? (types.methodAt method hintTypes kind)

/-- The rows for the fields that a class declares itself. -/
def fieldsAt (types : TypeSource) (kind : MemberKind) (level : String) : List FieldSummary :=
  ((types.declaredFields level).filter fun declared => kind.admits declared.isStatic).map
    FieldDecl.summary

/-- The rows for all fields of a class. A field that is declared again on the way up has a row for
each declaration. -/
def enumerateFields (types : TypeSource) (className : String) (kind : MemberKind) :
    Except ReflectionError (List FieldSummary) := do
  return (← types.hierarchy className).flatMap (types.fieldsAt kind)

/-- The descriptor of the field that is found. -/
def fieldSignature (types : TypeSource) (className field : String) (kind : MemberKind) :
    Except ReflectionError (Option String) := do
  return (← types.resolveField className field kind).map Member.signature

/-- The signature of the method that is found. -/
def methodSignature (types : TypeSource) (className method : String) (hints : List String)
    (kind : MemberKind) : Except ReflectionError (Option String) := do
  return (← types.resolveMethod className method hints kind).map Member.signature

end TypeSource

end Inspector
