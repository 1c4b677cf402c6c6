import Inspector.Reflection.Hierarchy

/-!
# Assignability

Whether a value of one type may be stored where another is declared. By the usual rule primitives
and `void` go only to themselves; references follow the class graph, and arrays of references their
components. A host may have a rule of its own.
-/

namespace Inspector.TypeSource

/-- The interfaces that every array implements. -/
def arrayInterfaces : List String :=
  ["java.lang.Cloneable", "java.io.Serializable"]

/-- Whether a value of type `source` may be stored where `target` is declared, by the usual rule. -/
def conforms (types : TypeSource) (target source : HostType) : Bool :=
  if target = source then true
  else
    match target, source with
    | .array t, .array s => t.isReference && s.isReference && types.conforms t s
    | .cls t, .array _ => t == objectClass || arrayInterfaces.contains t
    | .cls t, .cls s => t == objectClass || types.descends s t
    | _, _ => false

/-- Whether a value of type `source` may be stored where `target` is declared, by the host's own
rule if it has one. -/
def isAssignable (types : TypeSource) (target source : HostType) : Bool :=
  types.ownRule.getD types.conforms target source

end Inspector.TypeSource
