import Inspector.Text.Quoted

/-!
# What can go wrong when the host's types are consulted

A query that is well formed and matches nothing is not an error: look-ups answer `none` for it.
-/

namespace Inspector

/-- A handle to a live object of the host. -/
structure ObjectRef where
  id : Nat
deriving DecidableEq, Repr, Inhabited

def ObjectRef.text (object : ObjectRef) : String :=
  s!"object-{object.id}"

/-- Why a question about the host's types or objects has no answer. -/
inductive ReflectionError where
  /-- The text is neither a descriptor nor a display name. -/
  | malformedDescriptor (text : String)
  | unknownType (name : String)
  /-- The value is neither an array nor an ordered collection. -/
  | notSequence (typeName : String)
  | unknownObject (object : ObjectRef)
deriving DecidableEq, Repr

namespace ReflectionError

def message : ReflectionError → String
  | malformedDescriptor text => "malformed type descriptor: " ++ Text.quote text
  | unknownType name => "unknown type: " ++ name
  | notSequence typeName => "value of type " ++ typeName ++ " is not sequence-like"
  | unknownObject object => s!"unknown object reference: {object.id}"

end ReflectionError

end Inspector
