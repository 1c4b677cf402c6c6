import Inspector.Host.View
import Inspector.Reflection.Hierarchy

/-!
# Arrays and lists as sequences

An array, or an object whose class is an ordered collection, can be read as a sequence: a copy of
its elements at one moment, each with the kind it was stored as.
-/

namespace Inspector

/-- The interface of ordered collections. -/
def orderedCollection : String := "java.util.List"

/-- The kind that an element was stored as. -/
inductive ElementTag where
  | primitive (kind : Primitive)
  | reference
deriving DecidableEq, Repr

/-- The kind of an array's elements. -/
def ElementTag.ofComponent : HostType → ElementTag
  | .primitive kind => primitive kind
  | _ => reference

structure TaggedValue where
  tag : ElementTag
  value : HostValue
deriving DecidableEq, Repr

structure Sequence where
  /-- The type of the object that was copied. -/
  sourceType : HostType
  items : List TaggedValue
deriving DecidableEq, Repr

/-- Whether two copies are equal, with numbers compared as numbers. -/
def Sequence.same (a b : Sequence) : Bool :=
  a.sourceType == b.sourceType && a.items.length == b.items.length &&
    (a.items.zip b.items).all fun (x, y) => x.tag == y.tag && x.value.same y.value

namespace TypeSource

/-- The interfaces that a class names itself, the last one on top. -/
def interfaceStack (types : TypeSource) (name : String) : List String :=
  (types.interfaces name).reverse

/-- Searches a stack of interfaces and what they extend for ordered collections. Gives the names
seen as well, since the search goes on at the next class. -/
def searchInterfaces (types : TypeSource) (seen : List String) :
    (stack : List String) → Bool × List String
  | [] => (false, seen)
  | current :: rest =>
    if current = orderedCollection then (true, seen)
    else if current ∈ seen then types.searchInterfaces seen rest
    else
      types.searchInterfaces (current :: seen) (types.interfaceStack current ++ rest)
termination_by stack => (types.unseen seen stack, stack.length)
decreasing_by
  · have fewer : types.unseen seen rest ≤ types.unseen seen (current :: rest) :=
      unseen_le (List.Subset.refl _) fun name waits =>
        ⟨name, List.mem_cons_of_mem _ waits, List.Subset.refl _⟩
    rcases Nat.lt_or_eq_of_le fewer with fewer | same
    · exact Prod.Lex.left _ _ fewer
    · rw [same]
      exact Prod.Lex.right _ (Nat.lt_succ_self _)
  · refine Prod.Lex.left _ _ (unseen_lt List.mem_cons_self ‹_› List.mem_cons_self
      (List.subset_cons_self _ _) fun name waits => ?_)
    cases List.mem_append.1 waits with
    | inl named =>
      exact ⟨current, List.mem_cons_self, types.reach_interfaces (List.mem_reverse.1 named)⟩
    | inr old => exact ⟨name, List.mem_cons_of_mem _ old, List.Subset.refl _⟩

/-- A search forgets no name. -/
theorem subset_searchInterfaces (types : TypeSource) (seen stack : List String) :
    seen ⊆ (types.searchInterfaces seen stack).2 := by
  fun_induction types.searchInterfaces seen stack with
  | case1 => exact fun _ old => old
  | case2 => exact fun _ old => old
  | case3 _ _ _ _ _ ih => exact ih
  | case4 _ _ _ _ _ ih => exact fun _ old => ih (List.mem_cons_of_mem _ old)

/-- Searches the interfaces of each class from `name` upwards. A name that was seen, as a class or
as an interface, ends the search. -/
def collectionFrom (types : TypeSource) (seen : List String) (name : String) : Bool :=
  if name ∈ seen then false
  else
    match _searched : types.searchInterfaces (name :: seen) (types.interfaceStack name) with
    | (true, _) => true
    | (false, later) =>
      match _extended : types.superclass name with
      | none => false
      | some parent => types.collectionFrom later parent
termination_by types.unseen seen [name]
decreasing_by
  have kept := types.subset_searchInterfaces (name :: seen) (types.interfaceStack name)
  rw [_searched] at kept
  exact unseen_superclass_lt _extended ‹_› kept

def isCollection (types : TypeSource) (name : String) : Bool :=
  types.collectionFrom [] name

end TypeSource

namespace HostView

/-- The type of an object that the host knows. -/
def knownType (view : HostView) (object : ObjectRef) : Except ReflectionError HostType :=
  match view.typeOf object with
  | some type => .ok type
  | none => .error (.unknownObject object)

/-- Whether an object can be read as a sequence. -/
def isSequenceLike (view : HostView) (object : ObjectRef) : Except ReflectionError Bool := do
  match ← view.knownType object with
  | .array _ => return true
  | .cls name => return view.types.isCollection name
  | _ => return false

/-- An answer that the host has to give for an object that it knows. -/
def available (object : ObjectRef) : Option α → Except ReflectionError α
  | some a => .ok a
  | none => .error (.unknownObject object)

/-- Copies an object that can be read as a sequence. -/
def toSequence (view : HostView) (object : ObjectRef) : Except ReflectionError Sequence := do
  let type ← view.knownType object
  match type with
  | .array component =>
    let length ← available object (view.arrayLength object)
    let values ← (List.range length).mapM fun index =>
      available object (view.arrayElement object index)
    return { sourceType := type
             items := values.map fun value => { tag := .ofComponent component, value } }
  | .cls name =>
    if view.types.isCollection name then
      let values ← available object (view.collectionSnapshot object)
      return { sourceType := type, items := values.map fun value => { tag := .reference, value } }
    else throw (.notSequence type.displayName)
  | _ => throw (.notSequence type.displayName)

end HostView

end Inspector
