import Inspector.Proofs.Pack.Building

/-!
# The items that calls build

`Builds` says which items a list of calls makes up, without any writer: calls that write a whole
item, and calls between the begin and the end of a container. It leaves no choice: calls build one
list of items at most (`Builds.unique`), and they end as many containers of each kind as they begin
(`Call.begun_eq_ended_of_builds`).
-/

namespace Inspector.Pack

/-! ## Calls and what they make up -/

/-- A container that is begun and ended by calls of its own. -/
inductive Opening where
  | list
  | map
  | field (name : String)
deriving DecidableEq

namespace Opening

def begins : Opening → Call
  | list => .listBegin
  | map => .mapBegin
  | field name => .fieldBegin name

def ends : Opening → Call
  | list => .listEnd
  | map => .mapEnd
  | field _ => .fieldEnd

def tag : Opening → Tag
  | list => .list
  | map => .map
  | field _ => .field

def scope : Opening → Scope
  | list => .list
  | map => .map
  | field _ => .field

/-- What stands before the members. -/
def header : Opening → Bytes
  | list | map => []
  | field name => (Item.text name).bytes

/-- The fields of a map, if the items are fields and nothing else. -/
def fields? : List Item → Option (List (String × Item))
  | [] => some []
  | .field name payload :: rest => (fields? rest).map ((name, payload) :: ·)
  | _ :: _ => none

/-- The container with the given members: a map has fields only, a field has one payload. -/
def filled? : Opening → List Item → Option Item
  | list, members => some (.list members)
  | map, members => (fields? members).map .map
  | field name, [payload] => some (.field name payload)
  | field _, _ => none

end Opening

/-- The item that a call writes as a whole. -/
def Call.item? : Call → Option Item
  | nil => some .nil
  | bool value => some (.bool value)
  | int value => some (.int value)
  | float bits => some (.float bits)
  | text value => some (.text value)
  | fieldInt name value => some (.field name (.int value))
  | fieldText name value => some (.field name (.text value))
  | fieldBool name value => some (.field name (.bool value))
  | fieldUnit name => some (.field name .nil)
  | listBegin | listEnd | mapBegin | mapEnd | fieldBegin _ | fieldEnd => none

/-- Calls, and the items that they build one after the other. -/
inductive Builds : List Call → List Item → Prop
  | nothing : Builds [] []
  | single {calls : List Call} {items : List Item} {call : Call} {item : Item} :
      Builds calls items → call.item? = some item → Builds (calls ++ [call]) (items ++ [item])
  | container {calls inner : List Call} {items members : List Item} {opening : Opening}
      {item : Item} :
      Builds calls items → Builds inner members → opening.filled? members = some item →
      Builds (calls ++ opening.begins :: (inner ++ [opening.ends])) (items ++ [item])

namespace Builds

theorem append {first second : List Call} {items more : List Item} (built : Builds first items)
    (later : Builds second more) : Builds (first ++ second) (items ++ more) := by
  induction later with
  | nothing => simpa using built
  | single _ whole ih =>
    rw [← List.append_assoc, ← List.append_assoc]
    exact ih.single whole
  | container _ inside filled ih =>
    rw [← List.append_assoc, ← List.append_assoc]
    exact ih.container inside filled

end Builds

/-! ## Calls build one thing only -/

/-- Items in the innermost container and in those around it, as far as they have come. -/
structure Draft where
  items : List Item := []
  outer : List (Opening × List Item) := []

namespace Draft

def add (draft : Draft) (more : List Item) : Draft :=
  { draft with items := draft.items ++ more }

/-- The container that a call begins. -/
def opening? : Call → Option Opening
  | .listBegin => some .list
  | .mapBegin => some .map
  | .fieldBegin name => some (.field name)
  | _ => none

/-- Ends the innermost container. -/
def close (draft : Draft) : Draft :=
  match draft.outer with
  | [] => draft
  | (opening, before) :: outer =>
    { items := before ++ (opening.filled? draft.items).toList, outer }

def take (draft : Draft) (call : Call) : Draft :=
  match call.item?, opening? call with
  | some item, _ => draft.add [item]
  | none, some opening => { outer := (opening, draft.items) :: draft.outer }
  | none, none => draft.close

theorem add_add (draft : Draft) (first second : List Item) :
    (draft.add first).add second = draft.add (first ++ second) := by
  simp only [add, List.append_assoc]

theorem take_begins (draft : Draft) (opening : Opening) :
    draft.take opening.begins = { outer := (opening, draft.items) :: draft.outer } := by
  cases opening <;> rfl

theorem take_ends (draft : Draft) (opening : Opening) :
    draft.take opening.ends = draft.close := by
  cases opening <;> rfl

/-- Calls that build items add these to whatever there is. -/
theorem foldl_take {calls : List Call} {items : List Item} (built : Builds calls items)
    (draft : Draft) : calls.foldl take draft = draft.add items := by
  induction built generalizing draft with
  | nothing => simp [add]
  | single _ whole ih =>
    rw [List.foldl_append, ih, ← add_add]
    simp [take, whole]
  | container _ _ filled before inside =>
    rw [List.foldl_append, before, List.foldl_cons, take_begins, List.foldl_append, inside,
      List.foldl_cons, List.foldl_nil, take_ends, ← add_add]
    simp [close, add, filled]

end Draft

theorem Builds.unique {calls : List Call} {items others : List Item} (built : Builds calls items)
    (also : Builds calls others) : others = items := by
  have same := (Draft.foldl_take also {}).symm.trans (Draft.foldl_take built {})
  simpa [Draft.add] using congrArg Draft.items same

/-! ## What containers hold while they are open -/

namespace Opening

/-- Members that a container may have while it is not ended. -/
def Admits : Opening → List Item → Prop
  | list, _ => True
  | map, members => ∀ member ∈ members, member.tag = .field
  | field _, members => members.length ≤ 1

theorem admits_nil (opening : Opening) : opening.Admits [] := by
  cases opening with
  | list => trivial
  | map => nofun
  | field name => exact Nat.zero_le 1

theorem fields?_of_admits {members : List Item} (admitted : map.Admits members) :
    ∃ fields, fields? members = some fields := by
  induction members with
  | nil => exact ⟨[], rfl⟩
  | cons first rest ih =>
    obtain ⟨fields, others⟩ := ih fun member later => admitted member (.tail _ later)
    have isField := admitted first (.head _)
    cases first with
    | field name payload => exact ⟨(name, payload) :: fields, by rw [fields?, others]; rfl⟩
    | bool value => cases value <;> cases isField
    | _ => cases isField

/-- A container can be ended, unless it is a field without payload. -/
theorem filled?_of_admits {opening : Opening} {members : List Item}
    (admitted : opening.Admits members) (ready : ¬ (opening.scope = .field ∧ members.length = 0)) :
    ∃ item, opening.filled? members = some item := by
  cases opening with
  | list => exact ⟨_, rfl⟩
  | map =>
    obtain ⟨fields, found⟩ := fields?_of_admits admitted
    exact ⟨.map fields, by rw [filled?, found]; rfl⟩
  | field name =>
    match members with
    | [] => exact absurd ⟨rfl, rfl⟩ ready
    | [payload] => exact ⟨_, rfl⟩
    | _ :: _ :: _ => simp [Admits] at admitted

theorem bytesOfFields_of_fields? {members : List Item} {fields : List (String × Item)}
    (found : fields? members = some fields) :
    Item.bytesOfFields fields = Item.bytesOfItems members := by
  fun_induction fields? members generalizing fields with
  | case1 =>
    cases found
    rfl
  | case2 name payload rest ih =>
    obtain ⟨others, later, rfl⟩ := Option.map_eq_some_iff.1 found
    rw [Item.bytesOfFields, Item.bytesOfItems, Item.bytes, ih later]
  | case3 => cases found

/-- The packed form of a container: its header and its members. -/
theorem bytes_of_filled? {opening : Opening} {members : List Item} {item : Item}
    (filled : opening.filled? members = some item) :
    item.bytes = block opening.tag (opening.header ++ Item.bytesOfItems members) := by
  cases opening with
  | list =>
    cases filled
    rfl
  | map =>
    obtain ⟨fields, found, rfl⟩ := Option.map_eq_some_iff.1 filled
    rw [Item.bytes, bytesOfFields_of_fields? found]
    rfl
  | field name =>
    match members with
    | [] => cases filled
    | [payload] =>
      cases filled
      simp only [Item.bytes, fieldBytes, tag, header, Item.bytesOfItems, List.append_nil]
    | _ :: _ :: _ => cases filled

theorem tag_of_filled? {opening : Opening} {members : List Item} {item : Item}
    (filled : opening.filled? members = some item) : item.tag = opening.tag := by
  cases opening with
  | list =>
    cases filled
    rfl
  | map =>
    obtain ⟨fields, -, rfl⟩ := Option.map_eq_some_iff.1 filled
    rfl
  | field name =>
    match members with
    | [] => cases filled
    | [payload] =>
      cases filled
      rfl
    | _ :: _ :: _ => cases filled

/-- Containers of one kind are ended alike, whatever their names. -/
theorem like_of_scope {opening other : Opening} (same : other.scope = opening.scope) :
    opening.tag = other.tag ∧ opening.ends = other.ends := by
  cases opening <;> cases other <;> first | exact ⟨rfl, rfl⟩ | cases same

end Opening

/-! ## Begun and ended -/

namespace Call

/-- The call begins a container of a kind. -/
def begins (scope : Scope) : Call → Bool
  | listBegin => scope = .list
  | mapBegin => scope = .map
  | fieldBegin _ => scope = .field
  | _ => false

/-- The call ends a container of a kind. -/
def ends (scope : Scope) : Call → Bool
  | listEnd => scope = .list
  | mapEnd => scope = .map
  | fieldEnd => scope = .field
  | _ => false

/-- How many containers of a kind the calls begin. -/
def begun (scope : Scope) (calls : List Call) : Nat := calls.countP (begins scope)

/-- How many containers of a kind the calls end. -/
def ended (scope : Scope) (calls : List Call) : Nat := calls.countP (ends scope)

theorem begun_eq_ended_of_builds {calls : List Call} {items : List Item}
    (built : Builds calls items) (scope : Scope) : begun scope calls = ended scope calls := by
  simp only [begun, ended]
  induction built with
  | nothing => rfl
  | @single calls items call item _ whole ih =>
    cases call <;> simp [item?, begins, ends, ih] at whole ⊢
  | @container calls inner items members opening item _ _ _ before inside =>
    cases opening <;>
      simp [Opening.begins, Opening.ends, begins, ends, List.countP_append, List.countP_cons,
        before, inside]

theorem begun_append_begins (scope : Scope) (before calls : List Call) (opening : Opening) :
    begun scope (before ++ opening.begins :: calls) =
      begun scope before + begun scope calls + if scope = opening.scope then 1 else 0 := by
  cases opening <;> cases scope <;>
    simp [begun, Opening.begins, Opening.scope, begins, Nat.add_assoc]

theorem ended_append_begins (scope : Scope) (before calls : List Call) (opening : Opening) :
    ended scope (before ++ opening.begins :: calls) =
      ended scope before + ended scope calls := by
  cases opening <;> simp [ended, Opening.begins, ends]

end Call

end Inspector.Pack
