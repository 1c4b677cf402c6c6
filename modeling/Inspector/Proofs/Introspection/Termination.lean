import Inspector.Proofs.Introspection.FieldReads
import Inspector.Proofs.Reflection.Loops
import Inspector.Proofs.Wire.Response

/-!
# Every question is answered in the end

A question is answered as the loops of `Inspector.Loops` run: each loop may take so many turns, and
the calls may be nested so deep, before the answer is given up. At every host in memory there is a
number that suffices, and the answer is that of `HostView.answer` (`answer_terminates`): the classes
may extend each other in circles and name superclasses that do not exist, and the lists and arrays
may hold themselves.
-/

namespace Inspector.Loops

open Outcome

/-! ## Computations that may fail -/

/-- A computation that may fail, and that may run out of turns. -/
abbrev Run (ε α : Type) := ExceptT ε Option α

/-- With enough turns, and with any more of them, the computation fails or succeeds as given. -/
def Run.Ends {ε α : Type} (run : Nat → Run ε α) (outcome : Except ε α) : Prop :=
  Loops.Ends (fun turns => (run turns).run) outcome

namespace Run.Ends

variable {ε ε' α β : Type} {run : Nat → Run ε α} {first : Except ε α}

theorem lift (outcome : Except ε α) : Ends (fun _ => liftM outcome) outcome :=
  .of_eq fun _ => rfl

theorem pure (a : α) : Ends (fun _ => Pure.pure a) (.ok a : Except ε α) :=
  .of_eq fun _ => rfl

theorem throw (e : ε) : Ends (fun _ => MonadExcept.throw e) (.error e : Except ε α) :=
  .of_eq fun _ => rfl

theorem of_option {run : Nat → Option α} {a : α} (ends : Loops.Ends run a) :
    Ends (fun turns => liftM (run turns)) (.ok a : Except ε α) := by
  obtain ⟨enough, done⟩ := ends
  refine ⟨enough, fun turns reached => ?_⟩
  dsimp only
  rw [done turns reached]
  rfl

/-- A chain of steps ends if the first does, and the next for whatever the first gives. -/
theorem bind {next : Nat → α → Run ε β} {known : α → Except ε β} (ends : Ends run first)
    (each : ∀ a, first = .ok a → Ends (next · a) (known a)) :
    Ends (fun turns => run turns >>= next turns) (first >>= known) := by
  refine Loops.Ends.bind ends ?_
  cases first with
  | error e => exact .of_eq fun _ => rfl
  | ok a => exact each a rfl

theorem bind_option {run : Nat → Option α} {a : α} {next : Nat → α → Run ε β}
    {outcome : Except ε β} (ends : Loops.Ends run a) (rest : Ends (next · a) outcome) :
    Ends (fun turns => liftM (run turns) >>= next turns) outcome := by
  have chain : Ends (fun turns => liftM (run turns) >>= next turns)
      (.ok a >>= fun _ => outcome) := by
    refine (of_option ends).bind ?_
    rintro _ ⟨⟩
    exact rest
  exact chain

theorem adapt (f : ε → ε') (ends : Ends run first) :
    Ends (fun turns => (run turns).adapt f) (first.mapError f) := by
  obtain ⟨enough, done⟩ := ends
  refine ⟨enough, fun turns reached => ?_⟩
  have done : run turns = ExceptT.mk (some first) := done turns reached
  dsimp only
  rw [done]
  cases first <;> rfl

end Run.Ends

namespace Ends

section List

variable {α β : Type} {list : List α}

theorem allM {test : Nat → α → Option Bool} {p : α → Bool} (each : ∀ a, Ends (test · a) (p a)) :
    Ends (fun turns => list.allM (test turns)) (list.all p) := by
  induction list with
  | nil => exact .of_eq fun _ => rfl
  | cons a rest ih =>
    refine (each a).bind ?_
    rw [List.all_cons]
    cases p a with
    | false => exact .of_eq fun _ => rfl
    | true => exact ih

theorem findM? {test : Nat → α → Option Bool} {p : α → Bool} (each : ∀ a, Ends (test · a) (p a)) :
    Ends (fun turns => list.findM? (test turns)) (list.find? p) := by
  induction list with
  | nil => exact .of_eq fun _ => rfl
  | cons a rest ih =>
    refine (each a).bind ?_
    rw [List.find?_cons]
    cases p a with
    | false => exact ih
    | true => exact .of_eq fun _ => rfl

theorem findSomeM? {look : Nat → α → Option (Option β)} {known : α → Option β}
    (each : ∀ a, Ends (look · a) (known a)) :
    Ends (fun turns => list.findSomeM? (look turns)) (list.findSome? known) := by
  induction list with
  | nil => exact .of_eq fun _ => rfl
  | cons a rest ih =>
    refine (each a).bind ?_
    rw [List.findSome?_cons]
    cases known a with
    | none => exact ih
    | some b => exact .of_eq fun _ => rfl

end List

end Ends

/-!
## Members

Here and below, each function is the one of the same name with its searches run as loops.
-/

section Members

variable (types : TypeSource)

def hierarchy (turns : Nat) (name : String) : Run ReflectionError (List String) := do
  if types.classExists (dottedName name) then gather types turns [] [] (some (dottedName name))
  else throw (.unknownType (dottedName name))

theorem hierarchy_ends (name : String) :
    Run.Ends (hierarchy types · name) (types.hierarchy name) := by
  unfold hierarchy TypeSource.hierarchy
  split
  · exact .of_option (gather_ends types [] [] (dottedName name))
  · exact .throw _

def enumerateFields (turns : Nat) (className : String) (kind : MemberKind) :
    Run ReflectionError (List FieldSummary) := do
  return (← hierarchy types turns className).flatMap (types.fieldsAt kind)

theorem enumerateFields_ends (className : String) (kind : MemberKind) :
    Run.Ends (enumerateFields types · className kind) (types.enumerateFields className kind) :=
  (hierarchy_ends types className).bind fun _ _ => .pure _

def resolveField (turns : Nat) (className field : String) (kind : MemberKind) :
    Run ReflectionError (Option Member) := do
  return (← hierarchy types turns className).findSome? (types.fieldAt field kind)

def fieldSignature (turns : Nat) (className field : String) (kind : MemberKind) :
    Run ReflectionError (Option String) := do
  return (← resolveField types turns className field kind).map Member.signature

theorem fieldSignature_ends (className field : String) (kind : MemberKind) :
    Run.Ends (fieldSignature types · className field kind)
      (types.fieldSignature className field kind) :=
  Run.Ends.bind ((hierarchy_ends types className).bind fun _ _ => .pure _) fun _ _ => .pure _

def isEligible (turns : Nat) (method : String) (hints : List HostType) (kind : MemberKind)
    (declared : MethodDecl) : Option Bool :=
  if kind.admits declared.isStatic && declared.name == method &&
      declared.params.length == hints.length then
    (declared.params.zip hints).allM fun pair => isAssignable types turns pair.1 pair.2
  else some false

theorem isEligible_ends (method : String) (hints : List HostType) (kind : MemberKind)
    (declared : MethodDecl) :
    Ends (isEligible types · method hints kind declared)
      (types.isEligible method hints kind declared) := by
  unfold isEligible TypeSource.isEligible
  split
  · next suits =>
    rw [suits, Bool.true_and]
    exact .allM fun pair => isAssignable_ends types pair.1 pair.2
  · next differs =>
    rw [Bool.eq_false_iff.2 differs, Bool.false_and]
    exact .of_eq fun _ => rfl

def methodAt (turns : Nat) (method : String) (hints : List HostType) (kind : MemberKind)
    (level : String) : Option (Option Member) := do
  let found ← (types.declaredMethods level).findM? (isEligible types turns method hints kind)
  return found.map fun declared =>
    { name := declared.name, declaringClass := level
      shape := .method declared.params declared.result, kind }

theorem methodAt_ends (method : String) (hints : List HostType) (kind : MemberKind)
    (level : String) :
    Ends (methodAt types · method hints kind level) (types.methodAt method hints kind level) :=
  (Ends.findM? (isEligible_ends types method hints kind)).bind (.of_eq fun _ => rfl)

def resolveMethod (turns : Nat) (className method : String) (hints : List String)
    (kind : MemberKind) : Run ReflectionError (Option Member) := do
  let levels ← hierarchy types turns className
  let hintTypes ← (hints.mapM types.decodeDescriptor : Except ReflectionError (List HostType))
  List.findSomeM? (m := Option) (methodAt types turns method hintTypes kind) levels

def methodSignature (turns : Nat) (className method : String) (hints : List String)
    (kind : MemberKind) : Run ReflectionError (Option String) := do
  return (← resolveMethod types turns className method hints kind).map Member.signature

theorem methodSignature_ends (className method : String) (hints : List String)
    (kind : MemberKind) :
    Run.Ends (methodSignature types · className method hints kind)
      (types.methodSignature className method hints kind) := by
  refine Run.Ends.bind ?_ fun _ _ => .pure _
  refine (hierarchy_ends types className).bind fun levels _ => ?_
  refine (Run.Ends.lift _).bind fun hintTypes _ => ?_
  exact .of_option (Ends.findSomeM? (methodAt_ends types method hintTypes kind))

end Members

/-! ## Sequences -/

section Sequences

variable (view : HostView)

def isSequenceLike (turns : Nat) (object : ObjectRef) : Run ReflectionError Bool := do
  match ← view.knownType object with
  | .array _ => return true
  | .cls name => collect view.types turns [] (some name)
  | _ => return false

theorem isSequenceLike_ends (object : ObjectRef) :
    Run.Ends (isSequenceLike view · object) (view.isSequenceLike object) := by
  refine (Run.Ends.lift _).bind fun type _ => ?_
  cases type with
  | cls name => exact .of_option (collect_ends view.types [] name)
  | _ => exact .pure _

def toSequence (turns : Nat) (object : ObjectRef) : Run ReflectionError Sequence := do
  let type ← view.knownType object
  match type with
  | .array component =>
    let length ← HostView.available object (view.arrayLength object)
    let values ← ((List.range length).mapM fun index =>
      HostView.available object (view.arrayElement object index) :
        Except ReflectionError (List HostValue))
    return { sourceType := type
             items := values.map fun value => { tag := .ofComponent component, value } }
  | .cls name =>
    if ← collect view.types turns [] (some name) then
      let values ← HostView.available object (view.collectionSnapshot object)
      return { sourceType := type, items := values.map fun value => { tag := .reference, value } }
    else throw (.notSequence type.displayName)
  | _ => throw (.notSequence type.displayName)

theorem toSequence_ends (object : ObjectRef) :
    Run.Ends (toSequence view · object) (view.toSequence object) := by
  refine (Run.Ends.lift _).bind fun type _ => ?_
  cases type with
  | array component =>
    refine (Run.Ends.lift _).bind fun length _ => ?_
    exact (Run.Ends.lift _).bind fun values _ => .pure _
  | cls name =>
    refine .bind_option (collect_ends view.types [] name) ?_
    dsimp only
    rw [TypeSource.isCollection]
    split
    · exact (Run.Ends.lift _).bind fun values _ => .pure _
    · exact .throw _
  | _ => exact .throw _

/-- The items of an object that is sent with its items. -/
def sequence? (turns : Nat) (object : ObjectRef) : Option (Option Sequence) := do
  match ← (isSequenceLike view turns object).run with
  | .ok true => return (← (toSequence view turns object).run).toOption
  | _ => return none

theorem sequence?_ends (object : ObjectRef) :
    Ends (sequence? view · object) (view.sequence? object) := by
  have asked := isSequenceLike_ends view object
  unfold HostView.sequence?
  generalize view.isSequenceLike object = like at asked ⊢
  refine Ends.bind asked ?_
  cases like with
  | error e => exact .of_eq fun _ => rfl
  | ok isLike =>
    cases isLike with
    | false => exact .of_eq fun _ => rfl
    | true => exact Ends.bind (toSequence_ends view object) (.of_eq fun _ => rfl)

end Sequences

/-! ## Values -/

section Values

variable (view : HostView)

/-- What an object wraps, as a value like any other. -/
def unboxed (object : ObjectRef) : Option HostValue :=
  (view.unbox object).map .scalar

/-- The items of a sequence that is not too deep for them. -/
def itemsAt (turns depth : Nat) (object : ObjectRef) : Option (Option Sequence) :=
  if depth < maxSerializeDepth then sequence? view turns object else some none

def sendEach (send : HostValue → PinTable → Option (Sent × PinTable)) :
    List HostValue → PinTable → Option (List Wire.Value × PinTable)
  | [], pins => some ([], pins)
  | value :: rest, pins => do
    let (first, pins) ← send value pins
    let (others, pins) ← sendEach send rest pins
    return (first.value :: others, pins)

/-- Sends an object with its items if it has any, and else as a reference. -/
def sendItems (send : HostValue → PinTable → Option (Sent × PinTable)) (object : ObjectRef)
    (type : HostType) (pins : PinTable) : Option Sequence → Option (Sent × PinTable)
  | some sequence => do
    let (items, pins) ← sendEach send (sequence.items.map (·.value)) pins
    return ({ value := .list sequence.sourceType.displayName items }, pins)
  | none => some (HostView.reference object type pins)

/-- Sends a value that stands so deep inside of sequences. What an object wraps is sent from the
same depth on, and the items of a sequence from the next. -/
def send : (turns depth : Nat) → HostValue → PinTable → Option (Sent × PinTable)
  | 0, _, _, _ => none
  | _ + 1, _, .scalar scalar, pins => some ({ value := scalar.toWire }, pins)
  | _ + 1, _, .null, pins => some ({ value := .null }, pins)
  | turns + 1, depth, .object object, pins =>
    match view.typeOf object with
    | none => some ({ value := .null }, pins)
    | some type =>
      match view.text? object type with
      | some text => some ({ value := .text text }, pins)
      | none =>
        match unboxed view object with
        | some inner => send turns depth inner pins
        | none => do
          sendItems (send turns (depth + 1)) object type pins (← itemsAt view turns depth object)

variable {view}

theorem sendEach_ends {item : Nat → HostValue → PinTable → Option (Sent × PinTable)} {levels : Nat}
    (each : ∀ value pins, Ends (item · value pins) (view.send levels value pins))
    (values : List HostValue) (pins : PinTable) :
    Ends (fun turns => sendEach (item turns) values pins)
      (HostView.serializeEach (view.serialize levels) values pins) := by
  induction values generalizing pins with
  | nil => exact .of_eq fun _ => rfl
  | cons value rest ih => exact (each value pins).bind ((ih _).bind (.of_eq fun _ => rfl))

/-- A value is sent if its items are. -/
theorem send_ends_of_items {depth : Nat}
    {item : Option (HostValue → PinTable → Wire.Value × PinTable)}
    (items : ∀ object, Ends (itemsAt view · depth object)
      (item.bind fun _ => view.sequence? object))
    (each : ∀ toWire, item = some toWire → ∀ values pins,
      Ends (fun turns => sendEach (send view turns (depth + 1)) values pins)
        (HostView.serializeEach toWire values pins))
    (value : HostValue) (pins : PinTable) :
    Ends (send view · depth value pins) (view.serializeWith item value pins) := by
  cases value with
  | scalar scalar => exact .last fun _ => rfl
  | null => exact .last fun _ => rfl
  | object object =>
    rw [HostView.serializeWith]
    cases known : view.typeOf object with
    | none => exact .last fun _ => by simp [send, known]
    | some type =>
      dsimp only
      cases text : view.text? object type with
      | some _ => exact .last fun _ => by simp [send, known, text]
      | none =>
        cases wrapped : view.unbox object with
        | some scalar =>
          have inner : Ends (send view · depth (.scalar scalar) pins) _ := .last fun _ => rfl
          exact inner.turn fun _ => by simp [send, known, text, unboxed, wrapped]
        | none =>
          suffices rest : Ends (fun turns => itemsAt view turns depth object >>=
              sendItems (send view turns (depth + 1)) object type pins) _ from
            rest.turn fun _ => by simp [send, known, text, unboxed, wrapped]
          refine (items object).bind ?_
          cases item with
          | none => exact .of_eq fun _ => rfl
          | some toWire =>
            dsimp only [Option.bind_some]
            cases view.sequence? object with
            | none => exact .of_eq fun _ => rfl
            | some sequence => exact (each toWire rfl _ pins).bind (.of_eq fun _ => rfl)

/-- Sending ends: each sequence inside another is one level deeper, down to the last, and what an
object wraps is not an object. -/
theorem send_ends (depth : Nat) (value : HostValue) (pins : PinTable) :
    Ends (send view · depth value pins) (view.send (maxSerializeDepth - depth) value pins) := by
  generalize remaining : maxSerializeDepth - depth = levels
  induction levels generalizing depth value pins with
  | zero =>
    refine send_ends_of_items (fun object => .of_eq fun _ => ?_) (by rintro _ ⟨⟩) value pins
    rw [itemsAt, if_neg (by omega)]
    rfl
  | succ levels ih =>
    refine send_ends_of_items (fun object => ?_) ?_ value pins
    · exact (sequence?_ends view object).congr fun _ => by rw [itemsAt, if_pos (by omega)]
    · rintro _ ⟨⟩ values pins
      exact sendEach_ends (fun value pins => ih (depth + 1) value pins (by omega)) values pins

end Values

/-! ## Fields -/

section Fields

variable {host : InMemoryHost}

def staticField (host : InMemoryHost) (turns : Nat) (className field : String) :
    Option (Option HostValue) :=
  walk host (InMemoryHost.staticOf field) turns (some className)

def instanceField (host : InMemoryHost) (turns : Nat) (object : ObjectRef) (field : String) :
    Option (Option HostValue) :=
  match host.object? object with
  | some (.plain className fields) =>
    match fields.get? field with
    | some value => some (some value)
    | none => walk host (InMemoryHost.unassignedOf field) turns (some className)
  | _ => some none

theorem staticField_ends {className field : String}
    (ends : (host.staticField className field).ends = true) :
    Ends (staticField host · className field) (host.staticField className field).value? :=
  walk_ends ends

theorem instanceField_ends {object : ObjectRef} {field : String}
    (ends : (host.instanceField object field).ends = true) :
    Ends (instanceField host · object field) (host.instanceField object field).value? := by
  unfold InMemoryHost.instanceField at ends ⊢
  unfold instanceField
  generalize host.object? object = found at ends ⊢
  cases found with
  | none => exact .of_eq fun _ => rfl
  | some held =>
    cases held with
    | plain className fields =>
      dsimp only at ends ⊢
      generalize fields.get? field = given at ends ⊢
      cases given with
      | some value => exact .of_eq fun _ => rfl
      | none => exact walk_ends ends
    | _ => exact .of_eq fun _ => rfl

def fieldEntry (view : HostView) (turns : Nat) (row : FieldSummary) (value : Option HostValue)
    (pins : PinTable) : Option (Wire.FieldEntry × PinTable) := do
  let (sent, pins) ← match value with
    | some value => send view turns 0 value pins
    | none => some ({ value := .notPresent }, pins)
  return ({ name := row.name, typeName := row.typeName, descriptor := row.descriptor
            value := sent.value, objectId := sent.objectId }, pins)

theorem fieldEntry_ends (view : HostView) (row : FieldSummary) (value : Option HostValue)
    (pins : PinTable) :
    Ends (fieldEntry view · row value pins) (view.fieldEntry row value pins) := by
  cases value with
  | none => exact .of_eq fun _ => rfl
  | some value => exact (send_ends 0 value pins).bind (.of_eq fun _ => rfl)

/-- Reads each field and sends its value before the next is read. -/
def fieldEntries (view : HostView) (turns : Nat) (read : String → Option (Option HostValue)) :
    List FieldSummary → PinTable → Option (List Wire.FieldEntry × PinTable)
  | [], pins => some ([], pins)
  | row :: rest, pins => do
    let value ← read row.name
    let (first, pins) ← fieldEntry view turns row value pins
    let (others, pins) ← fieldEntries view turns read rest pins
    return (first :: others, pins)

theorem fieldEntries_ends (view : HostView) {read : Nat → String → Option (Option HostValue)}
    {known : String → Lookup} {rows : List FieldSummary}
    (each : ∀ row ∈ rows, Ends (read · row.name) (known row.name).value?) (pins : PinTable) :
    Ends (fun turns => fieldEntries view turns (read turns) rows pins)
      (view.fieldEntries (rows.map fun row => (row, (known row.name).value?)) pins) := by
  induction rows generalizing pins with
  | nil => exact .of_eq fun _ => rfl
  | cons row rest ih =>
    refine (each row List.mem_cons_self).bind ((fieldEntry_ends view row _ pins).bind ?_)
    have others := ih fun other later => each other (List.mem_cons_of_mem _ later)
    exact (others _).bind (.of_eq fun _ => rfl)

end Fields

/-! ## Answers -/

section Answers

variable (host : InMemoryHost)

def lookUp (turns : Nat) (pins : PinTable) :
    Wire.RequestBody → Run QueryError (Wire.ResponseBody × PinTable)
  | .loadedClasses => return (.loadedClasses host.view.loadedClasses, pins)
  | .processStatus => return (.processStatus host.view.threads, pins)
  | .setLogStream _ => return (.ack, pins)
  | .staticFields className => do
    let rows ← (enumerateFields host.types turns className .static).adapt .reflection
    let (entries, pins) ← fieldEntries host.view turns (staticField host turns className) rows pins
    return (.fields entries, pins)
  | .objectFields id => do
    let object ← HostView.referent pins id
    let className ← host.view.memberClass object
    let rows ← (enumerateFields host.types turns className .onInstance).adapt .reflection
    let (entries, pins) ← fieldEntries host.view turns (instanceField host turns object) rows pins
    return (.fields entries, pins)
  | .fieldSignature target field => do
    let (className, kind) ← host.view.target pins target
    let found ← (fieldSignature host.types turns className field kind).adapt .reflection
    return (HostView.signatureAnswer found, pins)
  | .methodSignature target method hints => do
    let (className, kind) ← host.view.target pins target
    let found ← (methodSignature host.types turns className method hints kind).adapt .reflection
    return (HostView.signatureAnswer found, pins)
  | .readSequence id => do
    let object ← HostView.referent pins id
    let sequence ← (toSequence host.view turns object).adapt .reflection
    let (items, pins) ← sendEach (send host.view turns 1) (sequence.items.map (·.value)) pins
    return (.sequence sequence.sourceType.displayName items, pins)

theorem lookUp_ends (pins : PinTable) (body : Wire.RequestBody) :
    Run.Ends (lookUp host · pins body) (host.view.lookUp pins body) := by
  cases body with
  | loadedClasses => exact .pure _
  | processStatus => exact .pure _
  | setLogStream enabled => exact .pure _
  | staticFields className =>
    refine ((enumerateFields_ends host.types className .static).adapt _).bind fun rows listed => ?_
    have reads := host.readsEnd.static (mapError_eq_ok.1 listed)
    rw [HostView.readFields_of_ends reads]
    exact .bind_option (fieldEntries_ends host.view
      (fun row present => staticField_ends (reads row present)) pins) (.pure _)
  | objectFields id =>
    refine (Run.Ends.lift _).bind fun object _ => ?_
    refine (Run.Ends.lift _).bind fun className member => ?_
    refine ((enumerateFields_ends host.types className .onInstance).adapt _).bind
      fun rows listed => ?_
    have reads := host.readsEnd.onInstance member (mapError_eq_ok.1 listed)
    rw [HostView.readFields_of_ends reads]
    exact .bind_option (fieldEntries_ends host.view
      (fun row present => instanceField_ends (reads row present)) pins) (.pure _)
  | fieldSignature target field =>
    refine (Run.Ends.lift _).bind fun found _ => ?_
    exact ((fieldSignature_ends host.types found.1 field found.2).adapt _).bind fun _ _ => .pure _
  | methodSignature target method hints =>
    refine (Run.Ends.lift _).bind fun found _ => ?_
    exact ((methodSignature_ends host.types found.1 method hints found.2).adapt _).bind
      fun _ _ => .pure _
  | readSequence id =>
    refine (Run.Ends.lift _).bind fun object _ => ?_
    refine ((toSequence_ends host.view object).adapt _).bind fun sequence _ => ?_
    exact .bind_option (sendEach_ends (fun value pins => send_ends 1 value pins) _ pins) (.pure _)

def answer (turns : Nat) (state : QueryState) (body : Wire.RequestBody) :
    Option (Except QueryError Wire.ResponseBody × QueryState) := do
  match ← (lookUp host turns state.pins body).run with
  | .error e => return (.error e, state)
  | .ok (reply, pins) =>
    let streamLogs := match body with
      | .setLogStream enabled => enabled
      | _ => state.streamLogs
    return (.ok reply, { pins, streamLogs })

theorem answer_ends (state : QueryState) (body : Wire.RequestBody) :
    Ends (answer host · state body) (host.view.answer state body) := by
  have found := lookUp_ends host state.pins body
  unfold HostView.answer
  generalize host.view.lookUp state.pins body = outcome at found ⊢
  refine Ends.bind found ?_
  cases outcome with
  | error e => exact .of_eq fun _ => rfl
  | ok reply => exact .of_eq fun _ => rfl

end Answers

/-- Every question to a host in memory is answered in the end. The searches through the classes
end on every graph. The loop for a field's value ends for each field that is listed, and finds a
value if it sets out from the dotted name of the class, since some class on its way declares the
field. What an object wraps is no object, and values are sent from every depth on. So no answer is
given up as endless. -/
theorem answer_terminates (host : InMemoryHost) :
    (∀ name, Run.Ends (hierarchy host.types · name) (host.types.hierarchy name)) ∧
    (∀ name ancestor,
      Ends (extend host.types ancestor · [] [name]) (host.types.descends name ancestor)) ∧
    (∀ name, Ends (collect host.types · [] (some name)) (host.types.isCollection name)) ∧
    (∀ className rows, host.types.enumerateFields className .static = .ok rows → ∀ row ∈ rows,
      Ends (staticField host · className row.name) (host.staticField className row.name).value? ∧
      ∃ value, Ends (staticField host · (dottedName className) row.name) (some value)) ∧
    (∀ object className rows, host.view.memberClass object = .ok className →
      host.types.enumerateFields className .onInstance = .ok rows → ∀ row ∈ rows,
      Ends (instanceField host · object row.name) (host.instanceField object row.name).value?) ∧
    (∀ object inner, unboxed host.view object = some inner → ∀ other, inner ≠ .object other) ∧
    (∀ depth value pins, Ends (send host.view · depth value pins)
      (host.view.send (maxSerializeDepth - depth) value pins)) ∧
    ∀ state body, Ends (answer host · state body) (host.view.answer state body) ∧
      ∀ field, (host.view.answer state body).1 ≠ .error (.endlessRead field) := by
  refine ⟨hierarchy_ends host.types, fun name ancestor => extend_ends host.types ancestor [] [name],
    collect_ends host.types [], fun className rows listed row present => ⟨?_, ?_⟩,
    fun object className rows member listed row present => ?_, fun object inner wraps other => ?_,
    send_ends, fun state body => ⟨answer_ends host state body, ?_⟩⟩
  · exact staticField_ends (host.readsEnd.static listed row present)
  · obtain ⟨value, found⟩ := InMemoryHost.climb_listed_finds InMemoryHost.gives_staticOf listed
      present
    have ends : (host.staticField (dottedName className) row.name).ends = true := by
      rw [InMemoryHost.staticField, found]
      rfl
    have walked := staticField_ends ends
    rw [InMemoryHost.staticField, found] at walked
    exact ⟨value, walked⟩
  · exact instanceField_ends (host.readsEnd.onInstance member listed row present)
  · obtain ⟨scalar, _, rfl⟩ := Option.map_eq_some_iff.1 wraps
    nofun
  · exact HostView.settled_answer host.readsEnd state body

/-- Two classes that extend each other, the second with a static field for an array that holds
itself. -/
def tangled : InMemoryHost :=
  let host := InMemoryHost.empty.define "A" (·.extending "B")
  let host := host.define "B" fun definition =>
    (definition.extending "A").withStaticField "f" (.array (.cls "A")) (.object { id := 1 })
  (host.newArray (.cls "A") [.object { id := 1 }]).2

/-- The field is found from the first class on, and its array is sent eight levels deep; but the
loop for a field that is not listed never ends. -/
theorem answer_terminates_tangled :
    (∃ enough, ∀ turns, enough ≤ turns →
      (answer tangled turns {} (.staticFields "A")).map (fun outcome =>
        outcome.1.toOption.map fun reply => reply.values.map Wire.Value.nesting) =
          some (some [8])) ∧
    ∀ turns, staticField tangled turns "A" "g" = none := by
  constructor
  · obtain ⟨-, -, -, -, -, -, -, ends⟩ := answer_terminates tangled
    obtain ⟨⟨enough, done⟩, -⟩ := ends {} (.staticFields "A")
    refine ⟨enough, fun turns reached => ?_⟩
    have done : answer tangled turns {} (.staticFields "A") = _ := done turns reached
    rw [done]
    decide +kernel
  · have round (turns : Nat) : staticField tangled turns "A" "g" = none ∧
        staticField tangled turns "B" "g" = none := by
      induction turns with
      | zero => exact ⟨rfl, rfl⟩
      | succ turns ih =>
        have up : staticField tangled (turns + 1) "A" "g" = staticField tangled turns "B" "g" :=
          walk_passes (by decide +kernel) (by decide +kernel)
        have round : staticField tangled (turns + 1) "B" "g" = staticField tangled turns "A" "g" :=
          walk_passes (by decide +kernel) (by decide +kernel)
        rw [up, round]
        exact ih.symm
    exact fun turns => (round turns).1

end Inspector.Loops
