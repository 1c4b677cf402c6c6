import Inspector.Host.InMemory
import Inspector.Reflection.Assignability
import Inspector.Reflection.Sequence

/-!
# Searches as loops

The searches through a host's classes as they run, turn after turn. Nothing in a loop says when it
will stop, so each is given a number of turns and has no outcome if they do not suffice; it ends if
some number suffices (`Ends`). The loops that leave a name alone that they have seen end on every
graph of classes, as the search that they run. The loop for a field's value leaves no name alone;
it ends if the search for the value comes to an end.
-/

namespace Inspector.Loops

/-! ## Ending -/

/-- With enough turns, and with any more of them, the outcome is the given one. -/
def Ends {α : Type} (run : Nat → Option α) (outcome : α) : Prop :=
  ∃ enough, ∀ turns, enough ≤ turns → run turns = some outcome

namespace Ends

variable {α β : Type} {run next : Nat → Option α} {outcome : α}

theorem of_eq (always : ∀ turns, run turns = some outcome) : Ends run outcome :=
  ⟨0, fun turns _ => always turns⟩

theorem congr (ends : Ends run outcome) (same : ∀ turns, next turns = run turns) :
    Ends next outcome := by
  obtain ⟨enough, done⟩ := ends
  exact ⟨enough, fun turns reached => (same turns).trans (done turns reached)⟩

/-- A loop ends if it does so after one turn. -/
theorem turn (ends : Ends next outcome) (taken : ∀ turns, run (turns + 1) = next turns) :
    Ends run outcome := by
  obtain ⟨enough, done⟩ := ends
  refine ⟨enough + 1, fun turns reached => ?_⟩
  obtain ⟨left, rfl⟩ : ∃ left, turns = left + 1 := ⟨turns - 1, by omega⟩
  rw [taken, done left (Nat.le_of_succ_le_succ reached)]

theorem last (taken : ∀ turns, run (turns + 1) = some outcome) : Ends run outcome :=
  (of_eq fun _ => rfl).turn taken

theorem bind {later : Nat → α → Option β} {final : β} (first : Ends run outcome)
    (second : Ends (later · outcome) final) :
    Ends (fun turns => run turns >>= later turns) final := by
  obtain ⟨enough, done⟩ := first
  obtain ⟨more, finished⟩ := second
  refine ⟨max enough more, fun turns reached => ?_⟩
  dsimp only
  rw [done turns (Nat.le_trans (Nat.le_max_left ..) reached)]
  exact finished turns (Nat.le_trans (Nat.le_max_right ..) reached)

end Ends

/-! ## Superclasses -/

/-- Goes from class to superclass and gathers the names, up to the first that was seen. -/
def gather (types : TypeSource) :
    (turns : Nat) → (levels seen : List String) → Option String → Option (List String)
  | 0, _, _, _ => none
  | _ + 1, levels, _, none => some levels
  | turns + 1, levels, seen, some level =>
    if level ∈ seen then some levels
    else gather types turns (levels ++ [level]) (level :: seen) (types.superclass level)

theorem gather_ends (types : TypeSource) (levels seen : List String) (name : String) :
    Ends (gather types · levels seen (some name)) (levels ++ types.chainFrom seen name) := by
  fun_induction types.chainFrom seen name generalizing levels with
  | case1 seen name old => exact .last fun turns => by simp [gather, old]
  | case2 seen name fresh ih =>
    rw [List.append_cons]
    split
    · next top =>
      have stops : Ends (gather types · (levels ++ [name]) (name :: seen) none)
          (levels ++ [name] ++ []) := .last fun turns => by simp [gather]
      exact stops.turn fun turns => by simp [gather, fresh, top]
    · next parent extended =>
      exact (ih parent extended _).turn fun turns => by simp [gather, fresh, extended]

/-! ## Ancestors -/

/-- Works off a queue of names, of which each that is new appends its superclass and its
interfaces. -/
def extend (types : TypeSource) (ancestor : String) :
    (turns : Nat) → (seen queue : List String) → Option Bool
  | 0, _, _ => none
  | _ + 1, _, [] => some false
  | turns + 1, seen, current :: rest =>
    if current = ancestor then some true
    else if current ∈ seen then extend types ancestor turns seen rest
    else extend types ancestor turns (current :: seen) (rest ++ types.parents current)

theorem extend_ends (types : TypeSource) (ancestor : String) (seen queue : List String) :
    Ends (extend types ancestor · seen queue) (types.reaches ancestor seen queue) := by
  fun_induction types.reaches ancestor seen queue with
  | case1 seen => exact .last fun turns => rfl
  | case2 seen rest => exact .last fun turns => by simp [extend]
  | case3 seen current rest apart old ih => exact ih.turn fun turns => by simp [extend, apart, old]
  | case4 seen current rest apart fresh ih =>
    exact ih.turn fun turns => by simp [extend, apart, fresh]

/-- Strips an array level of both types and goes on with the rest. -/
def assign (types : TypeSource) : (turns : Nat) → (target source : HostType) → Option Bool
  | 0, _, _ => none
  | turns + 1, target, source =>
    if target = source then some true
    else
      match target, source with
      | .array t, .array s =>
        if !t.isReference || !s.isReference then some false else assign types turns t s
      | .cls t, .array _ => some (t == objectClass || TypeSource.arrayInterfaces.contains t)
      | .cls t, .cls s => if t = objectClass then some true else extend types t turns [] [s]
      | _, _ => some false

theorem assign_ends (types : TypeSource) (target source : HostType) :
    Ends (assign types · target source) (types.conforms target source) := by
  fun_induction types.conforms target source with
  | case1 type => exact .last fun turns => by simp [assign]
  | case2 t s apart ih =>
    cases references : t.isReference && s.isReference with
    | false =>
      rw [Bool.false_and]
      refine .last fun turns => ?_
      rw [assign, if_neg apart]
      rcases Bool.and_eq_false_iff.1 references with value | value <;> simp [value]
    | true =>
      rw [Bool.true_and]
      refine ih.turn fun turns => ?_
      rw [assign, if_neg apart]
      rw [Bool.and_eq_true] at references
      simp [references]
  | case3 t component apart =>
    refine .last fun turns => ?_
    rw [assign, if_neg apart]
  | case4 t s apart =>
    by_cases root : t = objectClass
    · refine .last fun turns => ?_
      rw [assign, if_neg apart]
      simp [root]
    · rw [beq_eq_false_iff_ne.2 root, Bool.false_or]
      refine (extend_ends types t [] [s]).turn fun turns => ?_
      rw [assign, if_neg apart]
      simp [root]
  | case5 target source apart notArrays notArray notClasses =>
    refine .last fun turns => ?_
    rw [assign, if_neg apart]
    · exact notArrays
    · exact notArray
    · exact notClasses

/-- Asks the host's own rule, or else compares the types in the usual way. -/
def isAssignable (types : TypeSource) (turns : Nat) (target source : HostType) : Option Bool :=
  match types.ownRule with
  | some rule => some (rule target source)
  | none => assign types turns target source

theorem isAssignable_ends (types : TypeSource) (target source : HostType) :
    Ends (isAssignable types · target source) (types.isAssignable target source) := by
  unfold isAssignable TypeSource.isAssignable
  cases types.ownRule with
  | some rule => exact .of_eq fun turns => rfl
  | none => exact assign_ends types target source

/-! ## Interfaces -/

/-- Works off a stack of interfaces, on which each that is new puts those that it extends. -/
def search (types : TypeSource) :
    (turns : Nat) → (seen pending : List String) → Option (Bool × List String)
  | 0, _, _ => none
  | _ + 1, seen, [] => some (false, seen)
  | turns + 1, seen, current :: rest =>
    if current = orderedCollection then some (true, seen)
    else if current ∈ seen then search types turns seen rest
    else search types turns (current :: seen) (types.interfaceStack current ++ rest)

theorem search_ends (types : TypeSource) (seen pending : List String) :
    Ends (search types · seen pending) (types.searchInterfaces seen pending) := by
  fun_induction types.searchInterfaces seen pending with
  | case1 seen => exact .last fun turns => rfl
  | case2 seen rest => exact .last fun turns => by simp [search]
  | case3 seen current rest apart old ih => exact ih.turn fun turns => by simp [search, apart, old]
  | case4 seen current rest apart fresh ih =>
    exact ih.turn fun turns => by simp [search, apart, fresh]

/-- Goes from class to superclass and searches the interfaces of each. -/
def collect (types : TypeSource) :
    (turns : Nat) → (seen : List String) → Option String → Option Bool
  | 0, _, _ => none
  | _ + 1, _, none => some false
  | turns + 1, seen, some level =>
    if level ∈ seen then some false
    else do
      let searched ← search types turns (level :: seen) (types.interfaceStack level)
      if searched.1 then some true else collect types turns searched.2 (types.superclass level)

theorem collect_ends (types : TypeSource) (seen : List String) (name : String) :
    Ends (collect types · seen (some name)) (types.collectionFrom seen name) := by
  fun_induction types.collectionFrom seen name with
  | case1 seen name old => exact .last fun turns => by simp [collect, old]
  | case2 seen name fresh later searched =>
    have ends := searched ▸ search_ends types (name :: seen) (types.interfaceStack name)
    refine (ends.bind (.of_eq fun turns => ?_)).turn fun turns => by rw [collect, if_neg fresh]
    rfl
  | case3 seen name fresh later searched top =>
    have ends := searched ▸ search_ends types (name :: seen) (types.interfaceStack name)
    refine (ends.bind (.last fun turns => ?_)).turn fun turns => by rw [collect, if_neg fresh]
    rw [top]
    rfl
  | case4 seen name fresh later searched parent extended ih =>
    have ends := searched ▸ search_ends types (name :: seen) (types.interfaceStack name)
    refine (ends.bind (ih.congr fun turns => ?_)).turn fun turns => by rw [collect, if_neg fresh]
    rw [extended]
    rfl

/-! ## Field values -/

/-- Goes from class to superclass until one gives a value. No class is left alone. -/
def walk (host : InMemoryHost) (read : ClassDef → Option HostValue) :
    (turns : Nat) → Option String → Option (Option HostValue)
  | 0, _ => none
  | _ + 1, none => some none
  | turns + 1, some level =>
    match host.classes.get? level with
    | none => some none
    | some definition =>
      match read definition with
      | some value => some (some value)
      | none => walk host read turns definition.superclass

section Walk

variable {host : InMemoryHost} {read : ClassDef → Option HostValue} {name parent : String}

/-- A class that gives no value is passed, however often it was passed before. -/
theorem walk_passes {turns : Nat} (silent : (host.classes.get? name).bind read = none)
    (extended : host.types.superclass name = some parent) :
    walk host read (turns + 1) (some name) = walk host read turns (some parent) := by
  obtain ⟨definition, found, extended⟩ := Option.bind_eq_some_iff.1 extended
  rw [found, Option.bind_some] at silent
  simp only [walk, found, silent, extended]

theorem walk_ends {seen : List String} (ends : (host.climb read seen name).ends = true) :
    Ends (walk host read · (some name)) (host.climb read seen name).value? := by
  fun_induction host.climb read seen name with
  | case1 => cases ends
  | case2 seen name fresh missing =>
    exact .last fun turns => by simp [walk, missing, Lookup.value?]
  | case3 seen name fresh definition found value given =>
    exact .last fun turns => by simp [walk, found, given, Lookup.value?]
  | case4 seen name fresh definition found silent top =>
    have stops : Ends (walk host read · none) Lookup.absent.value? := .last fun turns => rfl
    exact stops.turn fun turns => by simp [walk, found, silent, top]
  | case5 seen name fresh definition found silent parent extended ih =>
    refine (ih ends).turn fun turns => walk_passes ?_ ?_
    · rw [found, Option.bind_some, silent]
    · exact Option.bind_eq_some_iff.2 ⟨definition, found, extended⟩

end Walk

end Inspector.Loops
