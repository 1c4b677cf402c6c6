import Mathlib.Data.List.Forall2
import Inspector.Proofs.HostType.Descriptors
import Inspector.Proofs.Outcome
import Inspector.Proofs.Reflection.Conformance
import Inspector.Reflection.Member

/-!
# Which method is found

Looking a method up may fail in two ways and otherwise finds a declaration or none. `Resolves` says
which of these happens, with the order in which the failures are noticed and the declarations are
looked at, and the look-up does just that (`method_resolution_exact`).

A hint that is narrower never does harm: whatever was eligible stays so, since assignability is
transitive, so that the search stops where it did or before (`narrower_hints_found_no_later`).
-/

namespace Inspector

/-- The member that a class has by a declaration. -/
def MethodDecl.member (declared : MethodDecl) (level : String) (kind : MemberKind) : Member :=
  { name := declared.name
    declaringClass := level
    shape := .method declared.params declared.result
    kind }

namespace TypeSource

open Outcome

variable {types : TypeSource}

/-! ## Hints -/

/-- A hint is the descriptor of a type whose class, if it has one, exists. -/
structure Reads (types : TypeSource) (hint : String) (type : HostType) : Prop where
  parsed : HostType.ofDescriptor hint = .ok type
  known : ∀ name, type.element = .cls name → types.classExists name = true

/-- Why a hint is refused. -/
inductive Refuses (types : TypeSource) (hint : String) : ReflectionError → Prop
  | malformed : (∀ type, HostType.ofDescriptor hint ≠ .ok type) →
    Refuses types hint (.malformedDescriptor hint)
  | unknown {type : HostType} {name : String} : HostType.ofDescriptor hint = .ok type →
    type.element = .cls name → types.classExists name = false →
    Refuses types hint (.unknownType name)

theorem resolve_eq_ok {type other : HostType} :
    types.resolve type = .ok other ↔
      type = other ∧ ∀ name, type.element = .cls name → types.classExists name = true := by
  unfold resolve
  cases type.element with
  | cls name => cases known : types.classExists name <;> simp [known]
  | _ => simp

theorem resolve_eq_error {type : HostType} {e : ReflectionError} :
    types.resolve type = .error e ↔
      ∃ name, type.element = .cls name ∧ types.classExists name = false ∧
        .unknownType name = e := by
  unfold resolve
  cases type.element with
  | cls name => cases known : types.classExists name <;> simp [known]
  | _ => simp

theorem decodeDescriptor_eq_ok {hint : String} {type : HostType} :
    types.decodeDescriptor hint = .ok type ↔ types.Reads hint type := by
  rw [decodeDescriptor, bind_eq_ok]
  constructor
  · rintro ⟨parsed, read, resolved⟩
    obtain ⟨rfl, known⟩ := resolve_eq_ok.1 resolved
    exact ⟨read, known⟩
  · rintro ⟨parsed, known⟩
    exact ⟨type, parsed, resolve_eq_ok.2 ⟨rfl, known⟩⟩

theorem decodeDescriptor_eq_error {hint : String} {e : ReflectionError} :
    types.decodeDescriptor hint = .error e ↔ types.Refuses hint e := by
  rw [decodeDescriptor]
  cases parsed : HostType.ofDescriptor hint with
  | error other =>
    obtain rfl := HostType.ofDescriptor_eq_error parsed
    constructor
    · rintro ⟨⟩
      exact .malformed (by simp [parsed])
    · rintro (_ | ⟨read, _, _⟩)
      · rfl
      · rw [parsed] at read
        cases read
  | ok type =>
    rw [ok_bind, resolve_eq_error]
    constructor
    · rintro ⟨name, element, missing, rfl⟩
      exact .unknown parsed element missing
    · rintro (malformed | ⟨read, element, missing⟩)
      · exact absurd parsed (malformed type)
      · obtain rfl := Except.ok.inj (parsed.symm.trans read)
        exact ⟨_, element, missing, rfl⟩

theorem mapM_decodeDescriptor_eq_ok {hints : List String} {hintTypes : List HostType} :
    hints.mapM types.decodeDescriptor = .ok hintTypes ↔
      List.Forall₂ types.Reads hints hintTypes := by
  induction hints generalizing hintTypes with
  | nil => cases hintTypes <;> simp
  | cons hint rest ih =>
    rw [mapM_cons_eq_ok, List.forall₂_cons_left_iff]
    simp only [decodeDescriptor_eq_ok, ih]

theorem reads_unique {hints : List String} {hintTypes others : List HostType}
    (read : List.Forall₂ types.Reads hints hintTypes)
    (again : List.Forall₂ types.Reads hints others) : hintTypes = others := by
  rw [← mapM_decodeDescriptor_eq_ok] at read again
  exact Except.ok.inj (read.symm.trans again)

/-! ## Declarations -/

/-- There are as many targets as sources, and each target accepts the source in its place. -/
abbrev AcceptEach (types : TypeSource) (targets sources : List HostType) : Prop :=
  List.Forall₂ (fun target source => types.isAssignable target source = true) targets sources

/-- A declaration answers the question for a method. -/
structure Eligible (types : TypeSource) (method : String) (hints : List HostType)
    (kind : MemberKind) (declared : MethodDecl) : Prop where
  kind : kind.admits declared.isStatic = true
  name : declared.name = method
  params : types.AcceptEach declared.params hints

theorem isEligible_iff {method : String} {hints : List HostType} {kind : MemberKind}
    {declared : MethodDecl} :
    types.isEligible method hints kind declared = true ↔
      types.Eligible method hints kind declared := by
  have pairs : (declared.params.length = hints.length ∧
      ∀ pair ∈ declared.params.zip hints, types.isAssignable pair.1 pair.2 = true) ↔
        types.AcceptEach declared.params hints := by
    rw [AcceptEach, List.forall₂_iff_zip]
    exact and_congr_right fun _ => ⟨fun each _ _ held => each _ held, fun each _ held => each held⟩
  simp only [isEligible, Bool.and_eq_true, beq_iff_eq, List.all_eq_true, and_assoc, pairs]
  exact ⟨fun ⟨admitted, named, fits⟩ => ⟨admitted, named, fits⟩,
    fun eligible => ⟨eligible.kind, eligible.name, eligible.params⟩⟩

/-- The methods in the order of the search: those of a level before those of the levels above it,
and within a level in the order of declaration. Each stands with its level. -/
def methodsOn (types : TypeSource) (levels : List String) : List (String × MethodDecl) :=
  levels.flatMap fun level => (types.declaredMethods level).map fun declared => (level, declared)

/-- The first declaration on these levels that is eligible. -/
def firstEligible (types : TypeSource) (levels : List String) (method : String)
    (hints : List HostType) (kind : MemberKind) : Option (String × MethodDecl) :=
  (types.methodsOn levels).find? fun entry => types.isEligible method hints kind entry.2

section Search

variable {levels : List String} {method : String} {hints : List HostType} {kind : MemberKind}

theorem findSome?_methodAt :
    levels.findSome? (types.methodAt method hints kind) =
      (types.firstEligible levels method hints kind).map fun entry =>
        entry.2.member entry.1 kind := by
  induction levels with
  | nil => rfl
  | cons level above ih =>
    rw [List.findSome?_cons, ih, methodAt, firstEligible, firstEligible, methodsOn, methodsOn,
      List.flatMap_cons, List.find?_append, List.find?_map]
    simp only [Function.comp_def]
    cases (types.declaredMethods level).find? (types.isEligible method hints kind) <;> rfl

/-- The search stops at a place, with the declaration that stands there. -/
structure StopsAt (types : TypeSource) (levels : List String) (method : String)
    (hints : List HostType) (kind : MemberKind) (place : Nat) (level : String)
    (declared : MethodDecl) : Prop where
  here : (types.methodsOn levels)[place]? = some (level, declared)
  eligible : types.Eligible method hints kind declared
  first : ∀ earlier < place, ∀ entry, (types.methodsOn levels)[earlier]? = some entry →
    ¬types.Eligible method hints kind entry.2

theorem firstEligible_eq_some {level : String} {declared : MethodDecl} :
    types.firstEligible levels method hints kind = some (level, declared) ↔
      ∃ place, types.StopsAt levels method hints kind place level declared := by
  rw [firstEligible, List.find?_eq_some_iff_getElem]
  constructor
  · rintro ⟨eligible, place, inside, here, first⟩
    refine ⟨place, List.getElem?_eq_some_iff.2 ⟨inside, here⟩, isEligible_iff.1 eligible, ?_⟩
    intro earlier before entry there suits
    obtain ⟨_, rfl⟩ := List.getElem?_eq_some_iff.1 there
    have refused := first earlier before
    rw [isEligible_iff.2 suits] at refused
    cases refused
  · rintro ⟨place, here, eligible, first⟩
    obtain ⟨inside, here⟩ := List.getElem?_eq_some_iff.1 here
    refine ⟨isEligible_iff.2 eligible, place, inside, here, fun earlier before => ?_⟩
    have refused := first earlier before _ (List.getElem?_eq_getElem (Nat.lt_trans before inside))
    rw [← isEligible_iff] at refused
    simpa using refused

theorem firstEligible_eq_none :
    types.firstEligible levels method hints kind = none ↔
      ∀ entry ∈ types.methodsOn levels, ¬types.Eligible method hints kind entry.2 := by
  simp only [firstEligible, List.find?_eq_none, isEligible_iff]

end Search

/-! ## Looking a method up -/

/-- The class and all hints are known, and the search stops at a place with a member. -/
inductive FoundAt (types : TypeSource) (className method : String) (hints : List String)
    (kind : MemberKind) : (place : Nat) → Member → Prop
  | intro {levels : List String} {hintTypes : List HostType} {place : Nat} {level : String}
      {declared : MethodDecl} :
    types.hierarchy className = .ok levels → List.Forall₂ types.Reads hints hintTypes →
    types.StopsAt levels method hintTypes kind place level declared →
    FoundAt types className method hints kind place (declared.member level kind)

/-- What comes of looking a method up. -/
inductive Resolves (types : TypeSource) (className method : String) (hints : List String)
    (kind : MemberKind) : Except ReflectionError (Option Member) → Prop
  | unknownClass : types.classExists (dottedName className) = false →
    Resolves types className method hints kind (.error (.unknownType (dottedName className)))
  /-- The first hint that cannot be read decides, whatever the class declares. -/
  | badHint {before after : List String} {hint : String} {e : ReflectionError} :
    types.classExists (dottedName className) = true → hints = before ++ hint :: after →
    (∀ earlier ∈ before, ∃ type, types.Reads earlier type) → types.Refuses hint e →
    Resolves types className method hints kind (.error e)
  | found {place : Nat} {member : Member} :
    types.FoundAt className method hints kind place member →
    Resolves types className method hints kind (.ok (some member))
  | notFound {levels : List String} {hintTypes : List HostType} :
    types.hierarchy className = .ok levels → List.Forall₂ types.Reads hints hintTypes →
    (∀ entry ∈ types.methodsOn levels, ¬types.Eligible method hintTypes kind entry.2) →
    Resolves types className method hints kind (.ok none)

section Resolution

variable {className method : String} {hints : List String} {kind : MemberKind}

theorem hierarchy_of_exists (known : types.classExists (dottedName className) = true) :
    types.hierarchy className = .ok (types.chainFrom [] (dottedName className)) :=
  if_pos known

theorem resolveMethod_of_read {levels : List String} {hintTypes : List HostType}
    (chain : types.hierarchy className = .ok levels)
    (read : List.Forall₂ types.Reads hints hintTypes) :
    types.resolveMethod className method hints kind =
      .ok ((types.firstEligible levels method hintTypes kind).map fun entry =>
        entry.2.member entry.1 kind) := by
  rw [resolveMethod, chain, ok_bind, mapM_decodeDescriptor_eq_ok.2 read, ok_bind,
    findSome?_methodAt, pure_eq_ok]

theorem Resolves.resolveMethod_eq {outcome : Except ReflectionError (Option Member)}
    (resolves : types.Resolves className method hints kind outcome) :
    types.resolveMethod className method hints kind = outcome := by
  cases resolves with
  | unknownClass missing =>
    rw [resolveMethod, hierarchy, missing]
    rfl
  | @badHint before after hint e known split fine refused =>
    have failed : hints.mapM types.decodeDescriptor = .error e := by
      refine mapM_eq_error.2 ⟨_, _, _, split, ?_, decodeDescriptor_eq_error.2 refused⟩
      simpa only [decodeDescriptor_eq_ok] using fine
    rw [resolveMethod, hierarchy_of_exists known, ok_bind, failed, error_bind]
  | found stopped =>
    obtain ⟨chain, read, stops⟩ := stopped
    rw [resolveMethod_of_read chain read, firstEligible_eq_some.2 ⟨_, stops⟩]
    rfl
  | notFound chain read none =>
    rw [resolveMethod_of_read chain read, firstEligible_eq_none.2 none]
    rfl

theorem exists_resolves (types : TypeSource) (className method : String) (hints : List String)
    (kind : MemberKind) : ∃ outcome, types.Resolves className method hints kind outcome := by
  cases known : types.classExists (dottedName className) with
  | false => exact ⟨_, .unknownClass known⟩
  | true =>
    have chain := hierarchy_of_exists known
    cases read : hints.mapM types.decodeDescriptor with
    | error e =>
      obtain ⟨before, hint, after, split, fine, refused⟩ := mapM_eq_error.1 read
      simp only [decodeDescriptor_eq_ok] at fine
      exact ⟨_, .badHint known split fine (decodeDescriptor_eq_error.1 refused)⟩
    | ok hintTypes =>
      -- The class and the hints are known, so the search through the levels decides.
      rw [mapM_decodeDescriptor_eq_ok] at read
      cases search : types.firstEligible (types.chainFrom [] (dottedName className)) method
          hintTypes kind with
      | none => exact ⟨_, .notFound chain read (firstEligible_eq_none.1 search)⟩
      | some entry =>
        obtain ⟨place, stops⟩ := firstEligible_eq_some.1 search
        exact ⟨_, .found (.intro chain read stops)⟩

theorem resolves_resolveMethod (types : TypeSource) (className method : String)
    (hints : List String) (kind : MemberKind) :
    types.Resolves className method hints kind
      (types.resolveMethod className method hints kind) := by
  obtain ⟨outcome, resolves⟩ := types.exists_resolves className method hints kind
  rw [resolves.resolveMethod_eq]
  exact resolves

theorem exists_foundAt {member : Member}
    (answer : types.resolveMethod className method hints kind = .ok (some member)) :
    ∃ place, types.FoundAt className method hints kind place member := by
  have resolves := types.resolves_resolveMethod className method hints kind
  rw [answer] at resolves
  cases resolves with
  | found stopped => exact ⟨_, stopped⟩

end Resolution

/-- For every class, method, list of hints and kind of member, with superclasses in circles or not
and with any rule of assignability, looking the method up gives exactly what `Resolves` says. A
class that does not exist is noticed first, then the first hint that is malformed or names a class
that does not exist; after that the first eligible declaration is found, from the class up and in
the order of declaration, as a member of the class that declares it, or none if no level has one. -/
theorem method_resolution_exact (types : TypeSource) (className method : String)
    (hints : List String) (kind : MemberKind) (outcome : Except ReflectionError (Option Member)) :
    types.resolveMethod className method hints kind = outcome ↔
      types.Resolves className method hints kind outcome := by
  constructor
  · rintro rfl
    exact types.resolves_resolveMethod className method hints kind
  · exact Resolves.resolveMethod_eq

end TypeSource

/-- A class that overloads a method of its superclass for values of its own. -/
def overloading : InMemoryHost :=
  let host := InMemoryHost.empty.define "java.lang.Object" id
  let host := host.define "t.Base" (·.withMethod "put" [.cls "java.lang.Object"] .void)
  host.define "t.Leaf" fun definition =>
    (definition.extending "t.Base").withMethod "put" [.cls "t.Leaf"] .void

theorem hierarchy_overloading : overloading.types.hierarchy "t.Leaf" =
    .ok ["t.Leaf", "t.Base", "java.lang.Object"] := by
  decide +kernel

theorem methodsOn_overloading :
    overloading.types.methodsOn ["t.Leaf", "t.Base", "java.lang.Object"] =
      [("t.Leaf", ⟨"put", [.cls "t.Leaf"], .void, false⟩),
        ("t.Base", ⟨"put", [.cls "java.lang.Object"], .void, false⟩)] := by
  decide +kernel

theorem reads_overloading : overloading.types.Reads "Lt/Leaf;" (.cls "t.Leaf") := by
  refine ⟨by decide +kernel, ?_⟩
  rintro name ⟨⟩
  decide +kernel

namespace TypeSource

/-- A class that does not exist is noticed before a bad hint, and the first bad hint before any
other and before there is no such method. Else the declaration that is found is the class's own, or
there is none. -/
theorem method_resolution_exact_overloading :
    let resolve (className method : String) (hints : List String) :=
      overloading.types.resolveMethod className method hints .onInstance
    resolve "t/Gone" "put" ["["] = .error (.unknownType "t.Gone") ∧
      resolve "t.Leaf" "get" ["I", "Lt/None;", "["] = .error (.unknownType "t.None") ∧
      resolve "t.Leaf" "get" ["[", "Lt/None;"] = .error (.malformedDescriptor "[") ∧
      resolve "t/Leaf" "put" ["Lt/Leaf;"] =
        .ok (some ⟨"put", "t.Leaf", .method [.cls "t.Leaf"] .void, .onInstance⟩) ∧
      resolve "t.Leaf" "put" ["I"] = .ok none := by
  intro resolve
  have gone : overloading.types.Resolves "t/Gone" "put" ["["] .onInstance
      (.error (.unknownType "t.Gone")) := by
    have dotted : dottedName "t/Gone" = "t.Gone" := by decide +kernel
    rw [← dotted]
    exact .unknownClass (by decide +kernel)
  have known : overloading.types.classExists (dottedName "t.Leaf") = true := by decide +kernel
  have number : overloading.types.Reads "I" (.primitive .int) := ⟨by decide +kernel, nofun⟩
  have unknown : overloading.types.Refuses "Lt/None;" (.unknownType "t.None") := by
    have parsed : HostType.ofDescriptor "Lt/None;" = .ok (.cls "t.None") := by decide +kernel
    exact .unknown parsed rfl (by decide +kernel)
  have malformed : overloading.types.Refuses "[" (.malformedDescriptor "[") := by
    have unfinished : HostType.ofDescriptor "[" = .error (.malformedDescriptor "[") := by
      decide +kernel
    refine .malformed fun type read => ?_
    rw [unfinished] at read
    cases read
  have own : overloading.types.StopsAt ["t.Leaf", "t.Base", "java.lang.Object"] "put"
      [.cls "t.Leaf"] .onInstance 0 "t.Leaf" ⟨"put", [.cls "t.Leaf"], .void, false⟩ := by
    refine ⟨?_, ⟨rfl, rfl, .cons ((isAssignable_iff rfl).2 (.same _)) .nil⟩, nofun⟩
    rw [methodsOn_overloading]
    rfl
  have none : ∀ entry ∈ overloading.types.methodsOn ["t.Leaf", "t.Base", "java.lang.Object"],
      ¬overloading.types.Eligible "put" [.primitive .int] .onInstance entry.2 := by
    rw [methodsOn_overloading]
    rintro entry among ⟨-, -, params⟩
    obtain rfl | rfl : entry = _ ∨ entry = _ := by simpa using among
    all_goals
      obtain ⟨accepted, -⟩ := List.forall₂_cons.1 params
      cases Conforms.eq_of_value (.inr rfl) ((isAssignable_iff rfl).1 accepted)
  have fine : ∀ hint ∈ ["I"], ∃ type, overloading.types.Reads hint type := by
    intro hint among
    rw [List.mem_singleton.1 among]
    exact ⟨_, number⟩
  have slashed : overloading.types.hierarchy "t/Leaf" =
      .ok ["t.Leaf", "t.Base", "java.lang.Object"] := by
    have dotted : dottedName "t/Leaf" = dottedName "t.Leaf" := by decide +kernel
    rw [hierarchy, dotted]
    exact hierarchy_overloading
  exact ⟨(method_resolution_exact ..).2 gone,
    (method_resolution_exact ..).2 (.badHint known rfl fine unknown),
    (method_resolution_exact ..).2 (.badHint known (List.nil_append _).symm nofun malformed),
    (method_resolution_exact ..).2 (.found (.intro slashed (.cons reads_overloading .nil) own)),
    (method_resolution_exact ..).2 (.notFound hierarchy_overloading (.cons number .nil) none)⟩

/-! ## Narrower hints -/

section Narrower

variable {types : TypeSource} (usual : types.ownRule = none) (grounded : types.Grounded)

include usual grounded

theorem AcceptEach.trans {targets middles sources : List HostType}
    (first : types.AcceptEach targets middles) (second : types.AcceptEach middles sources) :
    types.AcceptEach targets sources := by
  induction first generalizing sources with
  | nil =>
    cases second
    exact .nil
  | cons above _ ih =>
    cases second with
    | cons below rest => exact .cons (grounded.isAssignable_trans usual above below) (ih rest)

theorem Eligible.of_narrower {method : String} {kind : MemberKind} {wide narrow : List HostType}
    {declared : MethodDecl} (fit : types.AcceptEach wide narrow)
    (eligible : types.Eligible method wide kind declared) :
    types.Eligible method narrow kind declared :=
  ⟨eligible.kind, eligible.name, AcceptEach.trans usual grounded eligible.params fit⟩

/-- A search for narrower hints stops no later. -/
theorem StopsAt.exists_of_narrower {levels : List String} {method : String} {kind : MemberKind}
    {wide narrow : List HostType} {place : Nat} {level : String} {declared : MethodDecl}
    (fit : types.AcceptEach wide narrow)
    (stops : types.StopsAt levels method wide kind place level declared) :
    ∃ place' ≤ place, ∃ level' declared',
      types.StopsAt levels method narrow kind place' level' declared' := by
  have suits := stops.eligible.of_narrower usual grounded fit
  cases search : types.firstEligible levels method narrow kind with
  | none =>
    have present := List.mem_of_getElem? stops.here
    exact absurd suits (firstEligible_eq_none.1 search _ present)
  | some entry =>
    obtain ⟨place', stops'⟩ := firstEligible_eq_some.1 search
    refine ⟨place', Nat.le_of_not_lt fun later => ?_, entry.1, entry.2, stops'⟩
    -- A later stop would have passed by the old one, which is still eligible.
    exact stops'.first place later _ stops.here suits

end Narrower

end TypeSource

/-- Where the root and the interfaces of arrays stand at the top of a host's classes, a method that
is found for some hints is found for narrower ones, by the same declaration or by one that comes
before it in the order of the search. -/
theorem narrower_hints_found_no_later (host : InMemoryHost) (grounded : host.types.Grounded)
    {className method : String} {kind : MemberKind} {hints narrower : List String}
    {wide narrow : List HostType} (read : List.Forall₂ host.types.Reads hints wide)
    (readNarrower : List.Forall₂ host.types.Reads narrower narrow)
    (fit : host.types.AcceptEach wide narrow) {member : Member}
    (found : host.types.resolveMethod className method hints kind = .ok (some member)) :
    ∃ place place' member',
      host.types.FoundAt className method hints kind place member ∧
      host.types.resolveMethod className method narrower kind = .ok (some member') ∧
      host.types.FoundAt className method narrower kind place' member' ∧ place' ≤ place := by
  obtain ⟨place, stopped⟩ := TypeSource.exists_foundAt found
  have whole := stopped
  obtain ⟨chain, readAgain, stops⟩ := stopped
  obtain rfl := TypeSource.reads_unique read readAgain
  obtain ⟨place', earlier, level', declared', stops'⟩ :=
    stops.exists_of_narrower rfl grounded fit
  have foundNarrower : host.types.FoundAt className method narrower kind place'
      (declared'.member level' kind) := .intro chain readNarrower stops'
  exact ⟨place, place', _, whole, (TypeSource.Resolves.found foundNarrower).resolveMethod_eq,
    foundNarrower, earlier⟩

/-- For any object the superclass's method is found, and for a value of the class the one that it
declares itself, which comes first. -/
theorem narrower_hints_found_no_later_overloading :
    overloading.types.Grounded ∧
    overloading.types.resolveMethod "t.Leaf" "put" ["Ljava/lang/Object;"] .onInstance =
      .ok (some ⟨"put", "t.Base", .method [.cls "java.lang.Object"] .void, .onInstance⟩) ∧
    ∃ place place' member',
      overloading.types.FoundAt "t.Leaf" "put" ["Ljava/lang/Object;"] .onInstance place
        ⟨"put", "t.Base", .method [.cls "java.lang.Object"] .void, .onInstance⟩ ∧
      overloading.types.resolveMethod "t.Leaf" "put" ["Lt/Leaf;"] .onInstance =
        .ok (some member') ∧
      overloading.types.FoundAt "t.Leaf" "put" ["Lt/Leaf;"] .onInstance place' member' ∧
      place' ≤ place := by
  have grounded : overloading.types.Grounded := by decide +kernel
  have read : overloading.types.Reads "Ljava/lang/Object;" (.cls "java.lang.Object") := by
    refine ⟨by decide +kernel, ?_⟩
    rintro name ⟨⟩
    decide +kernel
  have fit : overloading.types.isAssignable (.cls "java.lang.Object") (.cls "t.Leaf") = true :=
    (TypeSource.isAssignable_iff rfl).2 (.classToRoot _)
  have found : overloading.types.resolveMethod "t.Leaf" "put" ["Ljava/lang/Object;"] .onInstance =
      .ok (some ⟨"put", "t.Base", .method [.cls "java.lang.Object"] .void, .onInstance⟩) := by
    have refused : overloading.types.isAssignable (.cls "t.Leaf") (.cls "java.lang.Object") =
        false := by
      rw [Bool.eq_false_iff, ne_eq, TypeSource.isAssignable_iff rfl,
        TypeSource.Conforms.classes_iff]
      rintro (root | way)
      · simp at root
      · have atTop := grounded.ancestor_of_top List.mem_cons_self way
        simp at atTop
    have accepted : overloading.types.isAssignable (.cls "java.lang.Object")
        (.cls "java.lang.Object") = true := (TypeSource.isAssignable_iff rfl).2 (.same _)
    rw [TypeSource.resolveMethod_of_read hierarchy_overloading (.cons read .nil),
      TypeSource.firstEligible, methodsOn_overloading]
    simp [TypeSource.isEligible, MemberKind.admits, MethodDecl.member, refused, accepted]
  exact ⟨grounded, found, narrower_hints_found_no_later overloading grounded
    (.cons read .nil) (.cons reads_overloading .nil) (.cons fit .nil) found⟩

end Inspector
