import Inspector.Proofs.Introspection.FieldLookups
import Inspector.Proofs.Reflection.MethodLookups

/-!
# Signatures can be taken apart

In a signature the descriptors of the parameters stand one behind the other, with nothing between
them. They can be told apart all the same, since no descriptor goes on where another ends: one ends
with its first character that is no bracket, or, if that is the `L` of a class, with the next
semicolon (`HostType.descriptorLength_append`). So what a client reads in a signature is what was
written (`readSignature_eq_some`), whatever characters the names of classes are made of.
-/

namespace Inspector

open Outcome

/-! ## The first of several descriptors -/

/-- The length of the descriptor that a text begins with. -/
def descriptorLength : List Char → Nat
  | [] => 0
  | '[' :: rest => descriptorLength rest + 1
  | 'L' :: rest => (rest.takeWhile (· != ';')).length + 2
  | _ :: _ => 1

theorem descriptorLength_pos (c : Char) (rest : List Char) :
    0 < descriptorLength (c :: rest) := by
  rw [descriptorLength.eq_def]
  split <;> simp_all

theorem IsDottedName.semicolon_notMem {name : String} (dotted : IsDottedName name) :
    ';' ∉ (slashedName name).toList := by
  obtain ⟨parts, named, written⟩ := dotted
  rw [named.toList_slashedName written]
  intro among
  rcases named.of_mem_intercalate among with slash | plain
  · exact absurd slash (by decide)
  · exact plain (by decide)

namespace HostType

theorem descriptorLength_brackets (text : List Char) (dimensions : Nat) :
    descriptorLength (List.replicate dimensions '[' ++ text) =
      dimensions + descriptorLength text := by
  induction dimensions with
  | zero => simp
  | succ dimensions ih =>
    rw [List.replicate_succ, List.cons_append, descriptorLength, ih]
    omega

/-- The descriptor of an element ends where it is written to end, whatever stands behind it. -/
theorem IsElement.descriptorLength_append {dimensions : Nat} {t : HostType}
    (element : t.IsElement dimensions) (rest : List Char) :
    descriptorLength (t.elementDescriptor.toList ++ rest) = t.elementDescriptor.toList.length := by
  cases t with
  | primitive kind => cases kind <;> rfl
  | void => rfl
  | cls name =>
    have inside : ∀ c ∈ (slashedName name).toList, (c != ';') = true := by
      intro c among
      rw [bne_iff_ne]
      rintro rfl
      exact IsDottedName.semicolon_notMem element among
    have first : ((slashedName name).toList ++ ';' :: rest).takeWhile (· != ';') =
        (slashedName name).toList := by
      rw [List.takeWhile_append_of_pos inside, List.takeWhile_cons_of_neg (by decide),
        List.append_nil]
    rw [toList_elementDescriptor_cls, List.cons_append, List.append_assoc, List.singleton_append,
      descriptorLength, first]
    simp
  | array component => exact element.elim

theorem WellFormed.descriptorLength_append {t : HostType} (wellFormed : t.WellFormed)
    (rest : List Char) :
    descriptorLength (t.descriptor.toList ++ rest) = t.descriptor.toList.length := by
  have element := wellFormed.element.descriptorLength_append rest
  rw [elementDescriptor_element] at element
  rw [toList_descriptor, List.append_assoc, descriptorLength_brackets, element, List.length_append,
    List.length_replicate]

/-- No descriptor begins with the parenthesis that ends the parameters. -/
theorem WellFormed.exists_head {t : HostType} (wellFormed : t.WellFormed) :
    ∃ c rest, t.descriptor.toList = c :: rest ∧ c ≠ ')' := by
  rw [toList_descriptor]
  cases levels : t.dimensions with
  | succ dimensions => exact ⟨'[', _, rfl, by decide⟩
  | zero =>
    have element := wellFormed.element
    rw [← elementDescriptor_element]
    cases whole : t.element with
    | primitive kind => cases kind <;> exact ⟨_, _, rfl, by decide⟩
    | void => exact ⟨_, _, rfl, by decide⟩
    | cls name =>
      rw [toList_elementDescriptor_cls]
      exact ⟨_, _, rfl, by decide⟩
    | array component =>
      rw [whole] at element
      exact element.elim

end HostType

/-! ## Reading a signature -/

/-- Reads descriptors up to the closing parenthesis, and gives what stands behind it. -/
def readParams : (text : List Char) → Option (List HostType × List Char)
  | [] => none
  | c :: rest =>
    if c = ')' then some ([], rest)
    else do
      let first ← HostType.ofDescriptorChars? ((c :: rest).take (descriptorLength (c :: rest)))
      let others ← readParams ((c :: rest).drop (descriptorLength (c :: rest)))
      return (first :: others.1, others.2)
termination_by text => text.length
decreasing_by
  have := descriptorLength_pos c rest
  simp only [List.length_drop, List.length_cons]
  omega

/-- The parameters and the result of the method that has a signature. -/
def readSignature (text : String) : Option (List HostType × HostType) :=
  match text.toList with
  | [] => none
  | c :: inside =>
    if c = '(' then do
      let params ← readParams inside
      let result ← HostType.ofDescriptorChars? params.2
      return (params.1, result)
    else none

/-- The descriptors of the parameters, one behind the other. -/
def writtenParams (params : List HostType) : List Char :=
  params.flatMap fun param => param.descriptor.toList

theorem readParams_written {params : List HostType}
    (wellFormed : ∀ param ∈ params, param.WellFormed) (rest : List Char) :
    readParams (writtenParams params ++ ')' :: rest) = some (params, rest) := by
  induction params with
  | nil => rw [writtenParams, List.flatMap_nil, List.nil_append, readParams, if_pos rfl]
  | cons first others ih =>
    obtain ⟨here, later⟩ := List.forall_mem_cons.1 wellFormed
    obtain ⟨c, front, written, differ⟩ := here.exists_head
    have length := here.descriptorLength_append (writtenParams others ++ ')' :: rest)
    have read := HostType.ofDescriptorChars?_eq_some.2 ⟨here, rfl⟩
    rw [writtenParams, List.flatMap_cons, ← writtenParams, List.append_assoc]
    rw [written] at length read ⊢
    rw [List.cons_append] at length ⊢
    rw [readParams, if_neg differ, length, ← List.cons_append, List.take_left, List.drop_left,
      read, ih later]
    rfl

theorem written_of_readParams {text rest : List Char} {params : List HostType}
    (read : readParams text = some (params, rest)) :
    (∀ param ∈ params, param.WellFormed) ∧ text = writtenParams params ++ ')' :: rest := by
  -- The induction is on the reading: each turn takes one descriptor off the text.
  fun_induction readParams text generalizing params with
  | case1 => cases read
  | case2 after =>
    cases read
    exact ⟨by simp, by simp [writtenParams]⟩
  | case3 c after goesOn ih =>
    obtain ⟨first, here, read⟩ := Option.bind_eq_some_iff.1 read
    obtain ⟨⟨others, behind⟩, later, read⟩ := Option.bind_eq_some_iff.1 read
    cases read
    obtain ⟨wellFormed, written⟩ := HostType.ofDescriptorChars?_eq_some.1 here
    obtain ⟨allFormed, remains⟩ := ih later
    refine ⟨List.forall_mem_cons.2 ⟨wellFormed, allFormed⟩, ?_⟩
    rw [writtenParams, List.flatMap_cons, ← writtenParams, List.append_assoc, written, ← remains,
      List.take_append_drop]

theorem toList_methodSignature (params : List HostType) (result : HostType) :
    (methodSignature params result).toList =
      '(' :: (writtenParams params ++ ')' :: result.descriptor.toList) := by
  simp [methodSignature, writtenParams, String.toList_join, List.flatMap_map]

/-- Reading a signature gives the types that are written so, if there are any. -/
theorem readSignature_eq_some {text : String} {params : List HostType} {result : HostType} :
    readSignature text = some (params, result) ↔
      (∀ param ∈ params, param.WellFormed) ∧ result.WellFormed ∧
        methodSignature params result = text := by
  rw [← String.toList_inj, toList_methodSignature]
  constructor
  · intro read
    rw [readSignature] at read
    split at read
    · cases read
    rename_i c inside text
    split at read
    · rename_i opened
      obtain ⟨⟨others, behind⟩, listed, read⟩ := Option.bind_eq_some_iff.1 read
      obtain ⟨last, closed, read⟩ := Option.bind_eq_some_iff.1 read
      cases read
      obtain ⟨allFormed, written⟩ := written_of_readParams listed
      obtain ⟨formed, ends⟩ := HostType.ofDescriptorChars?_eq_some.1 closed
      exact ⟨allFormed, formed, by rw [text, opened, written, ends]⟩
    · cases read
  · rintro ⟨allFormed, formed, written⟩
    have listed := readParams_written allFormed result.descriptor.toList
    have closed := HostType.ofDescriptorChars?_eq_some.2 ⟨formed, rfl⟩
    simp only [readSignature, ← written, ↓reduceIte, listed, closed, Option.bind_eq_bind,
      Option.bind_some, Option.pure_def]

/-! ## Signatures that are sent -/

/-- A type that is read back from its descriptor. -/
def HostType.ReadsBack (t : HostType) : Prop :=
  HostType.ofDescriptor t.descriptor = .ok t

theorem HostType.readsBack_iff {t : HostType} : t.ReadsBack ↔ t.WellFormed := by
  rw [ReadsBack, ofDescriptor_eq_ok]
  exact and_iff_left rfl

theorem readSignature_methodSignature {params : List HostType} {result : HostType}
    (paramsRead : ∀ param ∈ params, param.ReadsBack) (resultReads : result.ReadsBack) :
    readSignature (methodSignature params result) = some (params, result) := by
  simp only [HostType.readsBack_iff] at paramsRead resultReads
  exact readSignature_eq_some.2 ⟨paramsRead, resultReads, rfl⟩

/-- A signature that is sent is that of the declaration that was found. -/
theorem HostView.exists_declared_of_signature {view : HostView} {state : QueryState}
    {target : Wire.Target} {method : String} {hints : List String} {text : String}
    (answered : (view.answer state (.methodSignature target method hints)).1 =
      .ok (.signature text)) :
    ∃ className kind place level, ∃ declared : MethodDecl,
      view.target state.pins target = .ok (className, kind) ∧
      view.types.FoundAt className method hints kind place (declared.member level kind) ∧
      methodSignature declared.params declared.result = text := by
  rw [answer_fst] at answered
  cases found : view.lookUp state.pins (.methodSignature target method hints) with
  | error e =>
    rw [found] at answered
    cases answered
  | ok reply =>
    rw [found] at answered
    obtain ⟨⟨className, kind⟩, meant, found⟩ := bind_eq_ok.1 found
    obtain ⟨signature, looked, found⟩ := bind_eq_ok.1 found
    cases found
    obtain ⟨member, resolved, same⟩ := bind_eq_ok.1 (mapError_eq_ok.1 looked)
    cases same
    obtain ⟨found, rfl, written⟩ :=
      Option.map_eq_some_iff.1 (signatureAnswer_eq_signature.1 (Except.ok.inj answered))
    obtain ⟨place, stopped⟩ := TypeSource.exists_foundAt resolved
    cases stopped with
    | intro chain read stops => exact ⟨_, _, _, _, _, meant, .intro chain read stops, written⟩

/-- A client can take a signature apart. If the types in it are read back from their descriptors,
the signature is read as its parameters and its result; so two signatures are equal only if all
their types are; and from the signature that answers a question, the parameters and the result of
the declaration that was found can be told. -/
theorem method_signatures_uniquely_readable :
    (∀ (params : List HostType) (result : HostType),
      (∀ param ∈ params, param.ReadsBack) → result.ReadsBack →
      readSignature (methodSignature params result) = some (params, result)) ∧
    (∀ (params others : List HostType) (result other : HostType),
      (∀ param ∈ params, param.ReadsBack) → result.ReadsBack →
      (∀ param ∈ others, param.ReadsBack) → other.ReadsBack →
      methodSignature params result = methodSignature others other →
      params = others ∧ result = other) ∧
    ∀ (view : HostView) (state : QueryState) (target : Wire.Target) (method : String)
      (hints : List String) (text : String),
      (view.answer state (.methodSignature target method hints)).1 = .ok (.signature text) →
      ∃ className kind place level, ∃ declared : MethodDecl,
        view.target state.pins target = .ok (className, kind) ∧
        view.types.FoundAt className method hints kind place (declared.member level kind) ∧
        ((∀ param ∈ declared.params, param.ReadsBack) → declared.result.ReadsBack →
          readSignature text = some (declared.params, declared.result)) := by
  refine ⟨fun params result => readSignature_methodSignature, ?_, ?_⟩
  · intro params others result other paramsRead resultReads othersRead otherReads same
    have read := readSignature_methodSignature paramsRead resultReads
    rw [same, readSignature_methodSignature othersRead otherReads] at read
    cases read
    exact ⟨rfl, rfl⟩
  · intro view state target method hints text answered
    obtain ⟨className, kind, place, level, declared, meant, found, written⟩ :=
      HostView.exists_declared_of_signature answered
    refine ⟨className, kind, place, level, declared, meant, found, fun paramsRead resultReads => ?_⟩
    rw [← written]
    exact readSignature_methodSignature paramsRead resultReads

/-- A class whose name looks like the end of a signature, and a method that takes it. -/
def oddlyNamed : InMemoryHost :=
  let host := InMemoryHost.empty.define "a.)V" id
  host.define "t.Odd" fun definition =>
    definition.withStaticMethod "put" [.cls "a.)V", .array (.primitive .int)] (.cls "(L")

theorem written_oddly : methodSignature [.cls "a.)V", .array (.primitive .int)] (.cls "(L") =
    "(La/)V;[I)L(L;" := by
  rw [← String.toList_inj]
  simp [methodSignature, HostType.toList_descriptor, HostType.elementDescriptor,
    HostType.dimensions, slashedName, Primitive.code]

theorem foundAt_oddly : oddlyNamed.types.FoundAt "t.Odd" "put" ["La/)V;", "[I"] .static 0
    ⟨"put", "t.Odd", .method [.cls "a.)V", .array (.primitive .int)] (.cls "(L"), .static⟩ := by
  have chain : oddlyNamed.types.hierarchy "t.Odd" = .ok ["t.Odd", "java.lang.Object"] := by
    decide +kernel
  have order : oddlyNamed.types.methodsOn ["t.Odd", "java.lang.Object"] =
      [("t.Odd", ⟨"put", [.cls "a.)V", .array (.primitive .int)], .cls "(L", true⟩)] := by
    decide +kernel
  have odd : oddlyNamed.types.Reads "La/)V;" (.cls "a.)V") := by
    refine ⟨by decide +kernel, ?_⟩
    rintro name ⟨⟩
    decide +kernel
  have numbers : oddlyNamed.types.Reads "[I" (.array (.primitive .int)) := by
    refine ⟨rfl, ?_⟩
    rintro name ⟨⟩
  have same (type : HostType) : oddlyNamed.types.isAssignable type type = true :=
    (TypeSource.isAssignable_iff rfl).2 (.same _)
  have here := congrArg (·[0]?) order
  exact .intro chain (.cons odd (.cons numbers .nil))
    ⟨here, ⟨rfl, rfl, .cons (same _) (.cons (same _) .nil)⟩, by simp⟩

/-- The parenthesis in the name of a class is not taken for the end of the parameters. -/
theorem method_signatures_uniquely_readable_oddly :
    (oddlyNamed.view.answer {} (.methodSignature (.cls "t.Odd") "put" ["La/)V;", "[I"])).1 =
        .ok (.signature "(La/)V;[I)L(L;") ∧
      (∃ className kind place level, ∃ declared : MethodDecl,
        oddlyNamed.types.FoundAt className "put" ["La/)V;", "[I"] kind place
          (declared.member level kind)) ∧
      readSignature "(La/)V;[I)L(L;" = some ([.cls "a.)V", .array (.primitive .int)], .cls "(L") ∧
      methodSignature [.cls "a.)V", .array (.primitive .int)] (.cls "(L") ≠
        methodSignature [.cls "a.)V"] (.cls "(L") := by
  have found := (TypeSource.Resolves.found foundAt_oddly).resolveMethod_eq
  have signed : oddlyNamed.view.types.methodSignature "t.Odd" "put" ["La/)V;", "[I"] .static =
      .ok (some "(La/)V;[I)L(L;") := by
    rw [← written_oddly]
    exact bind_eq_ok.2 ⟨_, found, rfl⟩
  have answered : (oddlyNamed.view.answer {}
      (.methodSignature (.cls "t.Odd") "put" ["La/)V;", "[I"])).1 =
        .ok (.signature "(La/)V;[I)L(L;") := by
    rw [HostView.answer_fst]
    simp only [HostView.lookUp, HostView.target, ok_bind, signed, mapError_ok]
    rfl
  have odd : (HostType.cls "a.)V").ReadsBack := by
    unfold HostType.ReadsBack
    decide +kernel
  have numbers : (HostType.array (.primitive .int)).ReadsBack := rfl
  have result : (HostType.cls "(L").ReadsBack := by
    unfold HostType.ReadsBack
    decide +kernel
  obtain ⟨reads, differ, replied⟩ := method_signatures_uniquely_readable
  obtain ⟨className, kind, place, level, declared, -, found, -⟩ := replied _ _ _ _ _ _ answered
  refine ⟨answered, ⟨className, kind, place, level, declared, found⟩, ?_, fun same => ?_⟩
  · rw [← written_oddly]
    exact reads _ _ (by simp [odd, numbers]) result
  · have equal := differ _ _ _ _ (by simp [odd, numbers]) result (by simp [odd]) result same
    cases equal.1

end Inspector
