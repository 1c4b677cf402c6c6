import Inspector.Proofs.HostType.Descriptors

/-!
# Display names and descriptors name the same types

A display name is read from its end: brackets are taken off, and what is left is `void`, a
primitive, or the name of a class, in this order. So a class whose name is a keyword is displayed
like the type of that keyword. These are the only types that have a descriptor and are not read
back from their display names (`HostType.ofDisplayName_eq_ok`).
-/

namespace Inspector

/-- The names that are read as types of their own: `void` and the primitives. -/
def keywords : List String := "void" :: Primitive.all.map Primitive.name

namespace Primitive

theorem name_of_ofName? {text : String} {kind : Primitive} (found : ofName? text = some kind) :
    kind.name = text := by
  simpa using List.find?_some found

theorem ofName?_eq_none {text : String} :
    ofName? text = none ↔ text ∉ all.map Primitive.name := by
  simp [ofName?]

end Primitive

theorem notMem_keywords_iff {name : String} :
    name ∉ keywords ↔ name ≠ "void" ∧ Primitive.ofName? name = none := by
  rw [keywords, List.mem_cons, not_or, Primitive.ofName?_eq_none]

namespace HostType

/-- A type whose class, if it has one, is not named like another type. -/
def Unambiguous (t : HostType) : Prop :=
  ∀ name, t.element = cls name → name ∉ keywords

/-! ## Elements -/

@[simp] theorem elementName_element (t : HostType) : t.element.elementName = t.elementName := by
  induction t with
  | array component ih => exact ih
  | _ => rfl

theorem dottedName_slashedName {name : String} (noSlash : '/' ∉ name.toList) :
    dottedName (slashedName name) = name := by
  rw [← String.toList_inj, dottedName, slashedName, String.toList_map, String.toList_map,
    List.map_map]
  refine (List.map_congr_left fun c among => ?_).trans (List.map_id _)
  have differ : c ≠ '/' := by
    rintro rfl
    exact noSlash among
  by_cases dot : c = '.' <;> simp [dot, differ]

/-- The names of classes that a display name may hold are the dotted ones. -/
theorem isClassName_iff {name : String} :
    (!name.toList.contains '/' && isSlashedName (slashedName name).toList) = true ↔
      IsDottedName name := by
  rw [Bool.and_eq_true, Bool.not_eq_true', isSlashedName_iff, List.contains_eq_mem,
    decide_eq_false_iff_not]
  constructor
  · rintro ⟨noSlash, parts, named, slashed⟩
    refine ⟨parts, named, ?_⟩
    rw [← named.toList_dottedName slashed, dottedName_slashedName noSlash]
  · intro dotted
    constructor
    · intro slash
      rcases dotted.of_mem slash with dot | plain
      · cases dot
      · exact plain (by decide)
    · obtain ⟨parts, named, written⟩ := dotted
      exact ⟨parts, named, named.toList_slashedName written⟩

theorem parseElementName?_eq_some {dimensions : Nat} {name : String} {t : HostType} :
    parseElementName? dimensions name = some t ↔
      t.IsElement dimensions ∧ t.Unambiguous ∧ t.elementName = name := by
  rw [parseElementName?]
  constructor
  · intro read
    split at read
    · rename_i isVoid
      split at read
      · cases read
        exact ⟨‹dimensions = 0›, nofun, isVoid.symm⟩
      · cases read
    · rename_i notVoid
      split at read
      · rename_i kind found
        cases read
        exact ⟨trivial, nofun, Primitive.name_of_ofName? found⟩
      · rename_i notPrimitive
        split at read
        · rename_i valid
          cases read
          refine ⟨isClassName_iff.1 valid, ?_, rfl⟩
          rintro own ⟨⟩
          exact notMem_keywords_iff.2 ⟨notVoid, notPrimitive⟩
        · cases read
  · rintro ⟨element, unambiguous, rfl⟩
    cases t with
    | primitive kind => cases kind <;> rfl
    | void =>
      obtain rfl : dimensions = 0 := element
      rfl
    | cls name =>
      obtain ⟨notVoid, notPrimitive⟩ := notMem_keywords_iff.1 (unambiguous name rfl)
      rw [elementName, if_neg notVoid, notPrimitive]
      exact if_pos (isClassName_iff.2 element)
    | array component => exact element.elim

/-! ## Brackets -/

/-- So many brackets, as they stand behind an element. -/
def brackets (dimensions : Nat) : List Char := (List.replicate dimensions ['[', ']']).flatten

theorem reverse_brackets_succ (dimensions : Nat) :
    (brackets (dimensions + 1)).reverse = ']' :: '[' :: (brackets dimensions).reverse := by
  rw [brackets, List.replicate_succ', List.flatten_append, List.reverse_append]
  rfl

theorem toList_displayName (t : HostType) :
    t.displayName.toList = t.elementName.toList ++ brackets t.dimensions := by
  rw [displayName, String.toList_append, String.toList_join, List.flatMap_replicate]
  rfl

/-- What is taken off the end of a text are brackets. -/
theorem brackets_of_stripBrackets (text : List Char) :
    text = (brackets (stripBrackets text).1).reverse ++ (stripBrackets text).2 := by
  fun_induction stripBrackets text with
  | case1 rest dimensions base stripped ih =>
    rw [stripped] at ih
    rw [reverse_brackets_succ, List.cons_append, List.cons_append, ← ih]
  | case2 base => rfl

theorem stripBrackets_brackets {base : List Char} (last : base.head? ≠ some ']')
    (dimensions : Nat) :
    stripBrackets ((brackets dimensions).reverse ++ base) = (dimensions, base) := by
  induction dimensions with
  | zero =>
    change stripBrackets base = (0, base)
    rw [stripBrackets.eq_def]
    split
    · exact absurd rfl last
    · rfl
  | succ dimensions ih =>
    rw [reverse_brackets_succ, List.cons_append, List.cons_append, stripBrackets, ih]

/-- No element is displayed with a bracket at its end. -/
theorem IsElement.head?_reverse_ne {dimensions : Nat} {t : HostType}
    (element : t.IsElement dimensions) : t.elementName.toList.reverse.head? ≠ some ']' := by
  cases t with
  | primitive kind => cases kind <;> decide
  | void => decide
  | cls name =>
    intro last
    have among : ']' ∈ name.toList := List.mem_reverse.1 (List.mem_of_mem_head? last)
    rcases IsDottedName.of_mem element among with dot | plain
    · cases dot
    · exact plain (by decide)
  | array component => exact element.elim

/-! ## Whole types -/

theorem ofDisplayNameChars?_eq_some {text : List Char} {t : HostType} :
    ofDisplayNameChars? text = some t ↔
      t.WellFormed ∧ t.Unambiguous ∧ t.displayName.toList = text := by
  rw [ofDisplayNameChars?]
  constructor
  · intro read
    have whole := congrArg List.reverse (brackets_of_stripBrackets text.reverse)
    rw [List.reverse_reverse, List.reverse_append, List.reverse_reverse] at whole
    dsimp only at read
    split at read
    · rename_i bounded
      obtain ⟨element, parsed, rfl⟩ := Option.map_eq_some_iff.1 read
      obtain ⟨isElement, unambiguous, named⟩ := parseElementName?_eq_some.1 parsed
      obtain ⟨same, levels, wellFormed⟩ := isElement.wellFormed_arrayOf bounded
      refine ⟨wellFormed, ?_, ?_⟩
      · rwa [Unambiguous, same, ← element_of_not_isArray isElement.isArray_eq_false]
      · rw [toList_displayName, levels, ← elementName_element, same, named,
          String.toList_ofList, ← whole]
    · cases read
  · rintro ⟨⟨bounded, element⟩, unambiguous, rfl⟩
    have last := element.head?_reverse_ne
    rw [elementName_element] at last
    have parsed : parseElementName? t.dimensions t.elementName = some t.element := by
      refine parseElementName?_eq_some.2 ⟨element, ?_, elementName_element t⟩
      rwa [Unambiguous, element_of_not_isArray element.isArray_eq_false]
    rw [toList_displayName, List.reverse_append, stripBrackets_brackets last]
    dsimp only
    rw [if_pos bounded, List.reverse_reverse, String.ofList_toList, parsed, Option.map_some,
      arrayOf_element_dimensions]

/-- Reading gives the type that is displayed so, if there is one whose class has a name of its
own. -/
theorem ofDisplayName_eq_ok {text : String} {t : HostType} :
    ofDisplayName text = .ok t ↔ t.WellFormed ∧ t.Unambiguous ∧ t.displayName = text := by
  rw [← String.toList_inj, ← ofDisplayNameChars?_eq_some, ofDisplayName]
  cases ofDisplayNameChars? text.toList <;> simp

/-- What can be read as a display name is the display name of the type that is read, and that type
has a descriptor. Conversely, a type that is read back from its descriptor is read back from its
display name too, unless its element is a class with the name of a primitive or of `void`. -/
theorem display_names_agree :
    (∀ (text : String) (t : HostType), ofDisplayName text = .ok t →
      t.displayName = text ∧ ofDescriptor t.descriptor = .ok t) ∧
    ∀ t : HostType, ofDescriptor t.descriptor = .ok t →
      (ofDisplayName t.displayName = .ok t ↔ ∀ name, t.element = cls name → name ∉ keywords) := by
  constructor
  · intro text t read
    obtain ⟨wellFormed, -, displayed⟩ := ofDisplayName_eq_ok.1 read
    exact ⟨displayed, ofDescriptor_eq_ok.2 ⟨wellFormed, rfl⟩⟩
  · intro t read
    obtain ⟨wellFormed, -⟩ := ofDescriptor_eq_ok.1 read
    rw [ofDisplayName_eq_ok]
    exact ⟨fun back => back.2.1, fun unambiguous => ⟨wellFormed, unambiguous, rfl⟩⟩

/-- Arrays of strings are read back from both forms; arrays of a class that is named `int` only from
their descriptor. -/
theorem display_names_agree_keyword :
    let strings := arrayOf (cls "java.lang.String") 2
    let keywordArray := array (cls "int")
    ofDisplayName "java.lang.String[][]" = .ok strings ∧
      ofDescriptor strings.descriptor = .ok strings ∧
      ofDescriptor keywordArray.descriptor = .ok keywordArray ∧
      ofDisplayName keywordArray.displayName ≠ .ok keywordArray := by
  intro strings keywordArray
  have displayed : ofDisplayName "java.lang.String[][]" = .ok strings := by cbv
  have described : ofDescriptor keywordArray.descriptor = .ok keywordArray := by cbv
  obtain ⟨-, both⟩ := display_names_agree.1 _ strings displayed
  refine ⟨displayed, both, described, fun back => ?_⟩
  exact (display_names_agree.2 keywordArray described).1 back "int" rfl (by decide)

end HostType

end Inspector
