import Mathlib.Data.List.Basic
import Inspector.HostType.Descriptor

/-!
# Descriptors are exact

Which types can be written is said without looking at any text: `HostType.WellFormed` bounds the
array levels, keeps `void` out of arrays, and asks that the name of a class is made of parts
(`IsDottedName`). Reading a descriptor is the inverse of writing one on these types, and accepts
nothing else (`HostType.ofDescriptor_eq_ok`).
-/

namespace Inspector

/-! ## Class names -/

/-- The characters that separate the parts of a name, or stand around a name in a written type. -/
def punctuation : List Char := ['.', '/', ';', '[', ']']

/-- The parts of a class name. -/
structure NameParts (parts : List (List Char)) : Prop where
  nonempty : parts ≠ []
  filled : ∀ part ∈ parts, part ≠ []
  plain : ∀ part ∈ parts, ∀ c ∈ part, c ∉ punctuation

/-- A class name whose parts are separated by dots. -/
def IsDottedName (name : String) : Prop :=
  ∃ parts, NameParts parts ∧ name.toList = ['.'].intercalate parts

theorem segments_eq_splitOn (separator : Char) (text : List Char) :
    segments separator text = text.splitOn separator := by
  induction text with
  | nil => rfl
  | cons c rest ih =>
    have split : (c :: rest).splitOn separator =
        if (c == separator) = true then [] :: rest.splitOn separator
        else (rest.splitOn separator).modifyHead (c :: ·) :=
      List.splitOnP_cons_eq_if_modifyHead c rest
    rw [segments, ih, split]
    by_cases same : c = separator
    · rw [if_pos same, if_pos (beq_iff_eq.2 same)]
    · rw [if_neg same, if_neg fun equal => same (beq_iff_eq.1 equal)]
      cases parts : rest.splitOn separator with
      | nil => exact absurd parts (List.splitOn_ne_nil _ _)
      | cons first others => rfl

theorem separator_notMem_segments {separator : Char} {text part : List Char}
    (present : part ∈ segments separator text) : separator ∉ part := by
  induction text generalizing part with
  | nil =>
    rw [segments, List.mem_singleton] at present
    rw [present]
    exact List.not_mem_nil
  | cons c rest ih =>
    rw [segments] at present
    split at present
    · rcases List.mem_cons.1 present with rfl | later
      · exact List.not_mem_nil
      · exact ih later
    · rename_i differ
      split at present
      · rw [List.mem_singleton.1 present, List.mem_singleton]
        exact fun same => differ same.symm
      · rename_i first others found
        rcases List.mem_cons.1 present with rfl | later
        · have absent : separator ∉ first := ih (found ▸ List.mem_cons_self)
          rw [List.mem_cons, not_or]
          exact ⟨fun same => differ same.symm, absent⟩
        · exact ih (found ▸ List.mem_cons_of_mem _ later)

theorem isNameChar_iff {c : Char} (noSlash : c ≠ '/') : isNameChar c = true ↔ c ∉ punctuation := by
  simp [isNameChar, punctuation, noSlash, and_assoc]

theorem isSlashedName_iff {text : List Char} :
    isSlashedName text = true ↔ ∃ parts, NameParts parts ∧ text = ['/'].intercalate parts := by
  have whole {part : List Char} (noSlash : '/' ∉ part) :
      (!part.isEmpty && part.all isNameChar) = true ↔ part ≠ [] ∧ ∀ c ∈ part, c ∉ punctuation := by
    rw [Bool.and_eq_true, Bool.not_eq_true', List.isEmpty_eq_false_iff, List.all_eq_true]
    refine and_congr_right fun _ => forall₂_congr fun c among => isNameChar_iff ?_
    rintro rfl
    exact noSlash among
  rw [isSlashedName, List.all_eq_true]
  constructor
  · intro valid
    have good (part : List Char) (present : part ∈ segments '/' text) :=
      (whole (separator_notMem_segments present)).1 (valid part present)
    refine ⟨segments '/' text, ⟨?_, fun part present => (good part present).1,
      fun part present => (good part present).2⟩, ?_⟩
    · rw [segments_eq_splitOn]
      exact List.splitOn_ne_nil _ _
    · rw [segments_eq_splitOn, List.intercalate_splitOn]
  · rintro ⟨parts, named, rfl⟩ part present
    have noSlash (part : List Char) (among : part ∈ parts) : '/' ∉ part :=
      fun slash => named.plain part among '/' slash (by decide)
    rw [segments_eq_splitOn, List.splitOn_intercalate '/' noSlash named.nonempty] at present
    exact (whole (noSlash part present)).2 ⟨named.filled part present, named.plain part present⟩

theorem NameParts.of_mem_intercalate {parts : List (List Char)} (named : NameParts parts)
    {separator c : Char} (among : c ∈ [separator].intercalate parts) :
    c = separator ∨ c ∉ punctuation := by
  obtain ⟨-, -, plain⟩ := named
  induction parts with
  | nil => cases among
  | cons first rest ih =>
    obtain ⟨here, later⟩ := List.forall_mem_cons.1 plain
    cases rest with
    | nil => exact .inr (here c (by simpa [List.intercalate] using among))
    | cons second others =>
      rw [List.intercalate_cons_cons, List.mem_append, List.mem_append] at among
      rcases among with (inFirst | isSeparator) | inRest
      · exact .inr (here c inFirst)
      · exact .inl (List.mem_singleton.1 isSeparator)
      · exact ih inRest later

/-- Replacing the separator of a name leaves its parts as they are. -/
theorem NameParts.map_intercalate {parts : List (List Char)} (named : NameParts parts)
    {separator other : Char} {replace : Char → Char} (replaced : replace separator = other)
    (kept : ∀ c, c ∉ punctuation → replace c = c) :
    ([separator].intercalate parts).map replace = [other].intercalate parts := by
  have same {part : List Char} (plain : ∀ c ∈ part, c ∉ punctuation) : part.map replace = part :=
    (List.map_congr_left fun c among => kept c (plain c among)).trans (List.map_id part)
  obtain ⟨-, -, plain⟩ := named
  induction parts with
  | nil => rfl
  | cons first rest ih =>
    obtain ⟨here, later⟩ := List.forall_mem_cons.1 plain
    cases rest with
    | nil => simpa [List.intercalate] using same here
    | cons second others =>
      rw [List.intercalate_cons_cons, List.intercalate_cons_cons, List.map_append,
        List.map_append, ih later, same here, List.map_singleton, replaced]

theorem NameParts.toList_dottedName {parts : List (List Char)} (named : NameParts parts)
    {name : String} (slashed : name.toList = ['/'].intercalate parts) :
    (dottedName name).toList = ['.'].intercalate parts := by
  rw [dottedName, String.toList_map, slashed]
  refine named.map_intercalate rfl fun c plain => if_neg ?_
  rintro rfl
  exact plain (by decide)

theorem NameParts.toList_slashedName {parts : List (List Char)} (named : NameParts parts)
    {name : String} (dotted : name.toList = ['.'].intercalate parts) :
    (slashedName name).toList = ['/'].intercalate parts := by
  rw [slashedName, String.toList_map, dotted]
  refine named.map_intercalate rfl fun c plain => if_neg ?_
  rintro rfl
  exact plain (by decide)

/-- The only punctuation in a dotted name is the dots. -/
theorem IsDottedName.of_mem {name : String} (dotted : IsDottedName name) {c : Char}
    (among : c ∈ name.toList) : c = '.' ∨ c ∉ punctuation := by
  obtain ⟨parts, named, written⟩ := dotted
  exact named.of_mem_intercalate (written ▸ among)

theorem Primitive.code_of_ofCode? {code : Char} {kind : Primitive}
    (found : ofCode? code = some kind) : kind.code = code := by
  simpa using List.find?_some found

namespace HostType

/-! ## Types that can be written -/

/-- A type that can be written as the element of an array with so many levels. -/
def IsElement (dimensions : Nat) : HostType → Prop
  | primitive _ => True
  | void => dimensions = 0
  | cls name => IsDottedName name
  | array _ => False

/-- A type that can be written: the array levels are not too many, `void` stands alone, and the
name of a class is a dotted one. -/
structure WellFormed (t : HostType) : Prop where
  bounded : t.dimensions ≤ maxDimensions
  element : t.element.IsElement t.dimensions

@[simp] theorem element_arrayOf (t : HostType) (dimensions : Nat) :
    (arrayOf t dimensions).element = t.element := by
  induction dimensions with
  | zero => rfl
  | succ dimensions ih => exact ih

@[simp] theorem dimensions_arrayOf (t : HostType) (dimensions : Nat) :
    (arrayOf t dimensions).dimensions = t.dimensions + dimensions := by
  induction dimensions with
  | zero => rfl
  | succ dimensions ih => exact congrArg Nat.succ ih

theorem IsElement.isArray_eq_false {dimensions : Nat} {t : HostType}
    (element : t.IsElement dimensions) : t.isArray = false := by
  cases t with
  | array component => exact element.elim
  | _ => rfl

theorem element_of_not_isArray {t : HostType} (flat : t.isArray = false) : t.element = t := by
  cases t with
  | array component => cases flat
  | _ => rfl

theorem dimensions_of_not_isArray {t : HostType} (flat : t.isArray = false) :
    t.dimensions = 0 := by
  cases t with
  | array component => cases flat
  | _ => rfl

/-- An element under array levels can be written if the levels are not too many. -/
theorem IsElement.wellFormed_arrayOf {dimensions : Nat} {t : HostType}
    (element : t.IsElement dimensions) (bounded : dimensions ≤ maxDimensions) :
    (arrayOf t dimensions).element = t ∧ (arrayOf t dimensions).dimensions = dimensions ∧
      (arrayOf t dimensions).WellFormed := by
  have flat := element.isArray_eq_false
  have same : (arrayOf t dimensions).element = t := by
    rw [element_arrayOf, element_of_not_isArray flat]
  have levels : (arrayOf t dimensions).dimensions = dimensions := by
    rw [dimensions_arrayOf, dimensions_of_not_isArray flat, Nat.zero_add]
  exact ⟨same, levels, levels.symm ▸ bounded, by rwa [same, levels]⟩

/-! ## Elements -/

theorem parseClass?_eq_some {body : List Char} {t : HostType} :
    parseClass? body = some t ↔
      ∃ name, IsDottedName name ∧ t = cls name ∧ body = (slashedName name).toList ++ [';'] := by
  rw [parseClass?]
  constructor
  · intro read
    split at read
    · rename_i valid
      obtain ⟨ends, slashed⟩ := valid
      obtain ⟨text, rfl⟩ := List.getLast?_eq_some_iff.1 ends
      rw [List.dropLast_concat] at slashed read
      obtain ⟨parts, named, rfl⟩ := isSlashedName_iff.1 slashed
      have dotted := named.toList_dottedName (String.toList_ofList (l := ['/'].intercalate parts))
      refine ⟨_, ⟨parts, named, dotted⟩, (Option.some.inj read).symm, ?_⟩
      rw [named.toList_slashedName dotted]
    · cases read
  · rintro ⟨name, ⟨parts, named, dotted⟩, rfl, rfl⟩
    have slashed := named.toList_slashedName dotted
    rw [List.dropLast_concat, String.ofList_toList, slashed,
      if_pos ⟨List.getLast?_concat, isSlashedName_iff.2 ⟨parts, named, rfl⟩⟩, ofClassName]
    have back : dottedName (slashedName name) = name := by
      rw [← String.toList_inj, named.toList_dottedName slashed, dotted]
    rw [back]

@[simp] theorem elementDescriptor_element (t : HostType) :
    t.element.elementDescriptor = t.elementDescriptor := by
  induction t with
  | array component ih => exact ih
  | _ => rfl

theorem toList_elementDescriptor_cls (name : String) :
    (cls name).elementDescriptor.toList = 'L' :: ((slashedName name).toList ++ [';']) := by
  simp [elementDescriptor]

theorem parseElement?_eq_some {dimensions : Nat} {text : List Char} {t : HostType} :
    parseElement? dimensions text = some t ↔
      t.IsElement dimensions ∧ t.elementDescriptor.toList = text := by
  constructor
  · intro read
    rw [parseElement?.eq_def] at read
    split at read
    · obtain ⟨name, dotted, rfl, rfl⟩ := parseClass?_eq_some.1 read
      exact ⟨dotted, toList_elementDescriptor_cls name⟩
    · split at read
      · cases read
        exact ⟨‹dimensions = 0›, rfl⟩
      · cases read
    · rename_i code _ _
      obtain ⟨kind, found, rfl⟩ := Option.map_eq_some_iff.1 read
      refine ⟨trivial, ?_⟩
      simp [elementDescriptor, Primitive.code_of_ofCode? found]
    · cases read
  · rintro ⟨element, rfl⟩
    cases t with
    | primitive kind => cases kind <;> rfl
    | void =>
      obtain rfl : dimensions = 0 := element
      rfl
    | cls name =>
      rw [toList_elementDescriptor_cls]
      exact parseClass?_eq_some.2 ⟨name, element, rfl, rfl⟩
    | array component => exact element.elim

/-- No element is written with a bracket in front. -/
theorem IsElement.head?_ne {dimensions : Nat} {t : HostType} (element : t.IsElement dimensions) :
    t.elementDescriptor.toList.head? ≠ some '[' := by
  cases t with
  | primitive kind => cases kind <;> decide
  | void => decide
  | cls name =>
    rw [toList_elementDescriptor_cls, List.head?_cons]
    decide
  | array component => exact element.elim

/-! ## Whole types -/

theorem toList_descriptor (t : HostType) :
    t.descriptor.toList = .replicate t.dimensions '[' ++ t.elementDescriptor.toList := by
  rw [descriptor, String.toList_append, String.toList_ofList]

/-- The brackets in front of a text can be told from the rest. -/
theorem split_brackets {text : List Char} (first : text.head? ≠ some '[') (dimensions : Nat) :
    (List.replicate dimensions '[' ++ text).takeWhile (· == '[') = .replicate dimensions '[' ∧
      (List.replicate dimensions '[' ++ text).dropWhile (· == '[') = text := by
  have brackets : ∀ c ∈ List.replicate dimensions '[', (c == '[') = true :=
    fun c among => beq_iff_eq.2 (List.eq_of_mem_replicate among)
  rw [List.takeWhile_append_of_pos brackets, List.dropWhile_append_of_pos brackets]
  cases text with
  | nil => exact ⟨List.append_nil _, rfl⟩
  | cons c rest =>
    have differ : (c == '[') = false := beq_eq_false_iff_ne.2 fun same => first (congrArg some same)
    rw [List.takeWhile_cons, List.dropWhile_cons, differ]
    exact ⟨List.append_nil _, rfl⟩

theorem ofDescriptorChars?_eq_some {text : List Char} {t : HostType} :
    ofDescriptorChars? text = some t ↔ t.WellFormed ∧ t.descriptor.toList = text := by
  constructor
  · intro read
    rw [ofDescriptorChars?] at read
    split at read
    · rename_i bounded
      obtain ⟨element, parsed, rfl⟩ := Option.map_eq_some_iff.1 read
      obtain ⟨isElement, written⟩ := parseElement?_eq_some.1 parsed
      obtain ⟨same, levels, wellFormed⟩ := isElement.wellFormed_arrayOf bounded
      refine ⟨wellFormed, ?_⟩
      have brackets : text.takeWhile (· == '[') =
          .replicate (text.takeWhile (· == '[')).length '[' := by
        refine List.eq_replicate_iff.2 ⟨rfl, fun c among => ?_⟩
        exact beq_iff_eq.1 (List.all_eq_true.1 List.all_takeWhile c among)
      rw [toList_descriptor, levels, ← elementDescriptor_element, same, written, ← brackets,
        List.takeWhile_append_dropWhile]
    · cases read
  · rintro ⟨⟨bounded, element⟩, rfl⟩
    have first := element.head?_ne
    rw [elementDescriptor_element] at first
    obtain ⟨front, rest⟩ := split_brackets first t.dimensions
    have parsed : parseElement? t.dimensions t.elementDescriptor.toList = some t.element :=
      parseElement?_eq_some.2 ⟨element, by rw [elementDescriptor_element]⟩
    rw [ofDescriptorChars?, toList_descriptor, front, rest, List.length_replicate, if_pos bounded,
      parsed, Option.map_some, arrayOf_element_dimensions]

/-- Reading gives the type that is written so, if there is one. -/
theorem ofDescriptor_eq_ok {text : String} {t : HostType} :
    ofDescriptor text = .ok t ↔ t.WellFormed ∧ t.descriptor = text := by
  rw [← String.toList_inj, ← ofDescriptorChars?_eq_some, ofDescriptor]
  cases ofDescriptorChars? text.toList <;> simp

theorem ofDescriptor_eq_error {text : String} {e : ReflectionError}
    (failed : ofDescriptor text = .error e) : e = .malformedDescriptor text := by
  rw [ofDescriptor] at failed
  split at failed
  · cases failed
  · exact (Except.error.inj failed).symm

/-- Descriptors are exact. A text is read as the type whose descriptor it is, and else refused as
malformed; and a type is read back from its descriptor just in case it has 255 array levels at most,
is not an array of `void`, and its class, if it has one, is named by parts with dots between
them. -/
theorem descriptors_exact :
    (∀ text : String,
      (∃ t, ofDescriptor text = .ok t ∧ t.descriptor = text) ∨
        ofDescriptor text = .error (.malformedDescriptor text)) ∧
    ∀ t : HostType, ofDescriptor t.descriptor = .ok t ↔ t.WellFormed := by
  constructor
  · intro text
    cases read : ofDescriptor text with
    | ok t => exact .inl ⟨t, rfl, (ofDescriptor_eq_ok.1 read).2⟩
    | error e => exact .inr (by rw [ofDescriptor_eq_error read])
  · intro t
    rw [ofDescriptor_eq_ok]
    exact and_iff_left rfl

end HostType

end Inspector
