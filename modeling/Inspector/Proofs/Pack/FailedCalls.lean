import Inspector.Proofs.Pack.CallSequences

/-!
# What a failed call leaves behind

A call that is refused for its place leaves the writer as it was, and so does one for a text that
is too long. Any other call that fails on a length has begun or ended a scope before it looks at
the length: a field whose name or payload does not fit stays open, and a scope whose body does not
fit is given up, with a length of zero in front of what was written inside it (`Residue`). These
are all the ways in which a failed call can change the writer (`failed_call_effect`).
-/

namespace Inspector.Pack

/-! ## Where calls fail -/

namespace Item

/-- The item holds no others. -/
def Leaf : Item → Prop
  | nil | bool _ | int _ | float _ | text _ => True
  | list _ | map _ | field _ _ => False

end Item

namespace Writer

variable {w after : Writer} {e : Error}

theorem andThen_eq_error {first : Written} {next : Writer → Written}
    (failed : andThen first next = (.error e, after)) :
    first = (.error e, after) ∨
      ∃ middle, first = (.ok (), middle) ∧ next middle = (.error e, after) := by
  obtain ⟨outcome, middle⟩ := first
  cases outcome with
  | error other => exact .inl failed
  | ok => exact .inr ⟨middle, rfl, failed⟩

theorem check_ne_blobTooLarge {tag : Tag} (refused : w.check tag = .error e) (length : Nat) :
    e ≠ .blobTooLarge length := by
  rintro rfl
  unfold check at refused
  split at refused
  · cases refused
  · cases refused
  · split at refused <;> cases refused
  · split at refused <;> cases refused

theorem scalar_eq_error {tag : Tag} {item : Bytes}
    (failed : w.scalar tag item = (.error e, after)) : w.check tag = .error e ∧ after = w := by
  unfold scalar at failed
  split at failed
  · cases failed
  · next refused =>
    cases failed
    exact ⟨refused, rfl⟩

theorem text_eq_error {value : String} (failed : w.text value = (.error e, after)) :
    after = w ∧ (w.check .text = .error e ∨
      ¬ (Item.text value).Fits ∧ ∃ length, e = .blobTooLarge length) := by
  rw [Item.fits_text_iff]
  unfold text textBytes framed at failed
  by_cases fits : (Text.encode value).length ≤ maxLength
  · rw [if_pos fits] at failed
    obtain ⟨refused, same⟩ := scalar_eq_error failed
    exact ⟨same, .inl refused⟩
  · rw [if_neg fits] at failed
    cases failed
    exact ⟨rfl, .inr ⟨fits, _, rfl⟩⟩

theorem openScope_eq_error {tag : Tag} {scope : Scope}
    (failed : w.openScope tag scope = (.error e, after)) : w.check tag = .error e ∧ after = w := by
  unfold openScope at failed
  split at failed
  · cases failed
  · next refused =>
    cases failed
    exact ⟨refused, rfl⟩

theorem item_eq_error_of_leaf {item : Item} (leaf : item.Leaf)
    (failed : w.item item = (.error e, after)) :
    after = w ∧ (w.check item.tag = .error e ∨
      (∃ value, item = .text value) ∧ ¬ item.Fits ∧ ∃ length, e = .blobTooLarge length) := by
  cases item with
  | nil | bool | int | float =>
    obtain ⟨refused, same⟩ := scalar_eq_error failed
    exact ⟨same, .inl refused⟩
  | text value =>
    obtain ⟨same, refused | large⟩ := text_eq_error failed
    · exact ⟨same, .inl refused⟩
    · exact ⟨same, .inr ⟨⟨value, rfl⟩, large⟩⟩
  | list | map | field => cases leaf

theorem fieldBegin_eq_error {name : String} (failed : w.fieldBegin name = (.error e, after)) :
    (w.check .field = .error e ∧ after = w) ∨
      (¬ (Item.text name).Fits ∧ (∃ length, e = .blobTooLarge length) ∧
        after = w.inside .field) := by
  rcases andThen_eq_error failed with begun | ⟨_, -, last⟩
  · rcases andThen_eq_error begun with opening | ⟨inside, opened, named⟩
    · exact .inl (openScope_eq_error opening)
    · unfold openScope at opened
      split at opened
      · cases opened
        obtain ⟨rfl, refused | ⟨large, length⟩⟩ := text_eq_error named
        · cases refused
        · exact .inr ⟨large, length, rfl⟩
      · cases opened
  · cases last

end Writer

/-! ## What is left -/

/-- The name of the field that a call begins. -/
def Call.fieldName? : Call → Option String
  | fieldBegin name | fieldInt name _ | fieldText name _ | fieldBool name _ | fieldUnit name =>
    some name
  | _ => none

/-- What a call that fails on a length makes of the writer, unless it is one for a text. -/
inductive Residue (w : Writer) : Call → Writer → Prop
  /-- The name does not fit: the field is open and has no name. -/
  | unnamed {call : Call} {name : String} :
      call.fieldName? = some name → ¬ (Item.text name).Fits → Residue w call (w.inside .field)
  /-- The payload does not fit: the field is open and has its name. -/
  | unfilled {call : Call} {name : String} {payload : Item} :
      call.item? = some (.field name payload) → (Item.text name).Fits → ¬ payload.Fits →
      Residue w call ((w.inside .field).extend (Item.text name).bytes 0)
  /-- The name and the payload fit, but not both together: the field is given up. -/
  | unfinished {call : Call} {name : String} {payload : Item} :
      call.item? = some (.field name payload) → (Item.text name).Fits → payload.Fits →
      ¬ (Item.field name payload).Fits →
      Residue w call (w.abandon .field ((Item.text name).bytes ++ payload.bytes))
  /-- A scope that is ended, and does not fit, is given up. -/
  | unclosed {opening : Opening} {parent : Level} {outer : List Level} :
      w.outer = parent :: outer → w.top.scope = opening.scope → maxLength < w.top.body.length →
      Residue w opening.ends (({ top := parent, outer } : Writer).abandon opening.tag w.top.body)

namespace Residue

variable {w after : Writer} {call : Call}

/-- What is left is never the writer as it was. -/
theorem ne (residue : Residue w call after) : after ≠ w := by
  cases residue with
  | unnamed | unfilled =>
    intro same
    have depth := congrArg (fun writer : Writer => writer.outer.length) same
    simp [Writer.inside, Writer.extend] at depth
  | unfinished =>
    intro same
    have size := congrArg (fun writer : Writer => writer.top.body.length) same
    simp [Writer.abandon, Writer.extend] at size
  | unclosed around =>
    intro same
    have depth := congrArg (fun writer : Writer => writer.outer.length) same
    simp [Writer.abandon, Writer.extend, around] at depth

theorem ne_text (residue : Residue w call after) (value : String) : call ≠ .text value := by
  rintro rfl
  generalize same : Call.text value = call at residue
  cases residue with
  | unnamed named => cases same; cases named
  | unfilled whole => cases same; cases whole
  | unfinished whole => cases same; cases whole
  | @unclosed opening => cases opening <;> cases same

end Residue

/-- A call that writes an item writes one that holds no others, or a field with such a payload. -/
theorem Call.leaf_of_item? {call : Call} {item : Item} (whole : call.item? = some item) :
    item.Leaf ∨ ∃ name payload, item = .field name payload ∧ payload.Leaf ∧
      call.fieldName? = some name := by
  cases call <;> cases whole
  case fieldInt | fieldText | fieldBool | fieldUnit => exact .inr ⟨_, _, rfl, trivial, rfl⟩
  all_goals exact .inl trivial

/-- The call failed and left the writer as it was, or it failed on a length and left this. -/
def Written.Leaves (written : Written) (w : Writer) (residue : Writer → Prop) : Prop :=
  ∀ e after, written = (.error e, after) →
    ((∀ length, e ≠ .blobTooLarge length) ∧ after = w) ∨
      ((∃ length, e = .blobTooLarge length) ∧ residue after)

namespace Writer

variable {w : Writer} {call : Call}

theorem leaves_field {name : String} {payload : Item} (named : call.fieldName? = some name)
    (whole : call.item? = some (.field name payload)) (leaf : payload.Leaf) :
    (w.field name (·.item payload)).Leaves w (Residue w call) := by
  intro e after failed
  unfold field at failed
  cases allowed : w.check .field with
  | error other =>
    have refused : w.fieldBegin name = (.error other, w) := by
      rw [fieldBegin, openScope, allowed]
      rfl
    rw [refused] at failed
    cases failed
    exact .inl ⟨check_ne_blobTooLarge allowed, rfl⟩
  | ok =>
    rcases fieldBegin_outcome allowed name with ⟨begun, short⟩ | ⟨⟨length, left, begun, -⟩, large⟩
    · rw [begun, andThen_ok] at failed
      rcases item_outcome ((w.inside .field).extend (Item.text name).bytes 0) payload rfl with
        ⟨filled, fits⟩ | ⟨⟨length, left, stuck, -⟩, large⟩
      · rw [filled, andThen_ok, extend_extend, fieldEnd,
          closeScope_inside w .field .field _ (0 + 1) (by simp)] at failed
        split at failed
        · cases failed
        · next long =>
          cases failed
          have large : ¬ (Item.field name payload).Fits := mt Item.fits_field_iff.1 long
          exact .inr ⟨⟨_, rfl⟩, .unfinished whole short fits large⟩
      · rw [stuck] at failed
        cases failed
        obtain ⟨rfl, -⟩ := item_eq_error_of_leaf leaf stuck
        exact .inr ⟨⟨length, rfl⟩, .unfilled whole short large⟩
    · rw [begun] at failed
      cases failed
      rcases fieldBegin_eq_error begun with ⟨refused, -⟩ | ⟨-, -, rfl⟩
      · rw [allowed] at refused
        cases refused
      · exact .inr ⟨⟨length, rfl⟩, .unnamed named large⟩

theorem leaves_ends (opening : Opening) :
    (w.run opening.ends).Leaves w (Residue w opening.ends) := by
  intro e after failed
  rw [run_ends] at failed
  rcases w.closeScope_ready_or_refused opening.tag opening.scope with ⟨other, small, refused⟩ |
    ⟨parent, outer, around, same, ready⟩
  · rw [refused] at failed
    cases failed
    exact .inl ⟨small, rfl⟩
  · rw [closeScope_of_ready around same ready] at failed
    split at failed
    · cases failed
    · next long =>
      cases failed
      exact .inr ⟨⟨_, rfl⟩, .unclosed around same (Nat.not_le.1 long)⟩

theorem leaves_begins (opening : Opening) :
    (w.run opening.begins).Leaves w (Residue w opening.begins) := by
  intro e after failed
  cases opening with
  | list | map =>
    obtain ⟨refused, same⟩ := openScope_eq_error failed
    exact .inl ⟨check_ne_blobTooLarge refused, same⟩
  | field name =>
    rcases fieldBegin_eq_error failed with ⟨refused, same⟩ | ⟨large, length, rfl⟩
    · exact .inl ⟨check_ne_blobTooLarge refused, same⟩
    · exact .inr ⟨length, .unnamed rfl large⟩

/-- Every call of every writer. -/
theorem leaves_run (w : Writer) (call : Call) :
    (w.run call).Leaves w fun after =>
      (∃ value, call = .text value) ∧ after = w ∨ Residue w call after := by
  intro e after failed
  rcases call.kinds with ⟨item, whole⟩ | ⟨opening, rfl⟩ | ⟨opening, rfl⟩
  · rw [run_of_item? whole] at failed
    rcases call.leaf_of_item? whole with leaf | ⟨name, payload, rfl, leaf, named⟩
    · obtain ⟨same, refused | ⟨⟨value, rfl⟩, -, length⟩⟩ := item_eq_error_of_leaf leaf failed
      · exact .inl ⟨check_ne_blobTooLarge refused, same⟩
      · refine .inr ⟨length, .inl ⟨?_, same⟩⟩
        cases call <;> cases whole
        exact ⟨value, rfl⟩
    · rw [Writer.item] at failed
      exact (leaves_field named whole leaf e after failed).imp_right (.imp_right .inr)
  · exact (leaves_begins opening e after failed).imp_right (.imp_right .inr)
  · exact (leaves_ends opening e after failed).imp_right (.imp_right .inr)

end Writer

/-! ## Lengths that do not fit -/

namespace Writer

/-- A name that does not fit leaves its field open. -/
theorem run_fieldBegin_of_lt {w : Writer} (allowed : w.check .field = .ok ()) {name : String}
    {length : Nat} (measured : (Text.encode name).length = length) (long : maxLength < length) :
    w.run (.fieldBegin name) = (.error (.blobTooLarge length), w.inside .field) := by
  subst measured
  have refused : textBytes name = .error (.blobTooLarge (Text.encode name).length) :=
    if_neg (Nat.not_le.2 long)
  rw [run, fieldBegin, openScope_of_check allowed, andThen_ok, text, refused]
  rfl

/-- A text that just fits makes the list around it too long. -/
theorem runAll_list_of_lt {value : String} {length : Nat}
    (measured : (Text.encode value).length = length) (fits : length ≤ maxLength)
    (long : maxLength < length + 5) :
    empty.runAll [.listBegin, .text value, .listEnd] =
      ([.ok (), .ok (), .error (.blobTooLarge (length + 5))],
        empty.abandon .list (Item.text value).bytes) := by
  subst measured
  have opened : empty.run .listBegin = (.ok (), empty.inside .list) := rfl
  have written : (empty.inside .list).run (.text value) =
      (.ok (), (empty.inside .list).extend (Item.text value).bytes 1) := by
    have item : textBytes value = .ok (Item.text value).bytes := if_pos fits
    rw [run, text, item]
    rfl
  have closed : ((empty.inside .list).extend (Item.text value).bytes 1).run .listEnd =
      (.error (.blobTooLarge ((Text.encode value).length + 5)),
        empty.abandon .list (Item.text value).bytes) := by
    have outcome := closeScope_inside empty .list .list (Item.text value).bytes 1 (by simp)
    rw [Item.bytes, length_block, if_neg (Nat.not_le.2 long)] at outcome
    exact outcome
  simp only [runAll, opened, written, closed]

/-- What is given up in an empty writer reads as an empty container with something behind it. -/
theorem bytes_abandon_list (body : Bytes) :
    (empty.abandon .list body).bytes = .ok ((Item.list []).bytes ++ body) := rfl

end Writer

/-! ## Any failed call -/

/-- For any writer and any call that fails: the writer is as it was exactly if the call failed for
another reason than a length, or wrote a text; and it is else left as `Residue` says. -/
theorem failed_call_effect {w after : Writer} {call : Call} {e : Error}
    (failed : w.run call = (.error e, after)) :
    (after = w ↔ (∀ length, e ≠ .blobTooLarge length) ∨ ∃ value, call = .text value) ∧
      (after = w ∨ Residue w call after) := by
  rcases w.leaves_run call e after failed with ⟨small, same⟩ | ⟨⟨length, rfl⟩, text | residue⟩
  · exact ⟨⟨fun _ => .inl small, fun _ => same⟩, .inl same⟩
  · exact ⟨⟨fun _ => .inr text.1, fun _ => text.2⟩, .inl text.2⟩
  · refine ⟨⟨fun same => absurd same residue.ne, ?_⟩, .inr residue⟩
    rintro (small | ⟨value, rfl⟩)
    · exact absurd rfl (small length)
    · exact absurd rfl (residue.ne_text value)

/-- In a map a number is refused, and a field whose name is one letter too long is left open. -/
theorem failed_call_effect_in_map :
    ((Writer.empty.inside .map).run (.int 1) =
        (.error .invalidMapEntry, Writer.empty.inside .map) ∧
      ((∀ length, Error.invalidMapEntry ≠ .blobTooLarge length) ∨
        ∃ value, Call.int 1 = .text value)) ∧
    (Writer.empty.inside .map).run (.fieldBegin (letters (maxLength + 1))) =
        (.error (.blobTooLarge (maxLength + 1)), (Writer.empty.inside .map).inside .field) ∧
      (Writer.empty.inside .map).inside .field ≠ Writer.empty.inside .map ∧
      Residue (Writer.empty.inside .map) (.fieldBegin (letters (maxLength + 1)))
        ((Writer.empty.inside .map).inside .field) := by
  have refused : (Writer.empty.inside .map).run (.int 1) =
      (.error .invalidMapEntry, Writer.empty.inside .map) := by rfl
  have tooLong : (Writer.empty.inside .map).run (.fieldBegin (letters (maxLength + 1))) =
      (.error (.blobTooLarge (maxLength + 1)), (Writer.empty.inside .map).inside .field) :=
    Writer.run_fieldBegin_of_lt rfl (length_encode_letters _) (Nat.lt_succ_self maxLength)
  have opened : (Writer.empty.inside .map).inside .field ≠ Writer.empty.inside .map := by
    intro same
    rcases (failed_call_effect tooLong).1.1 same with small | ⟨value, text⟩
    · exact small _ rfl
    · cases text
  exact ⟨⟨refused, (failed_call_effect refused).1.1 rfl⟩, tooLong, opened,
    (failed_call_effect tooLong).2.resolve_left opened⟩

/-- A field whose name is one letter too long stays open, and a list that is a little too long is
closed all the same: its bytes can be had, and say that it is empty. -/
theorem failed_calls_change_the_writer :
    (Writer.empty.run (.fieldBegin (letters (maxLength + 1))) =
        (.error (.blobTooLarge (maxLength + 1)), Writer.empty.inside .field) ∧
      (Writer.empty.inside .field).bytes = .error .scopeStillOpen) ∧
    (Writer.empty.runAll [.listBegin, .text (letters maxLength), .listEnd] =
        ([.ok (), .ok (), .error (.blobTooLarge (maxLength + 5))],
          Writer.empty.abandon .list (Item.text (letters maxLength)).bytes) ∧
      (Writer.empty.abandon .list (Item.text (letters maxLength)).bytes).bytes =
        .ok ((Item.list []).bytes ++ (Item.text (letters maxLength)).bytes)) := by
  have tooLong := length_encode_letters (maxLength + 1)
  have longest := length_encode_letters maxLength
  refine ⟨⟨?_, rfl⟩, ?_, ?_⟩
  · exact Writer.run_fieldBegin_of_lt rfl tooLong (Nat.lt_succ_self maxLength)
  · exact Writer.runAll_list_of_lt longest (Nat.le_refl maxLength)
      (Nat.lt_add_of_pos_right (Nat.succ_pos 4))
  · exact Writer.bytes_abandon_list _

end Inspector.Pack
