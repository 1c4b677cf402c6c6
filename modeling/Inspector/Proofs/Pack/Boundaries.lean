import Inspector.Proofs.Pack.Lengths
import Inspector.Proofs.Pack.Reading

/-!
# Where items end

Skipping goes by the layout of an item alone: its tag, and a word or a length if the tag asks for
one (`skip_eq_ok_iff`). The reads of the single kinds look at what is inside as well, but none of
them takes more or less than a layout, so they all agree on where the next item starts. A layout
that is cut off is always noticed (`Layout.run_skip_part`), which is why the items of a list can be
told apart from what is malformed behind them. `item_boundaries_agree` puts this together.
-/

namespace Inspector.Pack

/-! ## Skipping -/

theorem Tag.layouts (tag : Tag) : (tag = .nil ∨ tag = .yes ∨ tag = .no) ∨
    (tag = .int ∨ tag = .float) ∨ (tag = .text ∨ tag = .list ∨ tag = .map ∨ tag = .field) := by
  cases tag <;> simp

/-- Skipping succeeds on a layout with anything behind it and on nothing else, and leaves what is
behind. -/
theorem skip_eq_ok_iff {input rest : Bytes} :
    skip.run input = (.ok (), rest) ↔ ∃ whole, Layout whole ∧ input = whole ++ rest := by
  constructor
  · intro done
    obtain ⟨tag, middle, peeked, -⟩ := Read.run_bind_eq_ok.1 done
    obtain ⟨-, tail, rfl⟩ := eq_of_peekTag peeked
    rcases tag.layouts with kind | kind | kind
    · rw [run_skip_bare kind] at done
      cases done
      exact ⟨_, .bare kind, rfl⟩
    · rw [run_skip_word kind] at done
      obtain ⟨word, left, eight, last⟩ := Read.run_bind_eq_ok.1 done
      cases last
      obtain ⟨width, rfl⟩ := eq_of_take eight
      exact ⟨_, .word kind width, rfl⟩
    · rw [run_skip_block kind] at done
      obtain ⟨length, ahead, counted, taken⟩ := Read.run_bind_eq_ok.1 done
      obtain ⟨body, left, inner, last⟩ := Read.run_bind_eq_ok.1 taken
      cases last
      obtain ⟨small, rfl⟩ := eq_of_takeLength counted
      obtain ⟨rfl, rfl⟩ := eq_of_take inner
      refine ⟨_, .block kind small, ?_⟩
      simp only [block, List.cons_append, List.append_assoc]
  · rintro ⟨whole, layout, rfl⟩
    exact layout.run_skip rest

theorem run_take_of_lt {n : Nat} {input : Bytes} (short : input.length < n) :
    (take n).run input = (.error .unexpectedEnd, input) :=
  if_neg (Nat.not_le.2 short)

/-- Of a layout that is cut off, something that the tag or the length asks for is missing. -/
theorem Layout.run_skip_part {whole part : Bytes} (layout : Layout whole) (within : part <+: whole)
    (cut : part ≠ whole) : (skip.run part).1 = .error .unexpectedEnd := by
  have shorter : part.length < whole.length :=
    Nat.lt_of_le_of_ne within.length_le fun same => cut (within.eq_of_length same)
  cases part with
  | nil => rfl
  | cons b tail =>
    cases layout with
    | bare kind =>
      rw [List.length_cons, List.length_singleton] at shorter
      omega
    | word kind width =>
      obtain ⟨rfl, -⟩ := List.cons_prefix_cons.1 within
      rw [List.length_cons, List.length_cons, width] at shorter
      rw [run_skip_word kind, Read.run_bind, run_take_of_lt (by omega)]
    | @block tag body kind small =>
      obtain ⟨rfl, ahead⟩ := List.cons_prefix_cons.1 within
      rw [run_skip_block kind, Read.run_bind]
      by_cases short : tail.length < 4
      · rw [takeLength, Read.run_bind, run_take_of_lt short]
      · -- the length is there, so it is the body that is cut off
        have counted : Bytes.ofNatLE 4 body.length <+: tail :=
          List.prefix_of_prefix_length_le (List.prefix_append _ body) ahead (by simpa using short)
        obtain ⟨inner, rfl⟩ := counted
        have missing : inner.length < body.length := by
          rw [length_block, List.length_cons, List.length_append, Bytes.length_ofNatLE] at shorter
          omega
        rw [run_takeLength small]
        simp only [Read.run_bind, run_take_of_lt missing]

/-! ## Calls -/

/-- What can be asked for where a reader stands. -/
inductive Access where
  | peekTag | skip | nil | bool | int | float | text | list | map | field
  /-- The next item, in the body of a list. -/
  | nextItem
  /-- The next field, in the body of a map. -/
  | nextField
deriving DecidableEq, Repr

namespace Access

/-- Reads what is asked for, and gives the bytes that can be read on their own then: the body of a
container, the payload of a field, or an item of a list. -/
def read : Access → Read (Option Bytes)
  | peekTag => do
    let _ ← Pack.peekTag
    return none
  | skip => do
    Pack.skip
    return none
  | nil => do
    Pack.nil
    return none
  | bool => do
    let _ ← Pack.bool
    return none
  | int => do
    let _ ← Pack.int
    return none
  | float => do
    let _ ← Pack.float
    return none
  | text => do
    let _ ← Pack.text
    return none
  | list => return some (← Pack.list)
  | map => return some (← Pack.map)
  | field => return some (← Pack.field).2
  | nextItem => Pack.nextItem
  | nextField => return (← Pack.nextField).map Prod.snd

/-- The reads of the single kinds of items. -/
def typed : List Access :=
  [nil, bool, int, float, text, list, map, field]

theorem exists_layout {call : Access} (kind : call ∈ typed) {input rest : Bytes}
    {opened : Option Bytes} (done : call.read.run input = (.ok opened, rest)) :
    ∃ whole, Layout whole ∧ input = whole ++ rest := by
  cases call with
  | peekTag | skip | nextItem | nextField => simp [typed] at kind
  | nil =>
    obtain ⟨_, left, run, last⟩ := Read.run_bind_eq_ok.1 done
    cases last
    exact ⟨_, .bare (.inl rfl), eq_of_nil run⟩
  | bool =>
    obtain ⟨value, left, run, last⟩ := Read.run_bind_eq_ok.1 done
    cases last
    exact ⟨_, layout_boolBytes value, eq_of_bool run⟩
  | int =>
    obtain ⟨value, left, run, last⟩ := Read.run_bind_eq_ok.1 done
    cases last
    exact ⟨_, .word (.inl rfl) (Bytes.length_ofNatLE 8 _), eq_of_int run⟩
  | float =>
    obtain ⟨bits, left, run, last⟩ := Read.run_bind_eq_ok.1 done
    cases last
    exact ⟨_, .word (.inr rfl) (Bytes.length_ofNatLE 8 _), eq_of_float run⟩
  | text =>
    obtain ⟨value, left, run, last⟩ := Read.run_bind_eq_ok.1 done
    cases last
    obtain ⟨small, same⟩ := eq_of_text run
    exact ⟨_, .block (.inl rfl) small, same⟩
  | list =>
    obtain ⟨inner, left, run, last⟩ := Read.run_bind_eq_ok.1 done
    cases last
    obtain ⟨small, same⟩ := eq_of_body run
    exact ⟨_, .block (.inr (.inl rfl)) small, same⟩
  | map =>
    obtain ⟨inner, left, run, last⟩ := Read.run_bind_eq_ok.1 done
    cases last
    obtain ⟨small, same⟩ := eq_of_body run
    exact ⟨_, .block (.inr (.inr (.inl rfl))) small, same⟩
  | field =>
    obtain ⟨entry, left, run, last⟩ := Read.run_bind_eq_ok.1 done
    cases last
    obtain ⟨small, same⟩ := eq_of_field run
    exact ⟨_, .block (.inr (.inr (.inr rfl))) small, same⟩

end Access

/-! ## What is left, and what is given out -/

section Within

open Read

theorem leavesSuffix_takeWord : LeavesSuffix takeWord :=
  leavesSuffix_bind (leavesSuffix_take 8) fun _ => leavesSuffix_pure _

theorem leavesSuffix_skip : LeavesSuffix skip := by
  refine leavesSuffix_bind leavesSuffix_peekTag fun tag =>
    leavesSuffix_bind (leavesSuffix_take 1) fun _ => ?_
  cases tag with
  | nil | yes | no => exact leavesSuffix_pure ()
  | int | float => exact leavesSuffix_bind (leavesSuffix_take 8) fun _ => leavesSuffix_pure ()
  | text | list | map | field =>
    exact leavesSuffix_bind leavesSuffix_takeLength fun length =>
      leavesSuffix_bind (leavesSuffix_take length) fun _ => leavesSuffix_pure ()

theorem leavesSuffix_bool : LeavesSuffix bool := by
  refine leavesSuffix_bind leavesSuffix_peekTag fun tag => ?_
  split
  · exact leavesSuffix_bind (leavesSuffix_take 1) fun _ => leavesSuffix_pure true
  · exact leavesSuffix_bind (leavesSuffix_take 1) fun _ => leavesSuffix_pure false
  · exact leavesSuffix_fail _

theorem leavesSuffix_int : LeavesSuffix int :=
  leavesSuffix_bind (leavesSuffix_expectTag .int) fun _ =>
    leavesSuffix_bind leavesSuffix_takeWord fun _ => leavesSuffix_pure _

theorem leavesSuffix_float : LeavesSuffix float :=
  leavesSuffix_bind (leavesSuffix_expectTag .float) fun _ => leavesSuffix_takeWord

theorem leavesSuffix_text : LeavesSuffix text := by
  refine leavesSuffix_bind (leavesSuffix_body .text) fun inner => ?_
  split
  · exact leavesSuffix_pure _
  · exact leavesSuffix_fail _

theorem leavesSuffix_field : LeavesSuffix field := by
  refine leavesSuffix_bind (leavesSuffix_body .field) fun inner => ?_
  split
  · exact leavesSuffix_pure _
  · exact leavesSuffix_fail _

theorem leavesSuffix_nextItem : LeavesSuffix nextItem := by
  intro input
  have left := leavesSuffix_skip input
  unfold nextItem
  simp only
  split
  · exact List.nil_suffix
  · split
    · next rest skipped =>
      rw [skipped] at left
      exact left
    · exact List.nil_suffix

theorem leavesSuffix_nextField : LeavesSuffix nextField := by
  intro input
  have ahead := leavesSuffix_peekTag input
  unfold nextField
  simp only
  split
  · exact List.nil_suffix
  · split
    · next e rest peeked =>
      rw [peeked] at ahead
      exact ahead
    · next tag rest peeked =>
      rw [peeked] at ahead
      have left := leavesSuffix_field rest
      split
      · split
        · next read =>
          rw [read] at left
          exact left.trans ahead
        · next read =>
          rw [read] at left
          exact left.trans ahead
      · exact ahead

theorem Access.leavesSuffix (call : Access) : LeavesSuffix call.read := by
  cases call with
  | peekTag => exact leavesSuffix_bind leavesSuffix_peekTag fun _ => leavesSuffix_pure none
  | skip => exact leavesSuffix_bind leavesSuffix_skip fun _ => leavesSuffix_pure none
  | nil => exact leavesSuffix_bind (leavesSuffix_expectTag .nil) fun _ => leavesSuffix_pure none
  | bool => exact leavesSuffix_bind leavesSuffix_bool fun _ => leavesSuffix_pure none
  | int => exact leavesSuffix_bind leavesSuffix_int fun _ => leavesSuffix_pure none
  | float => exact leavesSuffix_bind leavesSuffix_float fun _ => leavesSuffix_pure none
  | text => exact leavesSuffix_bind leavesSuffix_text fun _ => leavesSuffix_pure none
  | list => exact leavesSuffix_bind (leavesSuffix_body .list) fun _ => leavesSuffix_pure _
  | map => exact leavesSuffix_bind (leavesSuffix_body .map) fun _ => leavesSuffix_pure _
  | field => exact leavesSuffix_bind leavesSuffix_field fun _ => leavesSuffix_pure _
  | nextItem => exact leavesSuffix_nextItem
  | nextField => exact leavesSuffix_bind leavesSuffix_nextField fun _ => leavesSuffix_pure _

end Within

/-- What asking for the next item comes to: the body is at its end, it starts with a layout, or it
starts with something that cannot be skipped and is given up. -/
theorem nextItem_cases (input : Bytes) :
    (input = [] ∧ nextItem.run input = (.ok none, [])) ∨
      (∃ item rest, Layout item ∧ input = item ++ rest ∧
        nextItem.run input = (.ok (some item), rest)) ∨
      ∃ e, input ≠ [] ∧ (skip.run input).1 = .error e ∧ nextItem.run input = (.error e, []) := by
  cases input with
  | nil => exact .inl ⟨rfl, run_nextItem_nil⟩
  | cons b tail =>
    right
    have more : (b :: tail).isEmpty = false := rfl
    cases skipped : skip.run (b :: tail) with
    | mk outcome rest =>
      cases outcome with
      | error e =>
        refine .inr ⟨e, List.cons_ne_nil b tail, rfl, ?_⟩
        simp only [nextItem, more, Bool.false_eq_true, ↓reduceIte, skipped]
      | ok =>
        obtain ⟨item, layout, same⟩ := skip_eq_ok_iff.1 skipped
        refine .inl ⟨item, rest, layout, same, ?_⟩
        simp only [nextItem, more, Bool.false_eq_true, ↓reduceIte, skipped]
        rw [same, List.length_append, Nat.add_sub_cancel, List.take_left]

theorem payload_within {input rest : Bytes} {entry : String × Bytes}
    (done : field.run input = (.ok entry, rest)) :
    ∃ header, input = header ++ entry.2 ++ rest := by
  obtain ⟨-, rfl⟩ := eq_of_field done
  rw [fieldBytes, block, ← List.append_assoc]
  exact ⟨_, rfl⟩

/-- What is given out to be read on its own lies before what is left. -/
theorem Access.opened_within {call : Access} {input inner rest : Bytes}
    (done : call.read.run input = (.ok (some inner), rest)) :
    ∃ header, input = header ++ inner ++ rest := by
  cases call with
  | peekTag | skip | nil | bool | int | float | text =>
    obtain ⟨_, left, run, last⟩ := Read.run_bind_eq_ok.1 done
    cases last
  | list | map =>
    obtain ⟨body, left, run, last⟩ := Read.run_bind_eq_ok.1 done
    cases last
    exact ⟨_, (eq_of_body run).2⟩
  | field =>
    obtain ⟨entry, left, run, last⟩ := Read.run_bind_eq_ok.1 done
    cases last
    exact payload_within run
  | nextItem =>
    change Pack.nextItem.run input = _ at done
    rcases nextItem_cases input with ⟨-, other⟩ | ⟨item, left, -, same, found⟩ | ⟨e, -, -, other⟩
    · rw [done] at other
      cases other
    · rw [done] at found
      cases found
      exact ⟨[], same⟩
    · rw [done] at other
      cases other
  | nextField =>
    obtain ⟨given, left, run, last⟩ := Read.run_bind_eq_ok.1 done
    cases given with
    | none => cases last
    | some entry =>
      cases last
      exact payload_within (field_of_nextField run)

/-! ## The items of a body -/

/-- What the call for the next item gives when so many calls were made before it. -/
def nthItem : Nat → Bytes → Except Error (Option Bytes)
  | 0, body => (nextItem.run body).1
  | k + 1, body => nthItem k (nextItem.run body).2

/-- What is told of the contents of a body: every part, and the fault if there is one. -/
def Contents.told (contents : Contents Bytes) : List (Except Error (Option Bytes)) :=
  contents.parts.map (fun part => .ok (some part)) ++ contents.fault.toList.map .error

/-- The parts are whole items from the start of the body up to the first one that is malformed. -/
structure Contents.Splits (contents : Contents Bytes) (body : Bytes) : Prop where
  items : ∀ part ∈ contents.parts, skip.run part = (.ok (), [])
  sound : contents.fault = none → body = contents.parts.flatten
  faulty : ∀ e, contents.fault = some e → ∃ rest, body = contents.parts.flatten ++ rest ∧
    rest ≠ [] ∧ (skip.run rest).1 = .error e

theorem itemsOf_nil : itemsOf [] = { parts := [], fault := none } := by
  rw [itemsOf]
  rfl

theorem itemsOf_of_fault {body rest : Bytes} {e : Error}
    (failed : nextItem.run body = (.error e, rest)) :
    itemsOf body = { parts := [], fault := some e } := by
  rw [itemsOf]
  split
  · next none => rw [failed] at none; cases none
  · next other => rw [failed] at other; cases other; rfl
  · next other => rw [failed] at other; cases other

theorem Contents.Splits.cons {contents : Contents Bytes} {item rest : Bytes}
    (splits : contents.Splits rest) (layout : Layout item) :
    { contents with parts := item :: contents.parts : Contents Bytes }.Splits (item ++ rest) where
  items := by
    intro part present
    rcases List.mem_cons.1 present with rfl | later
    · simpa using layout.run_skip []
    · exact splits.items part later
  sound := by
    intro clean
    rw [List.flatten_cons, ← splits.sound clean]
  faulty := by
    intro e fault
    obtain ⟨tail, rfl, more, failed⟩ := splits.faulty e fault
    exact ⟨tail, by rw [List.flatten_cons, List.append_assoc], more, failed⟩

theorem splits_itemsOf (body : Bytes) : (itemsOf body).Splits body := by
  rcases nextItem_cases body with ⟨rfl, -⟩ | ⟨item, rest, layout, same, found⟩ |
    ⟨e, more, skipped, failed⟩
  · rw [itemsOf_nil]
    exact { items := nofun, sound := fun _ => rfl, faulty := nofun }
  · rw [itemsOf_of_nextItem found, same]
    exact (splits_itemsOf rest).cons layout
  · rw [itemsOf_of_fault failed]
    refine { items := nofun, sound := nofun, faulty := fun other same => ?_ }
    cases same
    exact ⟨body, rfl, more, skipped⟩
termination_by body.length
decreasing_by exact length_lt_of_nextItem found

/-- Asking again and again tells the contents of the body, one after the other, and nothing more
after that. -/
theorem nthItem_eq (k : Nat) (body : Bytes) :
    nthItem k body = (itemsOf body).told[k]?.getD (.ok none) := by
  induction k generalizing body with
  | zero =>
    rw [nthItem]
    rcases nextItem_cases body with ⟨rfl, found⟩ | ⟨item, rest, -, -, found⟩ | ⟨e, -, -, found⟩
    · rw [found, itemsOf_nil]
      rfl
    · rw [found, itemsOf_of_nextItem found]
      rfl
    · rw [found, itemsOf_of_fault found]
      rfl
  | succ k ih =>
    rw [nthItem, ih]
    rcases nextItem_cases body with ⟨rfl, found⟩ | ⟨item, rest, -, -, found⟩ | ⟨e, -, -, found⟩
    · rw [found, itemsOf_nil]
      rfl
    · rw [found, itemsOf_of_nextItem found]
      rfl
    · rw [found, itemsOf_nil, itemsOf_of_fault found]
      rfl

/-! ## One boundary for all -/

/-- For any bytes: where a read of some kind succeeds, skipping succeeds and leaves the same; every
call leaves an end of its input, and what it gives out to be read on its own lies right before that;
asking a list's body for its items gives them up to the first that is malformed, tells the fault
once and then nothing for ever; and a packed item is skipped exactly, with whatever is behind it,
while any part of it that is cut off ends too early. -/
theorem item_boundaries_agree :
    (∀ call ∈ Access.typed, ∀ input opened rest, call.read.run input = (.ok opened, rest) →
        skip.run input = (.ok (), rest)) ∧
      (∀ (call : Access) (input : Bytes), (call.read.run input).2 <:+ input ∧
        ∀ inner, (call.read.run input).1 = .ok (some inner) →
          ∃ header, input = header ++ inner ++ (call.read.run input).2) ∧
      (∀ body, (itemsOf body).Splits body ∧
        ∀ k, nthItem k body = (itemsOf body).told[k]?.getD (.ok none)) ∧
      ∀ (item : Item) (bytes : Bytes), item.encode = .ok bytes →
        (∀ rest, skip.run (bytes ++ rest) = (.ok (), rest)) ∧
          ∀ part, part <+: bytes → part ≠ bytes → (skip.run part).1 = .error .unexpectedEnd := by
  refine ⟨?_, ?_, ?_, ?_⟩
  · intro call kind input opened rest done
    exact skip_eq_ok_iff.2 (Access.exists_layout kind done)
  · intro call input
    refine ⟨call.leavesSuffix input, fun inner opened => ?_⟩
    exact Access.opened_within (Prod.ext opened rfl)
  · intro body
    exact ⟨splits_itemsOf body, fun k => nthItem_eq k body⟩
  · intro item bytes encoded
    obtain ⟨fits, rfl⟩ := Item.encode_eq_ok_iff.1 encoded
    have layout := Item.layout fits
    exact ⟨layout.run_skip, fun part => layout.run_skip_part⟩

/-- A number, and a text that breaks off after its first letter. -/
def brokenOff : Bytes :=
  (Item.int 7).bytes ++ (Item.text "ab").bytes.take 6

theorem item_boundaries_agree_brokenOff :
    Access.int.read.run brokenOff = (.ok none, (Item.text "ab").bytes.take 6) ∧
      skip.run brokenOff = (.ok (), (Item.text "ab").bytes.take 6) ∧
      (skip.run ((Item.text "ab").bytes.take 6)).1 = .error .unexpectedEnd := by
  have read : Access.int.read.run brokenOff = (.ok none, (Item.text "ab").bytes.take 6) := by rfl
  have encoded : (Item.text "ab").encode = .ok (Item.text "ab").bytes := by rfl
  obtain ⟨skipped, -, -, items⟩ := item_boundaries_agree
  refine ⟨read, skipped .int (by decide) _ _ _ read, ?_⟩
  exact (items _ _ encoded).2 _ (List.take_prefix 6 _) (by decide)

end Inspector.Pack
