import Inspector.Proofs.Pack.BuiltItems
import Inspector.Proofs.Pack.Trees

/-!
# Calls in any order

Whatever calls are made on a fresh writer, those that succeed build the items of the bytes, as long
as every length fits (`calls_build_tree`). Calls that fail count for nothing.

The invariant is `Traced`: the calls that succeeded fall into what was built before each scope that
is still open and what was built inside it, and the writer holds just that.
-/

namespace Inspector.Pack

/-! ## Single calls -/

/-- A call writes a whole item, begins a container, or ends one. -/
theorem Call.kinds (call : Call) : (∃ item, call.item? = some item) ∨
    (∃ opening : Opening, call = opening.begins) ∨ ∃ opening : Opening, call = opening.ends := by
  cases call with
  | listBegin => exact .inr (.inl ⟨.list, rfl⟩)
  | mapBegin => exact .inr (.inl ⟨.map, rfl⟩)
  | fieldBegin name => exact .inr (.inl ⟨.field name, rfl⟩)
  | listEnd => exact .inr (.inr ⟨.list, rfl⟩)
  | mapEnd => exact .inr (.inr ⟨.map, rfl⟩)
  | fieldEnd => exact .inr (.inr ⟨.field "", rfl⟩)
  | _ => exact .inl ⟨_, rfl⟩

/-- The call failed on a length, or failed and left the writer as it was. -/
def Written.Spares (written : Written) (w : Writer) : Prop :=
  written.TooLarge ∨ ∃ e, written = (.error e, w)

namespace Writer

variable {w after : Writer}

theorem spares_andThen {first : Written} (next : Writer → Written) (failed : first.Spares w) :
    (andThen first next).Spares w := by
  rcases failed with large | ⟨e, rfl⟩
  · exact .inl (tooLarge_andThen next large)
  · exact .inr ⟨e, rfl⟩

theorem spares_scalar {tag : Tag} {e : Error} (refused : w.check tag = .error e) (item : Bytes) :
    (w.scalar tag item).Spares w := by
  rw [scalar, refused]
  exact .inr ⟨e, rfl⟩

theorem spares_text {e : Error} (refused : w.check .text = .error e) (value : String) :
    (w.text value).Spares w := by
  rw [text]
  split
  · exact .inr ⟨_, rfl⟩
  · exact spares_scalar refused _

theorem spares_openScope {tag : Tag} {e : Error} (refused : w.check tag = .error e)
    (scope : Scope) : (w.openScope tag scope).Spares w := by
  rw [openScope, refused]
  exact .inr ⟨e, rfl⟩

theorem spares_fieldBegin {e : Error} (refused : w.check .field = .error e) (name : String) :
    (w.fieldBegin name).Spares w :=
  spares_andThen _ (spares_andThen _ (spares_openScope refused .field))

/-- An item that is not allowed where the writer stands is not begun. -/
theorem spares_item {item : Item} {e : Error} (refused : w.check item.tag = .error e) :
    (w.item item).Spares w := by
  cases item with
  | nil => exact spares_scalar refused _
  | bool value => exact spares_scalar refused _
  | int value => exact spares_scalar refused _
  | float bits => exact spares_scalar refused _
  | text value => exact spares_text refused value
  | list items =>
    rw [Writer.item]
    exact spares_andThen _ (spares_andThen _ (spares_openScope refused .list))
  | map fields =>
    rw [Writer.item]
    exact spares_andThen _ (spares_andThen _ (spares_openScope refused .map))
  | field name payload =>
    rw [Writer.item]
    exact spares_andThen _ (spares_andThen _ (spares_fieldBegin refused name))

theorem run_of_item? {call : Call} {item : Item} (whole : call.item? = some item) (w : Writer) :
    w.run call = w.item item := by
  cases call <;> cases whole <;> simp only [run, Writer.item] <;> rfl

/-- Beginning a container where it is allowed. -/
theorem run_begins_outcome {opening : Opening} (allowed : w.check opening.tag = .ok ()) :
    (w.run opening.begins).Gives ((w.inside opening.scope).extend opening.header 0)
      (opening.header.length ≤ maxLength + 5) := by
  cases opening with
  | list => exact .inl ⟨openScope_of_check allowed .list, Nat.zero_le _⟩
  | map => exact .inl ⟨openScope_of_check allowed .map, Nat.zero_le _⟩
  | field name => exact fieldBegin_outcome allowed name

theorem spares_begins {opening : Opening} {e : Error}
    (refused : w.check opening.tag = .error e) : (w.run opening.begins).Spares w := by
  cases opening with
  | list => exact spares_openScope refused .list
  | map => exact spares_openScope refused .map
  | field name => exact spares_fieldBegin refused name

theorem run_ends (w : Writer) (opening : Opening) :
    w.run opening.ends = w.closeScope opening.tag opening.scope := by
  cases opening <;> rfl

/-- A scope may be closed, or the writer refuses to and stays as it is. -/
theorem closeScope_ready_or_refused (w : Writer) (tag : Tag) (expected : Scope) :
    (∃ e, (∀ length, e ≠ .blobTooLarge length) ∧ w.closeScope tag expected = (.error e, w)) ∨
      ∃ parent outer, w.outer = parent :: outer ∧ w.top.scope = expected ∧
        ¬ (w.top.scope = .field ∧ w.top.count = 0) := by
  rw [closeScope]
  split
  · exact .inl ⟨.scopeUnderflow, by simp, rfl⟩
  · next parent outer around =>
    split
    · exact .inl ⟨.scopeMismatch expected w.top.scope, by simp, rfl⟩
    · next same =>
      split
      · exact .inl ⟨.emptyField, by simp, rfl⟩
      · next ready => exact .inr ⟨parent, outer, around, Decidable.not_not.1 same, ready⟩

/-- Closing a scope puts its block into the parent, or fails. -/
theorem closeScope_cases (w : Writer) (tag : Tag) (expected : Scope) :
    (w.closeScope tag expected).Spares w ∨
      ∃ parent outer, w.outer = parent :: outer ∧ w.top.scope = expected ∧
        ¬ (w.top.scope = .field ∧ w.top.count = 0) ∧ w.top.body.length ≤ maxLength ∧
        w.closeScope tag expected =
          (.ok (), ({ top := parent, outer } : Writer).extend (block tag w.top.body) 1) := by
  rcases w.closeScope_ready_or_refused tag expected with ⟨e, -, refused⟩ |
    ⟨parent, outer, around, same, ready⟩
  · exact .inl (.inr ⟨e, refused⟩)
  · have closed := closeScope_of_ready around same ready tag
    by_cases fits : w.top.body.length ≤ maxLength
    · rw [if_pos fits] at closed
      exact .inr ⟨parent, outer, around, same, ready, fits, closed⟩
    · rw [if_neg fits] at closed
      exact .inl (.inl ⟨_, _, closed, Nat.not_le.1 fits⟩)

end Writer

/-! ## Calls one after the other -/

/-- Calls that succeeded, and the writer that they led to: what was built outside of all
containers, and inside each container that was begun and not ended. -/
inductive Traced : List Call → Writer → Prop
  | root {calls : List Call} {items : List Item} :
      Builds calls items → (∀ item ∈ items, item.Fits) →
      Traced calls (Writer.empty.extend (Item.bytesOfItems items) items.length)
  | inside {before calls : List Call} {w : Writer} {opening : Opening} {members : List Item} :
      Traced before w → w.check opening.tag = .ok () →
      Builds calls members → (∀ member ∈ members, member.Fits) → opening.Admits members →
      Traced (before ++ opening.begins :: calls)
        ((w.inside opening.scope).extend (opening.header ++ Item.bytesOfItems members)
          members.length)

theorem Item.bytesOfItems_concat (items : List Item) (item : Item) :
    bytesOfItems (items ++ [item]) = bytesOfItems items ++ item.bytes := by
  induction items with
  | nil => simp [bytesOfItems]
  | cons first rest ih => rw [List.cons_append, bytesOfItems, bytesOfItems, ih, List.append_assoc]

namespace Writer

theorem tag_of_check_map {w : Writer} {tag : Tag} {body : Bytes} {count : Nat}
    (allowed : ((w.inside .map).extend body count).check tag = .ok ()) : tag = .field := by
  simp only [check, inside, extend] at allowed
  split at allowed
  · assumption
  · cases allowed

theorem count_of_check_field {w : Writer} {tag : Tag} {body : Bytes} {count : Nat}
    (allowed : ((w.inside .field).extend body count).check tag = .ok ()) : count = 0 := by
  simp only [check, inside, extend, Nat.zero_add] at allowed
  split at allowed
  · assumption
  · cases allowed

end Writer

namespace Traced

open Writer

variable {done : List Call} {w : Writer}

/-- What the writer allows is what the innermost container admits. -/
theorem admits_concat {w : Writer} {opening : Opening} {members : List Item} {item : Item}
    {body : Bytes} (admitted : opening.Admits members)
    (allowed : ((w.inside opening.scope).extend body members.length).check item.tag = .ok ()) :
    opening.Admits (members ++ [item]) := by
  cases opening with
  | list => trivial
  | map =>
    intro member present
    rcases List.mem_append.1 present with old | new
    · exact admitted member old
    · obtain rfl := List.mem_singleton.1 new
      exact tag_of_check_map allowed
  | field name =>
    have empty := count_of_check_field allowed
    simp [Opening.Admits, List.length_eq_zero_iff.1 empty]

/-- One item more, written by one call or by many. -/
theorem add {item : Item} {calls : List Call} (traced : Traced done w)
    (allowed : w.check item.tag = .ok ()) (fits : item.Fits) (built : Builds calls [item]) :
    Traced (done ++ calls) (w.extend item.bytes 1) := by
  have both {items : List Item} (fit : ∀ item ∈ items, item.Fits) :
      ∀ other ∈ items ++ [item], other.Fits := by
    intro other present
    rcases List.mem_append.1 present with old | new
    · exact fit other old
    · exact List.mem_singleton.1 new ▸ fits
  cases traced with
  | @root _ items outside fit =>
    have next := Traced.root (outside.append built) (both fit)
    rwa [Item.bytesOfItems_concat, List.length_append, List.length_singleton,
      ← extend_extend] at next
  | @inside before calls' w opening members traced begun inside fit admitted =>
    have next := Traced.inside traced begun (inside.append built) (both fit)
      (admits_concat admitted allowed)
    rwa [Item.bytesOfItems_concat, List.length_append, List.length_singleton,
      ← List.append_assoc, ← extend_extend, ← List.cons_append, ← List.append_assoc] at next

/-- A call succeeds and builds on, or it fails on a length, or it fails and changes nothing. -/
theorem run_cases (traced : Traced done w) (call : Call) :
    (w.run call).Spares w ∨
      ∃ after, w.run call = (.ok (), after) ∧ Traced (done ++ [call]) after := by
  rcases call.kinds with ⟨item, whole⟩ | ⟨opening, rfl⟩ | ⟨opening, rfl⟩
  · rw [run_of_item? whole]
    cases allowed : w.check item.tag with
    | error e => exact .inl (spares_item allowed)
    | ok =>
      rcases item_outcome w item allowed with ⟨written, fits⟩ | ⟨large, -⟩
      · exact .inr ⟨_, written, traced.add allowed fits (.single .nothing whole)⟩
      · exact .inl (.inl large)
  · cases allowed : w.check opening.tag with
    | error e => exact .inl (spares_begins allowed)
    | ok =>
      rcases run_begins_outcome allowed with ⟨begun, -⟩ | ⟨large, -⟩
      · refine .inr ⟨_, begun, ?_⟩
        have next := Traced.inside traced allowed .nothing nofun opening.admits_nil
        rwa [Item.bytesOfItems, List.append_nil] at next
      · exact .inl (.inl large)
  · rw [run_ends]
    rcases w.closeScope_cases opening.tag opening.scope with spared | closed
    · exact .inl spared
    · right
      obtain ⟨parent, outer, around, same, ready, fits, closed⟩ := closed
      refine ⟨_, closed, ?_⟩
      cases traced with
      | root outside fit => cases around
      | @inside before calls w begun members traced allowed inside fit admitted =>
        cases around
        have like : opening.tag = begun.tag ∧ opening.ends = begun.ends :=
          Opening.like_of_scope same
        have full : ¬ (begun.scope = .field ∧ members.length = 0) := by
          simpa [Writer.inside, extend] using ready
        obtain ⟨item, filled⟩ := Opening.filled?_of_admits admitted full
        have built : Builds (begun.begins :: (calls ++ [begun.ends])) [item] :=
          .container .nothing inside filled
        have packed := Opening.bytes_of_filled? filled
        have fits : item.Fits := by
          rw [Item.Fits, packed, length_block]
          exact Nat.add_le_add_right fits 5
        have next := traced.add (Opening.tag_of_filled? filled ▸ allowed) fits built
        rw [packed] at next
        rw [like.1, like.2, List.append_assoc, List.cons_append]
        exact next

end Traced

/-- The calls that succeeded, given the outcome of each. -/
def successes (calls : List Call) (outcomes : List (Except Error Unit)) : List Call :=
  ((calls.zip outcomes).filter fun entry => entry.2.isOk).map Prod.fst

theorem Traced.runAll {done : List Call} {w : Writer} (traced : Traced done w) (calls : List Call)
    (small : ∀ length, .error (.blobTooLarge length) ∉ (w.runAll calls).1) :
    Traced (done ++ successes calls (w.runAll calls).1) (w.runAll calls).2 := by
  induction calls generalizing done w with
  | nil => simpa [Writer.runAll, successes] using traced
  | cons call rest ih =>
    rcases traced.run_cases call with
      (⟨length, after, refused, -⟩ | ⟨e, failed⟩) | ⟨after, ran, next⟩
    · refine absurd ?_ (small length)
      simp [Writer.runAll, refused]
    · have later := ih traced fun length present => small length (by
        simp [Writer.runAll, failed, present])
      simpa [Writer.runAll, failed, successes, Except.isOk, Except.toBool] using later
    · have later := ih next fun length present => small length (by
        simp [Writer.runAll, ran, present])
      simpa [Writer.runAll, ran, successes, Except.isOk, Except.toBool] using later

theorem Call.ended_le_begun_of_traced {calls : List Call} {w : Writer} (traced : Traced calls w)
    (scope : Scope) : ended scope calls ≤ begun scope calls := by
  induction traced with
  | root built _ => exact Nat.le_of_eq (begun_eq_ended_of_builds built scope).symm
  | @inside before calls w opening members _ _ built _ _ ih =>
    rw [begun_append_begins, ended_append_begins, begun_eq_ended_of_builds built scope]
    omega

/-- A writer gives its bytes when all that was begun is ended, and only then. -/
theorem Traced.bytes_iff {calls : List Call} {w : Writer} (traced : Traced calls w) :
    (∃ bytes, w.bytes = .ok bytes) ↔ ∀ scope, Call.begun scope calls = Call.ended scope calls := by
  cases traced with
  | root built _ =>
    exact ⟨fun _ => Call.begun_eq_ended_of_builds built, fun _ => ⟨_, rfl⟩⟩
  | @inside before calls w opening members traced _ built _ _ =>
    constructor
    · rintro ⟨bytes, finished⟩
      cases finished
    · intro all
      have here := all opening.scope
      have less := Call.ended_le_begun_of_traced traced opening.scope
      rw [Call.begun_append_begins, Call.ended_append_begins, if_pos rfl,
        Call.begun_eq_ended_of_builds built] at here
      omega

/-! ## Any calls -/

/-- For any calls on a fresh writer of which none fails on a length: the bytes can be had exactly
when as many containers of each kind were ended as begun, by the calls that succeeded. These build
one sequence of items, the bytes are its packed form, and a full read gives it back to the last
byte. -/
theorem calls_build_tree (calls : List Call)
    (small : ∀ length, .error (.blobTooLarge length) ∉ (Writer.empty.runAll calls).1) :
    let done := successes calls (Writer.empty.runAll calls).1
    let w := (Writer.empty.runAll calls).2
    ((∃ bytes, w.bytes = .ok bytes) ↔ ∀ scope, Call.begun scope done = Call.ended scope done) ∧
      ∀ bytes, w.bytes = .ok bytes → ∃ items,
        (∀ built, Builds done built ↔ built = items) ∧
          bytes = Item.bytesOfItems items ∧ readSequence bytes = some items := by
  intro done w
  have traced : Traced done w := by
    have start := Traced.root .nothing (nofun : ∀ item ∈ [], Item.Fits item)
    exact start.runAll calls small
  refine ⟨traced.bytes_iff, fun bytes finished => ?_⟩
  generalize done = done, w = w at traced finished
  cases traced with
  | @root _ items built fit =>
    cases finished
    refine ⟨items, fun other => ⟨fun also => built.unique also, fun same => same ▸ built⟩, ?_⟩
    exact ⟨rfl, readSequence_bytesOfItems fit⟩
  | inside => cases finished

/-- Calls of which half are refused: they do not count. -/
def grudging : List Call :=
  [.mapBegin, .int 1, .fieldBegin "a", .fieldEnd, .listBegin, .int 7, .mapEnd, .listEnd, .nil,
    .fieldEnd, .fieldInt "b" 2, .mapEnd, .listEnd, .text "c"]

theorem calls_build_tree_grudging :
    (∀ length, .error (.blobTooLarge length) ∉ (Writer.empty.runAll grudging).1) ∧
      ∃ bytes, (Writer.empty.runAll grudging).2.bytes = .ok bytes ∧
        readSequence bytes =
          some [.map [("a", .list [.int 7]), ("b", .int 2)], .text "c"] := by
  have outcomes : (Writer.empty.runAll grudging).1 =
      [.ok (), .error .invalidMapEntry, .ok (), .error .emptyField, .ok (), .ok (),
        .error (.scopeMismatch .map .list), .ok (), .error .tooManyItems, .ok (), .ok (), .ok (),
        .error .scopeUnderflow, .ok ()] := by rfl
  have small : ∀ length, .error (.blobTooLarge length) ∉ (Writer.empty.runAll grudging).1 := by
    intro length
    simp [outcomes]
  have finished : ∃ bytes, (Writer.empty.runAll grudging).2.bytes = .ok bytes := ⟨_, rfl⟩
  obtain ⟨bytes, given⟩ := finished
  obtain ⟨items, only, -, read⟩ := (calls_build_tree grudging small).2 bytes given
  -- the tree, from the inside out
  have seven : Builds [.int 7] [.int 7] := @Builds.single [] [] _ _ .nothing rfl
  have list : Builds [.listBegin, .int 7, .listEnd] [.list [.int 7]] :=
    @Builds.container [] _ [] _ .list _ .nothing seven rfl
  have first : Builds [.fieldBegin "a", .listBegin, .int 7, .listEnd, .fieldEnd]
      [.field "a" (.list [.int 7])] :=
    @Builds.container [] _ [] _ (.field "a") _ .nothing list rfl
  have map : Builds [.mapBegin, .fieldBegin "a", .listBegin, .int 7, .listEnd, .fieldEnd,
      .fieldInt "b" 2, .mapEnd] [.map [("a", .list [.int 7]), ("b", .int 2)]] :=
    @Builds.container [] _ [] _ .map _ .nothing (first.single rfl) rfl
  have done : successes grudging (Writer.empty.runAll grudging).1 =
      [.mapBegin, .fieldBegin "a", .listBegin, .int 7, .listEnd, .fieldEnd, .fieldInt "b" 2,
        .mapEnd, .text "c"] := by
    rw [outcomes]
    rfl
  have all : Builds (successes grudging (Writer.empty.runAll grudging).1)
      [.map [("a", .list [.int 7]), ("b", .int 2)], .text "c"] := by
    rw [done]
    exact @Builds.single _ _ (.text "c") _ map rfl
  obtain rfl := (only _).1 all
  exact ⟨small, bytes, given, read⟩

end Inspector.Pack
