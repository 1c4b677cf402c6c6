import Inspector.Pack.Error
import Inspector.Text.Utf8

/-!
# Reading packed data

A read takes bytes off the front of its input and says what is left, also when it fails: a failed
read may have taken the tag or the length already. A container is entered by taking its whole
body, which is then read on its own.
-/

namespace Inspector.Pack

/-- A read: its outcome, and what it leaves of the input. -/
structure Read (α : Type) where
  run : Bytes → Except Error α × Bytes

namespace Read

def fail (e : Error) : Read α :=
  ⟨fun input => (.error e, input)⟩

instance : Monad Read where
  pure a := ⟨fun input => (.ok a, input)⟩
  bind read next := ⟨fun input =>
    match read.run input with
    | (.ok a, rest) => (next a).run rest
    | (.error e, rest) => (.error e, rest)⟩

@[simp] theorem run_pure (a : α) (input : Bytes) :
    (pure a : Read α).run input = (.ok a, input) := rfl

@[simp] theorem run_fail (e : Error) (input : Bytes) :
    (fail e : Read α).run input = (.error e, input) := rfl

@[simp] theorem run_bind (read : Read α) (next : α → Read β) (input : Bytes) :
    (read >>= next).run input =
      match read.run input with
      | (.ok a, rest) => (next a).run rest
      | (.error e, rest) => (.error e, rest) := rfl

/-- The read leaves an end of its input, whether it succeeds or not. -/
def LeavesSuffix (read : Read α) : Prop :=
  ∀ input, (read.run input).2 <:+ input

theorem leavesSuffix_pure (a : α) : LeavesSuffix (pure a : Read α) :=
  fun input => List.suffix_refl input

theorem leavesSuffix_fail (e : Error) : LeavesSuffix (fail e : Read α) :=
  fun input => List.suffix_refl input

theorem leavesSuffix_bind {read : Read α} {next : α → Read β} (first : LeavesSuffix read)
    (second : ∀ a, LeavesSuffix (next a)) : LeavesSuffix (read >>= next) := by
  intro input
  have taken := first input
  rw [run_bind]
  split
  · next a rest same =>
    rw [same] at taken
    exact (second a rest).trans taken
  · next e rest same =>
    rw [same] at taken
    exact taken

end Read

/-! ## Single items -/

/-- The tag of the next item, which stays in the input. -/
def peekTag : Read Tag where
  run
    | [] => (.error .unexpectedEnd, [])
    | b :: rest =>
      match Tag.ofByte? b with
      | some tag => (.ok tag, b :: rest)
      | none => (.error (.invalidTag b), b :: rest)

/-- The next `n` bytes, all of them or none. -/
def take (n : Nat) : Read Bytes where
  run input :=
    if n ≤ input.length then (.ok (input.take n), input.drop n)
    else (.error .unexpectedEnd, input)

def takeLength : Read Nat := do
  return Bytes.toNatLE (← take 4)

def takeWord : Read UInt64 := do
  return UInt64.ofNat (Bytes.toNatLE (← take 8))

/-- Takes a tag that has to be the given one; any other stays in the input. -/
def expectTag (expected : Tag) : Read Unit := do
  let tag ← peekTag
  if tag = expected then
    let _ ← take 1
    return ()
  else Read.fail (.invalidTag tag.byte)

/-- Takes the next item with everything inside it. -/
def skip : Read Unit := do
  let tag ← peekTag
  let _ ← take 1
  match tag with
  | .nil | .yes | .no => return ()
  | .int | .float =>
    let _ ← take 8
    return ()
  | .text | .list | .map | .field =>
    let length ← takeLength
    let _ ← take length
    return ()

def nil : Read Unit :=
  expectTag .nil

def bool : Read Bool := do
  match ← peekTag with
  | .yes =>
    let _ ← take 1
    return true
  | .no =>
    let _ ← take 1
    return false
  | other => Read.fail (.invalidTag other.byte)

def int : Read Int64 := do
  expectTag .int
  return (← takeWord).toInt64

def float : Read UInt64 := do
  expectTag .float
  takeWord

/-- The body of an item that carries its length. -/
def body (tag : Tag) : Read Bytes := do
  expectTag tag
  let length ← takeLength
  take length

def text : Read String := do
  match Text.decode? (← body .text) with
  | some value => return value
  | none => Read.fail .invalidUtf8

def list : Read Bytes :=
  body .list

def map : Read Bytes :=
  body .map

/-- The name of a field and what follows it in the field's body. -/
def field : Read (String × Bytes) := do
  let inner ← body .field
  match text.run inner with
  | (.ok name, payload) => return (name, payload)
  | (.error e, _) => Read.fail e

/-! ## Containers -/

/-- The bytes of the next item of a list body. A malformed item is reported once, and nothing is
left after it. -/
def nextItem : Read (Option Bytes) where
  run input :=
    if input.isEmpty then (.ok none, [])
    else
      match skip.run input with
      | (.ok (), rest) => (.ok (some (input.take (input.length - rest.length))), rest)
      | (.error e, _) => (.error e, [])

/-- The next field of a map body, which has to be a field. -/
def nextField : Read (Option (String × Bytes)) where
  run input :=
    if input.isEmpty then (.ok none, [])
    else
      match peekTag.run input with
      | (.error e, rest) => (.error e, rest)
      | (.ok tag, rest) =>
        if tag = .field then
          match field.run rest with
          | (.ok entry, after) => (.ok (some entry), after)
          | (.error e, after) => (.error e, after)
        else (.error (.invalidTag tag.byte), rest)

/-! ## What reads leave -/

section Within

open Read

theorem leavesSuffix_peekTag : LeavesSuffix peekTag := by
  intro input
  cases input with
  | nil => exact List.suffix_refl []
  | cons b rest =>
    simp only [peekTag]
    split <;> exact List.suffix_refl (b :: rest)

theorem leavesSuffix_take (n : Nat) : LeavesSuffix (take n) := by
  intro input
  simp only [take]
  split
  · exact List.drop_suffix n input
  · exact List.suffix_refl input

theorem leavesSuffix_takeLength : LeavesSuffix takeLength :=
  leavesSuffix_bind (leavesSuffix_take 4) fun _ => leavesSuffix_pure _

theorem leavesSuffix_expectTag (expected : Tag) : LeavesSuffix (expectTag expected) := by
  refine leavesSuffix_bind leavesSuffix_peekTag fun tag => ?_
  split
  · exact leavesSuffix_bind (leavesSuffix_take 1) fun _ => leavesSuffix_pure _
  · exact leavesSuffix_fail _

theorem leavesSuffix_body (tag : Tag) : LeavesSuffix (body tag) :=
  leavesSuffix_bind (leavesSuffix_expectTag tag) fun _ =>
    leavesSuffix_bind leavesSuffix_takeLength leavesSuffix_take

/-- What follows an expected tag is shorter than the input. -/
theorem length_lt_of_expectTag {expected : Tag} {input rest : Bytes}
    (done : (expectTag expected).run input = (.ok (), rest)) : rest.length < input.length := by
  cases input with
  | nil => simp [expectTag, peekTag] at done
  | cons b tail =>
    cases tagged : Tag.ofByte? b with
    | none => simp [expectTag, peekTag, tagged] at done
    | some tag =>
      by_cases same : tag = expected
      · simp [expectTag, peekTag, tagged, same, take] at done
        simp [← done]
      · simp [expectTag, peekTag, tagged, same] at done

/-- What follows an item is shorter than the input. -/
theorem length_lt_of_skip {input rest : Bytes} (done : skip.run input = (.ok (), rest)) :
    rest.length < input.length := by
  cases input with
  | nil => simp [skip, peekTag] at done
  | cons b tail =>
    cases tagged : Tag.ofByte? b with
    | none => simp [skip, peekTag, tagged] at done
    | some tag =>
      have taken : (take 1).run (b :: tail) = (.ok [b], tail) := by simp [take]
      have within : rest <:+ tail := by
        cases tag <;> simp only [skip, run_bind, peekTag, tagged, taken] at done
        case nil | yes | no => simp at done; simp [done]
        case int | float =>
          have left := leavesSuffix_bind (leavesSuffix_take 8)
            (fun _ => leavesSuffix_pure ()) tail
          rw [run_bind, done] at left
          exact left
        case text | list | map | field =>
          have left := leavesSuffix_bind leavesSuffix_takeLength (fun length =>
            leavesSuffix_bind (leavesSuffix_take length)
              (fun _ => leavesSuffix_pure ())) tail
          simp only [run_bind] at left
          rw [done] at left
          exact left
      have short := within.length_le
      simp only [List.length_cons]
      omega

/-- What follows a field is shorter than the input. -/
theorem length_lt_of_field {input rest : Bytes} {entry : String × Bytes}
    (done : field.run input = (.ok entry, rest)) : rest.length < input.length := by
  cases tagged : (expectTag .field).run input with
  | mk outcome left =>
    cases outcome with
    | error e => simp [field, body, tagged] at done
    | ok =>
      have shorter := length_lt_of_expectTag tagged
      have within := leavesSuffix_bind leavesSuffix_takeLength leavesSuffix_take left
      rw [run_bind] at within
      simp only [field, body, run_bind, tagged] at done
      split at done
      · next inner after entered =>
        rw [entered] at within
        split at done
        · simp at done
          have short := within.length_le
          rw [← done.2]
          simp only at short
          omega
        · simp at done
      · simp at done

theorem length_lt_of_nextItem {input rest item : Bytes}
    (found : nextItem.run input = (.ok (some item), rest)) : rest.length < input.length := by
  unfold nextItem at found
  simp only at found
  split at found
  · simp at found
  · split at found
    · next left skipped =>
      simp at found
      exact found.2 ▸ length_lt_of_skip skipped
    · simp at found

theorem length_lt_of_nextField {input rest : Bytes} {entry : String × Bytes}
    (found : nextField.run input = (.ok (some entry), rest)) : rest.length < input.length := by
  unfold nextField at found
  simp only at found
  split at found
  · simp at found
  · have same := (leavesSuffix_peekTag input).length_le
    split at found
    · simp at found
    · next tag left peeked =>
      rw [peeked] at same
      split at found
      · split at found
        · next entry' after read =>
          simp at found
          have shorter := length_lt_of_field read
          rw [← found.2]
          simp only at same
          omega
        · simp at found
      · simp at found

end Within

/-! ## Whole bodies -/

/-- What a container's body holds up to its first fault, and that fault. -/
structure Contents (α : Type) where
  parts : List α
  fault : Option Error
deriving DecidableEq, Repr

def itemsOf (input : Bytes) : Contents Bytes :=
  match _found : nextItem.run input with
  | (.ok none, _) => { parts := [], fault := none }
  | (.error e, _) => { parts := [], fault := some e }
  | (.ok (some item), rest) =>
    let others := itemsOf rest
    { others with parts := item :: others.parts }
termination_by input.length
decreasing_by exact length_lt_of_nextItem _found

/-- The fields of a map body, each with the bytes after its name. -/
def fieldsOf (input : Bytes) : Contents (String × Bytes) :=
  match _found : nextField.run input with
  | (.ok none, _) => { parts := [], fault := none }
  | (.error e, _) => { parts := [], fault := some e }
  | (.ok (some entry), rest) =>
    let others := fieldsOf rest
    { others with parts := entry :: others.parts }
termination_by input.length
decreasing_by exact length_lt_of_nextField _found

/-- Takes the parts in order, and then the fault: whatever fails first is the outcome. -/
def Contents.fold (contents : Contents α) (report : Error → ε) (step : σ → α → Except ε σ)
    (start : σ) : Except ε σ := do
  let final ← contents.parts.foldlM step start
  match contents.fault with
  | none => return final
  | some e => throw (report e)

end Inspector.Pack
