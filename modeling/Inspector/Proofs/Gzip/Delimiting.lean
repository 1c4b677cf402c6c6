import Inspector.Proofs.Gzip.RoundTrip

/-!
# Frames say where they end

A reading of the first part of an input compares with the reading of the whole (`Persists`): what
was read stays, and so does a failure; only a reading that came to the end of its input may turn out
otherwise. This holds of every reading there is, whatever the codes of the blocks and whatever the
input (`persists_readMember`), since each looks at its input from the front and is bounded by its
length only. So a member that is cut off anywhere can fail in no other way than by its end, and
nothing that stands behind it makes a difference (`members_delimited`).
-/

namespace Inspector.Gzip

/-! ## Readings of longer input -/

/-- How the outcome on some input compares with the outcome on the same input with more behind it:
`grow` puts more behind what is left of the input. -/
inductive Persists {α : Type} (grow : α → α) : Except Error α → Except Error α → Prop
  /-- A reading that came to the end of its input may turn out in any way. -/
  | ended (later : Except Error α) : Persists grow (.error .unexpectedEnd) later
  | failed : Persists grow (.error .invalid) (.error .invalid)
  | read (a : α) : Persists grow (.ok a) (.ok (grow a))

theorem Persists.error {α : Type} (grow : α → α) (e : Error) :
    Persists grow (.error e) (.error e) := by
  cases e with
  | unexpectedEnd => exact .ended _
  | invalid => exact .failed

theorem Persists.bind {α β : Type} {grow : α → α} {growNext : β → β} {first later : Except Error α}
    {next after : α → Except Error β} (persists : Persists grow first later)
    (each : ∀ a, Persists growNext (next a) (after (grow a))) :
    Persists growNext (first >>= next) (later >>= after) := by
  cases persists with
  | ended => exact .ended _
  | failed => exact .failed
  | read a => exact each a

theorem Persists.ite {α : Type} {grow : α → α} {condition : Prop} [Decidable condition]
    {first later other otherLater : Except Error α} (holds : Persists grow first later)
    (fails : Persists grow other otherLater) :
    Persists grow (if condition then first else other)
      (if condition then later else otherLater) := by
  split
  · exact holds
  · exact fails

/-- More bytes behind those that follow a part of the input. -/
abbrev followedBy (more : Bytes) : Bytes × Bytes → Bytes × Bytes :=
  Prod.map id (· ++ more)

theorem persists_splitBytes (input more : Bytes) (n : Nat) :
    Persists (followedBy more) (splitBytes n input) (splitBytes n (input ++ more)) := by
  by_cases enough : n ≤ input.length
  · rw [splitBytes, if_pos enough, splitBytes, if_pos (by rw [List.length_append]; omega),
      List.take_append_of_le_length enough, List.drop_append_of_le_length enough]
    exact .read (_, _)
  · rw [splitBytes, if_neg enough]
    exact .ended _

/-- More bytes behind those that are left. -/
def Source.before (more : Bytes) (source : Source) : Source :=
  { source with bytes := source.bytes ++ more }

theorem Source.size_le_before (more : Bytes) (source : Source) :
    source.size ≤ (source.before more).size := by
  simp only [Source.size, Source.before, List.length_append]
  omega

namespace Scan

variable {α β : Type}

/-- The second reading goes on where the first came to the end of its input. -/
structure Extends (first later : Scan α) : Prop where
  persists : ∀ source more, Persists (Prod.map id (Source.before more)) (first.run source)
    (later.run (source.before more))

/-- A reading of more input goes on where that of less came to its end. -/
abbrev Steady (reader : Scan α) : Prop :=
  Extends reader reader

theorem steady_pure (a : α) : Steady (pure a) :=
  ⟨fun source _ => .read (a, source)⟩

theorem steady_throw (e : Error) : Steady (throw e : Scan α) :=
  ⟨fun _ _ => .error _ e⟩

/-- What gives up as at its end is extended by any other reading. -/
theorem extends_of_ended (later : Scan α) : Extends (throw .unexpectedEnd) later :=
  ⟨fun _ _ => .ended _⟩

theorem Extends.bind {first later : Scan α} {next after : α → Scan β}
    (begun : Extends first later) (each : ∀ a, Extends (next a) (after a)) :
    Extends (first >>= next) (later >>= after) :=
  ⟨fun source more => (begun.persists source more).bind fun read =>
    (each read.1).persists read.2 more⟩

theorem Extends.ite {condition : Prop} [Decidable condition] {first later other otherLater : Scan α}
    (holds : Extends first later) (fails : Extends other otherLater) :
    Extends (if condition then first else other) (if condition then later else otherLater) := by
  split
  · exact holds
  · exact fails

/-- A reading whose turns are bounded by the size of the source has more of them on more input. -/
theorem steady_sized (reader : Nat → Scan α)
    (longer : ∀ {turns more}, turns ≤ more → Extends (reader turns) (reader more)) :
    Steady (get >>= fun source : Source => reader (source.size + 1)) :=
  ⟨fun source more =>
    (longer (Nat.succ_le_succ (source.size_le_before more))).persists source more⟩

theorem steady_bit : Steady bit := by
  refine ⟨fun source more => ?_⟩
  obtain ⟨opened, bytes⟩ := source
  cases opened with
  | cons b opened => exact .read (b, _)
  | nil =>
    cases bytes with
    | nil => exact .ended _
    | cons byte bytes => exact .read (_, _)

theorem steady_number (width : Nat) : Steady (number width) := by
  induction width with
  | zero => exact steady_pure 0
  | succ width ih => exact steady_bit.bind fun low => ih.bind fun high => steady_pure _

theorem steady_align : Steady align :=
  ⟨fun source _ => .read ((), { source with opened := [] })⟩

theorem steady_takeBytes (n : Nat) : Steady (takeBytes n) := by
  have splits (source : Source) : (takeBytes n).run source =
      splitBytes n source.bytes >>= fun part => .ok (part.1, { source with bytes := part.2 }) := by
    simp only [takeBytes, StateT.run, splitBytes]
    split <;> rfl
  refine ⟨fun source more => ?_⟩
  rw [splits, splits]
  exact (persists_splitBytes source.bytes more n).bind fun part => .read (_, _)

end Scan

open Scan

/-! ## Blocks -/

theorem Code.steady_search (symbols : Array Nat) (value first index : Nat) (counts : List Nat) :
    Steady (search symbols value first index counts) := by
  induction counts generalizing value first index with
  | nil => exact steady_throw _
  | cons count rest ih =>
    refine steady_bit.bind fun b => .ite ?_ (.ite (steady_throw _) (ih ..))
    split
    · exact steady_pure _
    · exact steady_throw _

theorem Code.steady_decode (code : Code) : Steady code.decode :=
  steady_search ..

theorem steady_value (scale : Array Scale) (symbol : Nat) : Steady (Scale.value scale symbol) := by
  unfold Scale.value
  split
  · exact steady_throw _
  · exact (steady_number _).bind fun offset => steady_pure _

theorem extends_symbolsInto (literals distances : Code) {turns more : Nat} (longer : turns ≤ more)
    (written : Bytes) :
    Extends (symbolsInto literals distances turns written)
      (symbolsInto literals distances more written) := by
  -- A reading that has no turns left gives up as at its end.
  induction turns generalizing more written with
  | zero => exact extends_of_ended _
  | succ turns ih =>
    obtain ⟨more, rfl⟩ : ∃ left, more = left + 1 := ⟨more - 1, by omega⟩
    have next (written : Bytes) := ih (Nat.le_of_succ_le_succ longer) written
    refine literals.steady_decode.bind fun symbol => .ite (next _) (.ite (steady_pure _) ?_)
    exact (steady_value _ _).bind fun length => distances.steady_decode.bind fun far =>
      (steady_value _ _).bind fun distance => next _

theorem steady_codedBlock (literals distances : Code) (written : Bytes) :
    Steady (codedBlock literals distances written) :=
  steady_sized _ fun longer => extends_symbolsInto literals distances longer written

theorem steady_storedBlock (written : Bytes) : Steady (storedBlock written) :=
  steady_align.bind fun _ => (steady_takeBytes 2).bind fun _ => (steady_takeBytes 2).bind fun _ =>
    .ite ((steady_takeBytes _).bind fun _ => steady_pure _) (steady_throw _)

theorem steady_threeBitNumbers (count : Nat) : Steady (threeBitNumbers count) := by
  induction count with
  | zero => exact steady_pure []
  | succ count ih => exact (steady_number 3).bind fun first => ih.bind fun rest => steady_pure _

theorem extends_wordLengths (code : Code) (total : Nat) {turns more : Nat} (longer : turns ≤ more)
    (newest : List Nat) :
    Extends (wordLengths code total turns newest) (wordLengths code total more newest) := by
  induction turns generalizing more newest with
  | zero => exact extends_of_ended _
  | succ turns ih =>
    obtain ⟨more, rfl⟩ : ∃ left, more = left + 1 := ⟨more - 1, by omega⟩
    have next (newest : List Nat) := ih (Nat.le_of_succ_le_succ longer) newest
    refine .ite (steady_throw _) (.ite (steady_pure _) ?_)
    refine code.steady_decode.bind fun symbol => ?_
    split
    · split
      · exact steady_throw _
      · exact (steady_number 2).bind fun count => next _
    · exact (steady_number 3).bind fun count => next _
    · exact (steady_number 7).bind fun count => next _
    · exact next _

theorem steady_dynamicBlock (written : Bytes) : Steady (dynamicBlock written) := by
  refine (steady_number 5).bind fun literalCount => (steady_number 5).bind fun distanceCount =>
    (steady_number 4).bind fun lengthCount => .ite (steady_throw _) ?_
  refine (steady_threeBitNumbers _).bind fun lengths => .ite (steady_throw _) ?_
  refine steady_sized _ fun longer => (extends_wordLengths _ _ longer []).bind fun lengths => ?_
  exact .ite (steady_codedBlock ..) (steady_throw _)

theorem steady_block (kind : Nat) (written : Bytes) : Steady (block kind written) := by
  unfold block
  split
  · exact steady_storedBlock written
  · exact steady_codedBlock ..
  · exact steady_dynamicBlock written
  · exact steady_throw _

theorem extends_blocks {turns more : Nat} (longer : turns ≤ more) (written : Bytes) :
    Extends (blocks turns written) (blocks more written) := by
  induction turns generalizing more written with
  | zero => exact extends_of_ended _
  | succ turns ih =>
    obtain ⟨more, rfl⟩ : ∃ left, more = left + 1 := ⟨more - 1, by omega⟩
    refine steady_bit.bind fun last => (steady_number 2).bind fun kind =>
      (steady_block kind written).bind fun written => .ite (steady_pure _) ?_
    exact ih (Nat.le_of_succ_le_succ longer) written

theorem steady_inflate : Steady inflate :=
  steady_sized (fun turns => do return (← blocks turns []).reverse) fun longer =>
    (extends_blocks longer []).bind fun _ => steady_pure _

/-! ## Members -/

section Headers

variable (input more : Bytes)

theorem persists_boundedText (room : Nat) :
    Persists (followedBy more) (boundedText room input) (boundedText room (input ++ more)) := by
  fun_induction boundedText room input with
  | case1 => exact .ended _
  | case2 =>
    rw [List.cons_append, boundedText]
    exact .read ([], _)
  | case3 b rest nonzero =>
    rw [List.cons_append, boundedText]
    · exact .failed
    · exact nonzero
  | case4 room b rest nonzero ih =>
    rw [List.cons_append, boundedText]
    · exact ih.bind fun part => .read (b :: part.1, part.2)
    · exact nonzero

theorem persists_extraData :
    Persists (followedBy more) (extraData input) (extraData (input ++ more)) :=
  (persists_splitBytes input more 2).bind fun length =>
    (persists_splitBytes length.2 more _).bind fun _ => .read (_, _)

theorem persists_markedText :
    Persists (followedBy more) (markedText input) (markedText (input ++ more)) :=
  (persists_boundedText input more maxHeaderText).bind fun _ => .read (_, _)

variable {part : Bytes → Except Error (Bytes × Bytes)}

theorem persists_optional (present : Bool)
    (persists : ∀ input, Persists (followedBy more) (part input) (part (input ++ more))) :
    Persists (followedBy more) (optional present part input)
      (optional present part (input ++ more)) := by
  cases present with
  | false => exact .read (_, _)
  | true => exact persists input

theorem persists_skipHeader :
    Persists (· ++ more) (skipHeader input) (skipHeader (input ++ more)) := by
  refine (persists_splitBytes input more 10).bind fun start => .ite .failed ?_
  refine (persists_optional _ more _ (persists_extraData · more)).bind fun extra => ?_
  refine (persists_optional _ more _ (persists_markedText · more)).bind fun name => ?_
  refine (persists_optional _ more _ (persists_markedText · more)).bind fun comment => ?_
  refine .ite ((persists_splitBytes _ more 2).bind fun check => .ite ?_ .failed) ?_
  · exact .read check.2
  · exact .read comment.2

end Headers

/-- A member that was read is read alike with more behind it, and so is one that is broken. -/
theorem persists_readMember (input more : Bytes) :
    Persists (followedBy more) (readMember input) (readMember (input ++ more)) := by
  refine (persists_skipHeader input more).bind fun body => ?_
  refine (steady_inflate.persists { bytes := body } more).bind fun inflated => ?_
  refine (persists_splitBytes _ more 4).bind fun check => ?_
  refine (persists_splitBytes _ more 4).bind fun size => .ite ?_ .failed
  exact .read (inflated.1, size.2)

/-- A member that is cut off fails by its end, wherever it is cut. -/
theorem decompress_of_cut {frame front data : Bytes} (whole : readMember frame = .ok (data, []))
    (cut : front <+: frame) (shorter : front ≠ frame) :
    decompress front = .error .unexpectedEnd := by
  obtain ⟨more, rfl⟩ := cut
  have persists := persists_readMember front more
  rw [decompress_eq]
  generalize readMember front = first, readMember (front ++ more) = later at persists whole ⊢
  cases persists with
  | ended => rfl
  | failed => cases whole
  | read a =>
    -- Behind the member in the front there is also what was cut off, so that nothing was.
    have left : a.2 ++ more = [] := congrArg Prod.snd (Except.ok.inj whole)
    rw [(List.append_eq_nil_iff.1 left).2, List.append_nil] at shorter
    exact absurd rfl shorter

/-- Any member that is read to its end, whatever blocks it is made of: with anything behind it, it
is read alike, and wherever it is cut, it is known as cut off. -/
theorem members_delimited {frame data : Bytes} (whole : readMember frame = .ok (data, [])) :
    (∀ rest, decompress (frame ++ rest) = .ok data) ∧
    ∀ front, front <+: frame → front ≠ frame → decompress front = .error .unexpectedEnd := by
  refine ⟨fun rest => ?_, fun front cut shorter => decompress_of_cut whole cut shorter⟩
  have persists := persists_readMember frame rest
  rw [whole] at persists
  rw [decompress_eq]
  generalize readMember (frame ++ rest) = later at persists ⊢
  cases persists
  rfl

/-- There are members that are shorter than their data. -/
example :
    (readMember (header ++
      [203, 75, 204, 195, 11, 1, 190, 183, 43, 129, 32, 0, 0, 0])).toOption =
      some ((List.replicate 16 [110, 97]).flatten, []) := by
  decide +kernel

/-- Whatever the data and however long: its frame is read back as the data, with anything behind it,
and a frame that is cut off, in the header, in a block, in the checksum or in the size, is known as
cut off. -/
theorem frames_lossless_and_delimited (data : Bytes) :
    (∀ rest, decompress (compress data ++ rest) = .ok data) ∧
    ∀ front, front <+: compress data → front ≠ compress data →
      decompress front = .error .unexpectedEnd := by
  have whole := readMember_compress_append data []
  rw [List.append_nil] at whole
  exact members_delimited whole

/-- The frame of two bytes, up to the first of them. -/
def halfFrame : Bytes :=
  header ++ [0x01, 0x02, 0x00, 0xfd, 0xff, 0x68]

theorem frames_lossless_and_delimited_half :
    halfFrame <+: compress [0x68, 0x69] ∧ halfFrame ≠ compress [0x68, 0x69] ∧
    decompress halfFrame = .error .unexpectedEnd ∧
    decompress (compress [0x68, 0x69] ++ halfFrame) = .ok [0x68, 0x69] := by
  have written : compress [0x68, 0x69] = halfFrame ++ (0x69 :: trailer [0x68, 0x69]) := by
    rw [compress, storedBlocks, if_pos (by decide)]
    rfl
  have cut : halfFrame <+: compress [0x68, 0x69] := ⟨_, written.symm⟩
  have shorter : halfFrame ≠ compress [0x68, 0x69] := by
    rw [written]
    simp
  obtain ⟨lossless, delimited⟩ := frames_lossless_and_delimited [0x68, 0x69]
  exact ⟨cut, shorter, delimited halfFrame cut shorter, lossless halfFrame⟩

end Inspector.Gzip
