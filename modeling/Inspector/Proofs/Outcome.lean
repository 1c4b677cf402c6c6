/-!
# Computations that may fail

How a chain of steps that may fail succeeds: each step does, and hands its result to the next.
-/

namespace Inspector.Outcome

variable {ε α β : Type}

@[simp] theorem ok_bind (a : α) (next : α → Except ε β) : (Except.ok a >>= next) = next a := rfl

@[simp] theorem error_bind (e : ε) (next : α → Except ε β) :
    (Except.error e >>= next) = .error e := rfl

@[simp] theorem pure_eq_ok (a : α) : (pure a : Except ε α) = .ok a := rfl

@[simp] theorem throw_eq_error (e : ε) : (throw e : Except ε α) = .error e := rfl

theorem bind_eq_ok {first : Except ε α} {next : α → Except ε β} {b : β} :
    (first >>= next) = .ok b ↔ ∃ a, first = .ok a ∧ next a = .ok b := by
  cases first with
  | error e => simp
  | ok a => simp

@[simp] theorem mapError_ok {ε' : Type} (f : ε → ε') (a : α) :
    (Except.ok a : Except ε α).mapError f = .ok a := rfl

@[simp] theorem mapError_error {ε' : Type} (f : ε → ε') (e : ε) :
    (Except.error e : Except ε α).mapError f = .error (f e) := rfl

theorem mapError_eq_ok {ε' : Type} {f : ε → ε'} {first : Except ε α} {a : α} :
    first.mapError f = .ok a ↔ first = .ok a := by
  cases first with
  | error e => exact ⟨nofun, nofun⟩
  | ok a =>
    constructor
    · rintro ⟨⟩
      rfl
    · rintro ⟨⟩
      rfl

theorem mapM_cons_eq_ok {f : α → Except ε β} {first : α} {rest : List α} {values : List β} :
    (first :: rest).mapM f = .ok values ↔
      ∃ value others, f first = .ok value ∧ rest.mapM f = .ok others ∧
        values = value :: others := by
  rw [List.mapM_cons, bind_eq_ok]
  constructor
  · rintro ⟨value, head, tail⟩
    obtain ⟨others, later, done⟩ := bind_eq_ok.1 tail
    exact ⟨value, others, head, later, (Except.ok.inj done).symm⟩
  · rintro ⟨value, others, head, later, rfl⟩
    exact ⟨value, head, bind_eq_ok.2 ⟨others, later, rfl⟩⟩

/-- A list of which no member fails gives the results of all. -/
theorem mapM_eq_ok_map {f : α → Except ε β} {g : α → β} {items : List α}
    (fine : ∀ a ∈ items, f a = .ok (g a)) : items.mapM f = .ok (items.map g) := by
  induction items with
  | nil => rfl
  | cons first rest ih =>
    obtain ⟨here, later⟩ := List.forall_mem_cons.1 fine
    exact mapM_cons_eq_ok.2 ⟨_, _, here, ih later, rfl⟩

theorem mapM_cons_eq_error {f : α → Except ε β} {first : α} {rest : List α} {e : ε} :
    (first :: rest).mapM f = .error e ↔
      f first = .error e ∨ ∃ value, f first = .ok value ∧ rest.mapM f = .error e := by
  rw [List.mapM_cons]
  cases f first with
  | error other => simp
  | ok value => cases rest.mapM f <;> simp

/-- A list is gone through up to the first member that fails, and that failure is the outcome. -/
theorem mapM_eq_error {f : α → Except ε β} {items : List α} {e : ε} :
    items.mapM f = .error e ↔
      ∃ before item after, items = before ++ item :: after ∧
        (∀ earlier ∈ before, ∃ value, f earlier = .ok value) ∧ f item = .error e := by
  constructor
  · intro failed
    induction items with
    | nil => cases failed
    | cons first rest ih =>
      rcases mapM_cons_eq_error.1 failed with here | ⟨value, fine, later⟩
      · exact ⟨[], first, rest, rfl, by simp, here⟩
      · obtain ⟨before, item, after, rfl, others, there⟩ := ih later
        exact ⟨first :: before, item, after, rfl,
          List.forall_mem_cons.2 ⟨⟨value, fine⟩, others⟩, there⟩
  · rintro ⟨before, item, after, rfl, fine, failed⟩
    induction before with
    | nil => exact mapM_cons_eq_error.2 (.inl failed)
    | cons first before ih =>
      obtain ⟨⟨value, good⟩, others⟩ := List.forall_mem_cons.1 fine
      exact mapM_cons_eq_error.2 (.inr ⟨value, good, ih others⟩)

/-! What is left of a chain of steps when it does not matter why one fails -/

theorem toOption_bind (first : Except ε α) (next : α → Except ε β) :
    (first >>= next).toOption = first.toOption.bind fun a => (next a).toOption := by
  cases first <;> rfl

theorem eq_ok_of_toOption {first : Except ε α} {a : α} (same : first.toOption = some a) :
    first = .ok a := by
  cases first with
  | error e => cases same
  | ok found => exact congrArg _ (Option.some.inj same)

theorem toOption_mapM {f : α → Except ε β} {g : α → Option β} {items : List α}
    (same : ∀ a ∈ items, (f a).toOption = g a) : (items.mapM f).toOption = items.mapM g := by
  induction items with
  | nil => rfl
  | cons first rest ih =>
    have others := ih fun a later => same a (List.mem_cons_of_mem _ later)
    rw [List.mapM_cons, List.mapM_cons, toOption_bind, same first List.mem_cons_self, ← others]
    refine congrArg (Option.bind _) (funext fun value => ?_)
    rw [toOption_bind]
    rfl

theorem isSome_mapM_iff {f : α → Option β} {items : List α} :
    (items.mapM f).isSome ↔ ∀ a ∈ items, (f a).isSome := by
  induction items with
  | nil => simp
  | cons first rest ih =>
    rw [List.forall_mem_cons, ← ih, List.mapM_cons]
    cases f first with
    | none => simp
    | some value => cases rest.mapM f <;> simp

end Inspector.Outcome
