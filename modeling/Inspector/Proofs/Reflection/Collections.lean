import Mathlib.Logic.Relation
import Inspector.Proofs.Introspection.FieldReads
import Inspector.Proofs.Reflection.Loops

/-!
# Which classes are ordered collections

A class is an ordered collection if it, or one of its superclasses, comes to the interface of
ordered collections through interfaces (`Implements`). The search goes up the superclasses and looks
through the interfaces of each, and keeps one list of the names that it has seen as either. It never
finds what is not there. But a superclass that was seen as an interface of a lower class ends it,
although its own superclasses are still ahead: so a collection is found just in case no such class
stands between (`isCollection_iff`), and `collection_hidden_by_interface` is one that is missed.
-/

namespace Inspector.TypeSource

open Relation (ReflTransGen TransGen)

variable {types : TypeSource}

/-! ## Searching the interfaces of a class -/

/-- A class or an interface names an interface. -/
def Implements (types : TypeSource) (name parent : String) : Prop :=
  parent ∈ types.interfaces name

theorem mem_interfaceStack {name parent : String} :
    parent ∈ types.interfaceStack name ↔ types.Implements name parent :=
  List.mem_reverse

/-- All that a class comes to through interfaces is in a list that holds what it and all in the list
implement. -/
theorem implemented_mem {names : List String} {name parent : String}
    (closed : ∀ child ∈ name :: names, ∀ upper ∈ types.interfaces child, upper ∈ names)
    (way : TransGen types.Implements name parent) : parent ∈ names := by
  induction way with
  | single step => exact closed _ List.mem_cons_self _ step
  | tail _ step ih => exact closed _ (List.mem_cons_of_mem _ ih) _ step

/-- All that the names in a list implement waits to be looked at, or is in the list and is not what
is looked for. -/
def Searched (types : TypeSource) (seen waiting : List String) : Prop :=
  ∀ name ∈ seen, ∀ parent, types.Implements name parent →
    parent ∈ waiting ∨ parent ∈ seen ∧ parent ≠ orderedCollection

/-- Where nothing waits, no way through interfaces leads out of the names that were seen, and none
leads to ordered collections. -/
theorem Searched.of_transGen {seen : List String} (searched : types.Searched seen [])
    {name parent : String} (old : name ∈ seen) (way : TransGen types.Implements name parent) :
    parent ∈ seen ∧ parent ≠ orderedCollection := by
  induction way with
  | single step => exact (searched _ old _ step).resolve_left List.not_mem_nil
  | tail _ step ih => exact (searched _ ih.1 _ step).resolve_left List.not_mem_nil

theorem Searched.pass {seen rest : List String} {current : String}
    (searched : types.Searched seen (current :: rest)) (old : current ∈ seen)
    (apart : current ≠ orderedCollection) : types.Searched seen rest := by
  intro name held parent step
  rcases searched name held parent step with waits | done
  · rcases List.mem_cons.1 waits with rfl | waits
    · exact .inr ⟨old, apart⟩
    · exact .inl waits
  · exact .inr done

theorem Searched.visit {seen rest : List String} {current : String}
    (searched : types.Searched seen (current :: rest)) (apart : current ≠ orderedCollection) :
    types.Searched (current :: seen) (types.interfaceStack current ++ rest) := by
  intro name held parent step
  rcases List.mem_cons.1 held with rfl | held
  · exact .inl (List.mem_append_left _ (mem_interfaceStack.2 step))
  · rcases searched name held parent step with waits | ⟨old, differ⟩
    · rcases List.mem_cons.1 waits with rfl | waits
      · exact .inr ⟨List.mem_cons_self, apart⟩
      · exact .inl (List.mem_append_right _ waits)
    · exact .inr ⟨List.mem_cons_of_mem _ old, differ⟩

/-- A search that is successful was led to ordered collections from the stack. -/
theorem exists_way_of_searchInterfaces {seen stack : List String}
    (found : (types.searchInterfaces seen stack).1 = true) :
    ∃ name ∈ stack, ReflTransGen types.Implements name orderedCollection := by
  fun_induction types.searchInterfaces seen stack with
  | case1 => cases found
  | case2 seen rest => exact ⟨_, List.mem_cons_self, .refl⟩
  | case3 seen current rest apart old ih =>
    obtain ⟨name, waits, way⟩ := ih found
    exact ⟨name, List.mem_cons_of_mem _ waits, way⟩
  | case4 seen current rest apart fresh ih =>
    obtain ⟨name, waits, way⟩ := ih found
    rcases List.mem_append.1 waits with named | waits
    · exact ⟨current, List.mem_cons_self, .head (mem_interfaceStack.1 named) way⟩
    · exact ⟨name, List.mem_cons_of_mem _ waits, way⟩

/-- A search adds nothing but what it was led to from the stack. -/
theorem exists_way_of_mem_searchInterfaces {seen stack : List String} {name : String}
    (noted : name ∈ (types.searchInterfaces seen stack).2) :
    name ∈ seen ∨ ∃ start ∈ stack, ReflTransGen types.Implements start name := by
  fun_induction types.searchInterfaces seen stack with
  | case1 => exact .inl noted
  | case2 => exact .inl noted
  | case3 seen current rest apart old ih =>
    refine (ih noted).imp_right ?_
    rintro ⟨start, waits, way⟩
    exact ⟨start, List.mem_cons_of_mem _ waits, way⟩
  | case4 seen current rest apart fresh ih =>
    rcases ih noted with old | ⟨start, waits, way⟩
    · rcases List.mem_cons.1 old with rfl | old
      · exact .inr ⟨_, List.mem_cons_self, .refl⟩
      · exact .inl old
    · rcases List.mem_append.1 waits with named | waits
      · exact .inr ⟨current, List.mem_cons_self, .head (mem_interfaceStack.1 named) way⟩
      · exact .inr ⟨start, List.mem_cons_of_mem _ waits, way⟩

/-- A search that fails has looked at everything. -/
theorem Searched.of_searchInterfaces {seen stack : List String}
    (searched : types.Searched seen stack)
    (failed : (types.searchInterfaces seen stack).1 = false) :
    types.Searched (types.searchInterfaces seen stack).2 [] := by
  fun_induction types.searchInterfaces seen stack with
  | case1 => exact searched
  | case2 => cases failed
  | case3 seen current rest apart old ih => exact ih (searched.pass old apart) failed
  | case4 seen current rest apart fresh ih => exact ih (searched.visit apart) failed

/-! ## Going up the superclasses -/

/-- No way through interfaces leads from a class to another. -/
def Apart (types : TypeSource) (lower upper : String) : Prop :=
  ¬TransGen types.Implements lower upper

/-- What is seen when a search has gone through some classes in vain, the last of them on top: these
classes and all that they come to through interfaces. -/
structure Covers (types : TypeSource) (levels seen : List String) : Prop where
  subset : levels ⊆ seen
  led : ∀ name ∈ seen, name ∈ levels ∨ ∃ lower ∈ levels, TransGen types.Implements lower name
  searched : types.Searched seen []
  apart : levels.reverse.Pairwise types.Apart

theorem covers_nil : types.Covers [] [] where
  subset := List.Subset.refl _
  led _ held := absurd held List.not_mem_nil
  searched _ held := absurd held List.not_mem_nil
  apart := .nil

namespace Covers

variable {levels seen : List String} {name : String}

/-- A class that is new to the search was not come to from the classes below it. -/
theorem apart_concat (covers : types.Covers levels seen) (fresh : name ∉ seen) :
    (levels.reverse ++ [name]).Pairwise types.Apart := by
  refine List.pairwise_append.2 ⟨covers.apart, List.pairwise_singleton _ _, ?_⟩
  intro lower held upper only way
  rw [List.mem_singleton.1 only] at way
  have held := covers.subset (List.mem_reverse.1 held)
  exact fresh (covers.searched.of_transGen held way).1

theorem searched_cons (covers : types.Covers levels seen) :
    types.Searched (name :: seen) (types.interfaceStack name) := by
  intro child held parent step
  rcases List.mem_cons.1 held with rfl | held
  · exact .inl (mem_interfaceStack.2 step)
  · obtain ⟨old, differ⟩ := (covers.searched child held parent step).resolve_left List.not_mem_nil
    exact .inr ⟨List.mem_cons_of_mem _ old, differ⟩

theorem cons {later : List String} (covers : types.Covers levels seen) (fresh : name ∉ seen)
    (failed : types.searchInterfaces (name :: seen) (types.interfaceStack name) = (false, later)) :
    types.Covers (name :: levels) later := by
  have kept := types.subset_searchInterfaces (name :: seen) (types.interfaceStack name)
  have searched := covers.searched_cons.of_searchInterfaces (congrArg Prod.fst failed)
  have led (other : String) := @exists_way_of_mem_searchInterfaces types (name :: seen)
    (types.interfaceStack name) other
  rw [failed] at kept searched
  rw [failed] at led
  refine ⟨fun other held => kept ?_, fun other held => ?_, searched, ?_⟩
  · exact (List.mem_cons.1 held).elim (· ▸ List.mem_cons_self) fun held =>
      List.mem_cons_of_mem _ (covers.subset held)
  · rcases led other held with old | ⟨start, named, way⟩
    · rcases List.mem_cons.1 old with rfl | old
      · exact .inl List.mem_cons_self
      · refine (covers.led other old).imp (List.mem_cons_of_mem _) ?_
        rintro ⟨lower, held, way⟩
        exact ⟨lower, List.mem_cons_of_mem _ held, way⟩
    · exact .inr ⟨name, List.mem_cons_self, .head' (mem_interfaceStack.1 named) way⟩
  · rw [List.reverse_cons]
    exact covers.apart_concat fresh

theorem not_collection (covers : types.Covers levels seen) (held : name ∈ levels) :
    ¬TransGen types.Implements name orderedCollection :=
  fun way => (covers.searched.of_transGen (covers.subset held) way).2 rfl

end Covers

/-- The search finds a collection from the class on where it stands exactly if a class ahead
implements ordered collections and no class up to it was seen as an interface of a lower one. -/
theorem collectionFrom_iff {levels seen : List String} {name : String}
    (covers : types.Covers levels seen) :
    types.collectionFrom seen name = true ↔
      ∃ below level above, types.chainFrom levels name = below ++ level :: above ∧
        (levels.reverse ++ below ++ [level]).Pairwise types.Apart ∧
        TransGen types.Implements level orderedCollection := by
  fun_induction types.collectionFrom seen name generalizing levels with
  | case1 seen name old =>
    refine iff_of_false Bool.false_ne_true ?_
    rintro ⟨below, level, above, chain, apart, -⟩
    by_cases passed : name ∈ levels
    · rw [chainFrom, if_pos passed] at chain
      exact absurd chain (by simp)
    · obtain ⟨rest, first⟩ := types.exists_chainFrom passed
      have upTo : name ∈ below ++ [level] := by
        cases below <;> simp_all
      obtain ⟨lower, held, way⟩ := (covers.led name old).resolve_left passed
      rw [List.append_assoc, List.pairwise_append] at apart
      exact apart.2.2 lower (List.mem_reverse.2 held) name upTo way
  | case2 seen name fresh later found =>
    obtain ⟨start, named, way⟩ := exists_way_of_searchInterfaces (congrArg Prod.fst found)
    obtain ⟨above, first⟩ := types.exists_chainFrom fun passed => fresh (covers.subset passed)
    refine iff_of_true rfl ⟨[], name, above, first, ?_, .head' (mem_interfaceStack.1 named) way⟩
    rw [List.append_nil]
    exact covers.apart_concat fresh
  | case3 seen name fresh later failed top =>
    refine iff_of_false Bool.false_ne_true ?_
    rintro ⟨below, level, above, chain, -, way⟩
    rw [chainFrom_top (fun passed => fresh (covers.subset passed)) top] at chain
    have only : name = level := by
      cases below <;> simp_all
    exact (covers.cons fresh failed).not_collection List.mem_cons_self (only ▸ way)
  | case4 seen name fresh later failed parent extended ih =>
    have next := covers.cons fresh failed
    rw [ih next, chainFrom_extended (fun passed => fresh (covers.subset passed)) extended]
    constructor
    · rintro ⟨below, level, above, chain, apart, way⟩
      refine ⟨name :: below, level, above, ?_, by simpa using apart, way⟩
      rw [chain, List.cons_append]
    · rintro ⟨below, level, above, chain, apart, way⟩
      cases below with
      | nil =>
        -- The interfaces of this class were searched in vain.
        cases chain
        exact absurd way (next.not_collection List.mem_cons_self)
      | cons first below =>
        obtain ⟨rfl, ahead⟩ := List.cons.inj chain
        exact ⟨below, level, above, ahead, by simpa using apart, way⟩

theorem isCollection_iff {name : String} :
    types.isCollection name = true ↔
      ∃ below level above, types.chainFrom [] name = below ++ level :: above ∧
        (below ++ [level]).Pairwise types.Apart ∧
        TransGen types.Implements level orderedCollection :=
  collectionFrom_iff covers_nil

/-- The search for ordered collections comes to an end on every graph of classes. It finds one
exactly if a class among the superclasses comes to `java.util.List` by one interface or more, and no
class up to that one is come to in this way from a class below it. So it is exact where no
superclass is an interface of a lower class. -/
theorem collections_found_unless_hidden (types : TypeSource) (name : String) :
    Loops.Ends (Loops.collect types · [] (some name)) (types.isCollection name) ∧
    (types.isCollection name = true ↔
      ∃ below level above, types.chainFrom [] name = below ++ level :: above ∧
        (below ++ [level]).Pairwise types.Apart ∧
        TransGen types.Implements level "java.util.List") ∧
    ((types.chainFrom [] name).Pairwise types.Apart →
      (types.isCollection name = true ↔
        ∃ level ∈ types.chainFrom [] name, TransGen types.Implements level "java.util.List")) := by
  refine ⟨Loops.collect_ends types [] name, isCollection_iff, fun apart => ?_⟩
  rw [isCollection_iff]
  constructor
  · rintro ⟨below, level, above, chain, -, way⟩
    exact ⟨level, by simp [chain], way⟩
  · rintro ⟨level, held, way⟩
    obtain ⟨below, above, chain⟩ := List.append_of_mem held
    rw [chain, List.append_cons, List.pairwise_append] at apart
    exact ⟨below, level, above, chain, apart.1, way⟩

/-- A class that both extends and implements another, whose superclass is an ordered collection. -/
def masked : InMemoryHost :=
  let host := InMemoryHost.empty.define "t.Base" (·.implementing "java.util.List")
  let host := host.define "t.Table" (·.extending "t.Base")
  host.define "t.Rows" fun definition => (definition.extending "t.Table").implementing "t.Table"

theorem chain_masked :
    masked.types.chainFrom [] "t.Rows" = ["t.Rows", "t.Table", "t.Base", "java.lang.Object"] := by
  have rows : masked.types.superclass "t.Rows" = some "t.Table" := by decide +kernel
  have table : masked.types.superclass "t.Table" = some "t.Base" := by decide +kernel
  have base : masked.types.superclass "t.Base" = some "java.lang.Object" := by decide +kernel
  have top : masked.types.superclass "java.lang.Object" = none := by decide +kernel
  rw [chainFrom_extended (by simp) rows, chainFrom_extended (by simp) table,
    chainFrom_extended (by simp) base, chainFrom_top (by simp) top]

/-- The collection is missed, since the class below it was seen as an interface before. -/
theorem collection_hidden_by_interface :
    masked.types.isCollection "t.Rows" = false ∧
      ¬(masked.types.isCollection "t.Rows" = true ↔
        ∃ level ∈ masked.types.chainFrom [] "t.Rows",
          TransGen masked.types.Implements level "java.util.List") := by
  have missed : masked.types.isCollection "t.Rows" = false := by
    rw [Bool.eq_false_iff, ne_eq, isCollection_iff, chain_masked]
    rintro ⟨below, level, above, chain, apart, way⟩
    cases below with
    | nil =>
      cases chain
      have inside : orderedCollection ∈ ["t.Table"] := implemented_mem (by decide +kernel) way
      exact absurd inside (by decide)
    | cons first below =>
      obtain ⟨rfl, ahead⟩ := List.cons.inj chain
      have between : "t.Table" ∈ below ++ [level] := by
        cases below <;> simp_all
      have implemented : masked.types.Implements "t.Rows" "t.Table" := by
        unfold Implements
        decide +kernel
      exact List.rel_of_pairwise_cons apart between (.single implemented)
  refine ⟨missed, fun agree => ?_⟩
  have implemented : masked.types.Implements "t.Base" "java.util.List" := by
    unfold Implements
    decide +kernel
  have found := agree.2 ⟨"t.Base", by simp [chain_masked], .single implemented⟩
  rw [missed] at found
  cases found

/-- A class whose superclass comes to ordered collections through interfaces that extend each
other. -/
def winding : InMemoryHost :=
  let host := InMemoryHost.empty.define "t.Ordered" fun definition =>
    definition.asInterface.implementing "t.Indexed"
  let host := host.define "t.Indexed" fun definition =>
    (definition.asInterface.implementing "java.util.List").implementing "t.Ordered"
  let host := host.define "t.Store" (·.implementing "t.Ordered")
  host.define "t.Queue" (·.extending "t.Store")

/-- No superclass is an interface here, so the collection is found two levels and two interfaces
away. -/
theorem collections_found_unless_hidden_winding :
    (winding.types.chainFrom [] "t.Queue").Pairwise winding.types.Apart ∧
    Loops.Ends (Loops.collect winding.types · [] (some "t.Queue")) true := by
  have chain : winding.types.chainFrom [] "t.Queue" =
      ["t.Queue", "t.Store", "java.lang.Object"] := by
    have queue : winding.types.superclass "t.Queue" = some "t.Store" := by decide +kernel
    have store : winding.types.superclass "t.Store" = some "java.lang.Object" := by decide +kernel
    have top : winding.types.superclass "java.lang.Object" = none := by decide +kernel
    rw [chainFrom_extended (by simp) queue, chainFrom_extended (by simp) store,
      chainFrom_top (by simp) top]
  have apart : (winding.types.chainFrom [] "t.Queue").Pairwise winding.types.Apart := by
    let names := ["t.Ordered", "t.Indexed", "java.util.List"]
    have outside : ["t.Queue", "t.Store", "java.lang.Object"].Pairwise fun lower upper =>
        (∀ child ∈ lower :: names, ∀ parent ∈ winding.types.interfaces child, parent ∈ names) ∧
          upper ∉ names := by
      decide +kernel
    rw [chain]
    exact outside.imp fun closed way => closed.2 (implemented_mem closed.1 way)
  have steps : ∀ step ∈ [("t.Store", "t.Ordered"), ("t.Ordered", "t.Indexed"),
      ("t.Indexed", "java.util.List")], winding.types.Implements step.1 step.2 := by
    unfold Implements
    decide +kernel
  have way : TransGen winding.types.Implements "t.Store" "java.util.List" :=
    .tail (.tail (.single (steps (_, _) (by simp))) (steps ("t.Ordered", _) (by simp)))
      (steps ("t.Indexed", _) (by simp))
  obtain ⟨ends, -, exactly⟩ := collections_found_unless_hidden winding.types "t.Queue"
  have found := (exactly apart).2 ⟨"t.Store", by simp [chain], way⟩
  rw [found] at ends
  exact ⟨apart, ends⟩

end Inspector.TypeSource
