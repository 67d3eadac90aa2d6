import Mathlib.Data.List.Forall2
import Mathlib.Tactic.Common

/-!
# Patterns over the parts of a path

A pattern is a list of items.  A *deep* item stands for any number of parts of the path, every
other item for one part that fits it.  `matchSegments` decides by trying, from the front, whether a
path matches; `Matches` is the meaning, a division of the path into one block for each item
(`matchSegments_iff`).
-/

namespace Glob

universe u v

variable {α : Type u} {π : Type v} (deep : π → Bool) (fits : α → π → Bool)

/-- Does a path match a pattern? -/
def matchSegments : List α → List π → Bool
  | path, [] => path.isEmpty
  | [], head :: tail => deep head && matchSegments [] tail
  | part :: rest, head :: tail =>
    if deep head then
      matchSegments (part :: rest) tail || matchSegments rest (head :: tail)
    else
      fits part head && matchSegments rest tail
termination_by path pattern => path.length + pattern.length

/-- An item stands for a block of a path. -/
def Stands (block : List α) (item : π) : Prop :=
  deep item = true ∨ ∃ part, block = [part] ∧ fits part item = true

/-- A path is made of blocks that the items of a pattern stand for. -/
def Matches (path : List α) (pattern : List π) : Prop :=
  ∃ blocks : List (List α), blocks.flatten = path ∧ List.Forall₂ (Stands deep fits) blocks pattern

variable {deep fits}

theorem matches_nil {path : List α} : Matches deep fits path [] ↔ path = [] := by
  constructor
  · rintro ⟨blocks, rfl, stand⟩
    cases stand
    rfl
  · rintro rfl
    exact ⟨[], rfl, .nil⟩

theorem matches_cons {path : List α} {head : π} {tail : List π} :
    Matches deep fits path (head :: tail) ↔
      ∃ block rest, path = block ++ rest ∧ Stands deep fits block head ∧
        Matches deep fits rest tail := by
  constructor
  · rintro ⟨blocks, rfl, stand⟩
    cases stand with
    | cons first others => exact ⟨_, _, List.flatten_cons, first, _, rfl, others⟩
  · rintro ⟨block, rest, rfl, first, blocks, rfl, others⟩
    exact ⟨block :: blocks, List.flatten_cons, .cons first others⟩

/-- A deep item stands for nothing, or takes the first part of the path and stays. -/
theorem matches_deep_cons {part : α} {rest : List α} {head : π} {tail : List π}
    (isDeep : deep head = true) :
    Matches deep fits (part :: rest) (head :: tail) ↔
      Matches deep fits (part :: rest) tail ∨ Matches deep fits rest (head :: tail) := by
  simp only [matches_cons]
  constructor
  · rintro ⟨block, others, split, -, later⟩
    cases block with
    | nil =>
      rw [List.nil_append] at split
      exact .inl (split ▸ later)
    | cons first block =>
      obtain ⟨rfl, rfl⟩ := List.cons.inj split
      exact .inr ⟨block, others, rfl, .inl isDeep, later⟩
  · rintro (later | ⟨block, others, rfl, -, later⟩)
    · exact ⟨[], _, rfl, .inl isDeep, later⟩
    · exact ⟨part :: block, others, rfl, .inl isDeep, later⟩

/-- Every other item takes the first part of the path. -/
theorem matches_plain_cons {path : List α} {head : π} {tail : List π}
    (plain : deep head = false) :
    Matches deep fits path (head :: tail) ↔
      ∃ part rest, path = part :: rest ∧ fits part head = true ∧ Matches deep fits rest tail := by
  rw [matches_cons]
  constructor
  · rintro ⟨block, rest, rfl, isDeep | ⟨part, rfl, fit⟩, later⟩
    · rw [plain] at isDeep
      cases isDeep
    · exact ⟨part, rest, rfl, fit, later⟩
  · rintro ⟨part, rest, rfl, fit, later⟩
    exact ⟨[part], rest, rfl, .inr ⟨part, rfl, fit⟩, later⟩

/-- What is tried from the front is what the pattern means. -/
theorem matchSegments_iff {path : List α} {pattern : List π} :
    matchSegments deep fits path pattern = true ↔ Matches deep fits path pattern := by
  fun_induction matchSegments deep fits path pattern with
  | case1 path => rw [matches_nil, List.isEmpty_iff]
  | case2 head tail ih =>
    rw [Bool.and_eq_true, ih]
    by_cases isDeep : deep head = true
    · rw [matches_cons]
      constructor
      · rintro ⟨-, later⟩
        exact ⟨[], [], rfl, .inl isDeep, later⟩
      · rintro ⟨block, rest, split, -, later⟩
        rw [(List.append_eq_nil_iff.mp split.symm).2] at later
        exact ⟨isDeep, later⟩
    · rw [matches_plain_cons (Bool.eq_false_iff.mpr isDeep)]
      simp [isDeep]
  | case3 part rest head tail isDeep skipped taken =>
    rw [Bool.or_eq_true, skipped, taken, matches_deep_cons isDeep]
  | case4 part rest head tail plain ih =>
    rw [Bool.and_eq_true, ih, matches_plain_cons (Bool.eq_false_iff.mpr plain)]
    constructor
    · rintro ⟨fit, later⟩
      exact ⟨part, rest, rfl, fit, later⟩
    · rintro ⟨part', rest', same, fit, later⟩
      obtain ⟨rfl, rfl⟩ := List.cons.inj same
      exact ⟨fit, later⟩

end Glob
