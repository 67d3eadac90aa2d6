import Mathlib.Data.Fintype.EquivFin
import Mathlib.Data.List.Basic

/-!
# Finite and cofinite sets

The sets a program tests a value of an infinite type against: finitely many values, or all
but finitely many.  They are closed under the Boolean operations, membership is decidable,
and over an infinite type it is decidable whether such a set lies within a finite one
(`within_iff`).
-/

universe u

/-- A finite set, by its members, or a cofinite one, by the values it misses. -/
inductive Extent (α : Type u) where
  | only (members : List α)
  | allBut (missing : List α)
  deriving Repr

namespace Extent

variable {α : Type u}

/-- Membership. -/
def Mem (s : Extent α) (x : α) : Prop :=
  match s with
  | only members => x ∈ members
  | allBut missing => x ∉ missing

instance : Membership α (Extent α) := ⟨Mem⟩

/-- No value. -/
def none : Extent α := only []

/-- Every value. -/
def all : Extent α := allBut []

/-- Every value when the condition holds, none otherwise. -/
def whether (condition : Prop) [Decidable condition] : Extent α := if condition then all else none

def compl : Extent α → Extent α
  | only members => allBut members
  | allBut missing => only missing

@[simp]
theorem mem_only {x : α} {members : List α} : x ∈ only members ↔ x ∈ members := Iff.rfl

@[simp]
theorem mem_allBut {x : α} {missing : List α} : x ∈ allBut missing ↔ x ∉ missing := Iff.rfl

@[simp]
theorem not_mem_none {x : α} : x ∉ (none : Extent α) := List.not_mem_nil

@[simp]
theorem mem_all {x : α} : x ∈ (all : Extent α) := List.not_mem_nil

@[simp]
theorem mem_whether {x : α} {condition : Prop} [Decidable condition] :
    x ∈ (whether condition : Extent α) ↔ condition := by
  unfold whether
  split
  next holds => exact iff_of_true mem_all holds
  next fails => exact iff_of_false not_mem_none fails

@[simp]
theorem mem_compl {x : α} {s : Extent α} : x ∈ s.compl ↔ x ∉ s := by
  cases s with
  | only members => exact Iff.rfl
  | allBut missing => exact not_not.symm

variable [DecidableEq α]

instance (x : α) (s : Extent α) : Decidable (x ∈ s) :=
  match s with
  | only members => inferInstanceAs (Decidable (x ∈ members))
  | allBut missing => inferInstanceAs (Decidable (x ∉ missing))

def inter : Extent α → Extent α → Extent α
  | only members, s => only (members.filter fun x => decide (x ∈ s))
  | s, only members => only (members.filter fun x => decide (x ∈ s))
  | allBut a, allBut b => allBut (a ++ b)

@[simp]
theorem mem_inter {x : α} {s t : Extent α} : x ∈ s.inter t ↔ x ∈ s ∧ x ∈ t := by
  cases s with
  | only members => simp [inter]
  | allBut a =>
    cases t with
    | only members => simp [inter, and_comm]
    | allBut b => simp [inter]

def union (s t : Extent α) : Extent α := (s.compl.inter t.compl).compl

@[simp]
theorem mem_union {x : α} {s t : Extent α} : x ∈ s.union t ↔ x ∈ s ∨ x ∈ t := by
  simp only [union, mem_compl, mem_inter]
  tauto

/-- The union of several sets. -/
def unions (sets : List (Extent α)) : Extent α := sets.foldr union none

@[simp]
theorem mem_unions {x : α} {sets : List (Extent α)} : x ∈ unions sets ↔ ∃ s ∈ sets, x ∈ s := by
  induction sets with
  | nil => simp [unions]
  | cons s rest ih =>
    rw [unions, List.foldr_cons, ← unions, mem_union, ih, List.exists_mem_cons_iff]

/-- The intersection of several sets. -/
def inters (sets : List (Extent α)) : Extent α := sets.foldr inter all

@[simp]
theorem mem_inters {x : α} {sets : List (Extent α)} : x ∈ inters sets ↔ ∀ s ∈ sets, x ∈ s := by
  induction sets with
  | nil => simp [inters]
  | cons s rest ih => rw [inters, List.foldr_cons, ← inters, mem_inter, ih, List.forall_mem_cons]

/-- Whether every member satisfies a condition that only finitely many values can satisfy. -/
def within (s : Extent α) (condition : α → Prop) [DecidablePred condition] : Bool :=
  match s with
  | only members => members.all fun x => decide (condition x)
  | allBut _ => false

/-- Over an infinite type, and for a condition that finitely many values bound, `within` is
inclusion. -/
theorem within_iff [Infinite α] {s : Extent α} {condition : α → Prop} [DecidablePred condition]
    {bound : List α} (bounded : ∀ x, condition x → x ∈ bound) :
    s.within condition ↔ ∀ x ∈ s, condition x := by
  cases s with
  | only members => simp [within]
  | allBut missing =>
    obtain ⟨fresh, outside⟩ := Infinite.exists_notMem_finset (missing ++ bound).toFinset
    rw [List.mem_toFinset, List.mem_append, not_or] at outside
    simp only [within, Bool.false_eq_true, mem_allBut, false_iff, not_forall]
    exact ⟨fresh, outside.1, fun holds => outside.2 (bounded fresh holds)⟩

/-- Whether there is a member. -/
def inhabited : Extent α → Bool
  | only members => !members.isEmpty
  | allBut _ => true

theorem inhabited_iff [Infinite α] {s : Extent α} : s.inhabited = true ↔ ∃ x, x ∈ s := by
  cases s with
  | only members =>
    cases members with
    | nil => simp [inhabited]
    | cons x rest => exact iff_of_true rfl ⟨x, List.mem_cons_self⟩
  | allBut missing =>
    obtain ⟨fresh, outside⟩ := Infinite.exists_notMem_finset missing.toFinset
    rw [List.mem_toFinset] at outside
    exact iff_of_true rfl ⟨fresh, outside⟩

end Extent
