import Mathlib.Algebra.BigOperators.Group.List.Basic
import Mathlib.Algebra.GroupWithZero.Nat
import Mathlib.Logic.Relation

/-!
# Depth-first traversal with a stack

A visit of an item yields what was found there and further items, or fails.  `run` pops an item,
visits it and pushes the further items before what is left.  It ends since those are lighter, taken
together, than the item (`Traversal.lighter`).  A run finds what is found at the items that can be
reached (`mem_run`), and it fails just where one of them fails (`exists_run_iff`).
-/

namespace Worklist

universe u v w

variable {α : Type u} {β : Type v} {ε : Type w}

/-- Visits, with a measure that lets them end. -/
structure Traversal (α : Type u) (β : Type v) (ε : Type w) where
  visit : α → Except ε (List β × List α)
  weight : α → Nat
  lighter : ∀ {a found children}, visit a = .ok (found, children) →
    (children.map weight).sum < weight a

namespace Traversal

variable (t : Traversal α β ε)

/-- What is found at a stack of items and below them, in the order of the visits. -/
def run : List α → Except ε (List β)
  | [] => .ok []
  | a :: rest =>
    match _visited : t.visit a with
    | .error failure => .error failure
    | .ok (found, children) => (run (children ++ rest)).map (found ++ ·)
termination_by stack => (stack.map t.weight).sum
decreasing_by
  have less := t.lighter _visited
  rw [List.map_append, List.sum_append, List.map_cons, List.sum_cons]
  omega

/-- One item leads to another. -/
def Leads (a b : α) : Prop := ∃ found children, t.visit a = .ok (found, children) ∧ b ∈ children

/-- An item is reached from another. -/
def Below : α → α → Prop := Relation.ReflTransGen t.Leads

/-- An item is reached from a stack. -/
def Reached (stack : List α) (a : α) : Prop := ∃ top ∈ stack, t.Below top a

variable {t}

/-- What is below an item is the item, or below one that it leads to. -/
theorem below_iff {a b : α} {found : List β} {children : List α}
    (visited : t.visit a = .ok (found, children)) :
    t.Below a b ↔ b = a ∨ t.Reached children b := by
  rw [Below, Relation.ReflTransGen.cases_head_iff]
  constructor
  · rintro (rfl | ⟨child, ⟨found', children', same, isChild⟩, below⟩)
    · exact .inl rfl
    · rw [visited] at same
      cases same
      exact .inr ⟨child, isChild, below⟩
  · rintro (rfl | ⟨child, isChild, below⟩)
    · exact .inl rfl
    · exact .inr ⟨child, ⟨found, children, visited, isChild⟩, below⟩

/-- What a stack reaches is what is popped and what the pushed stack reaches. -/
theorem reached_cons {a b : α} {rest : List α} {found : List β} {children : List α}
    (visited : t.visit a = .ok (found, children)) :
    t.Reached (a :: rest) b ↔ b = a ∨ t.Reached (children ++ rest) b := by
  simp only [Reached, List.mem_cons, List.mem_append, or_and_right, exists_or, exists_eq_left,
    below_iff visited, or_assoc]

/-- A traversal ends well just where every visit that is reached does. -/
theorem exists_run_iff {stack : List α} :
    (∃ out, t.run stack = .ok out) ↔
      ∀ a, t.Reached stack a → ∃ visited, t.visit a = .ok visited := by
  fun_induction t.run stack with
  | case1 => simp [Reached]
  | case2 a rest failure visited =>
    constructor
    · rintro ⟨out, same⟩
      cases same
    · intro all
      obtain ⟨other, same⟩ := all a ⟨a, List.mem_cons_self, .refl⟩
      rw [visited] at same
      cases same
  | case3 a rest found children visited ih =>
    have ends : (∃ out, (t.run (children ++ rest)).map (found ++ ·) = .ok out) ↔
        ∃ out, t.run (children ++ rest) = .ok out := by
      cases t.run (children ++ rest) <;> simp [Except.map]
    rw [ends, ih]
    simp only [reached_cons visited, forall_eq_or_imp]
    exact ⟨fun later => ⟨⟨_, visited⟩, later⟩, And.right⟩

/-- What a traversal finds is what is found at the items that are reached. -/
theorem mem_run {stack : List α} {out : List β} (ran : t.run stack = .ok out) {b : β} :
    b ∈ out ↔ ∃ a, t.Reached stack a ∧
      ∃ found children, t.visit a = .ok (found, children) ∧ b ∈ found := by
  fun_induction t.run stack generalizing out with
  | case1 =>
    cases ran
    simp [Reached]
  | case2 => cases ran
  | case3 a rest found children visited ih =>
    cases later : t.run (children ++ rest) with
    | error failure =>
      rw [later] at ran
      cases ran
    | ok others =>
      rw [later] at ran
      cases ran
      have here : (∃ found' children', t.visit a = .ok (found', children') ∧ b ∈ found') ↔
          b ∈ found := by
        simp [visited]
      rw [List.mem_append, ih later]
      simp only [reached_cons visited, or_and_right, exists_or, exists_eq_left, here]

end Traversal

end Worklist
