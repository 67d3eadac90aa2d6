import Mathlib.Data.String.Basic

/-!
# Parts between separators

A text of several parts with a separator between them tells its first part where that part holds no
separator (`first_inj`), and its last part likewise (`last_inj`).
-/

namespace Separated

universe u

section

variable {α : Type u} {separator : α} {a b c d : List α}

/-- The first part of a text, where it has no separator, and what is after it. -/
theorem first_inj (plain : separator ∉ a) (plain' : separator ∉ b)
    (same : a ++ separator :: c = b ++ separator :: d) : a = b ∧ c = d := by
  induction a generalizing b with
  | nil =>
    cases b with
    | nil => exact ⟨rfl, (List.cons.inj same).2⟩
    | cons y b =>
      rw [(List.cons.inj same).1] at plain'
      exact absurd List.mem_cons_self plain'
  | cons x a ih =>
    cases b with
    | nil =>
      rw [← (List.cons.inj same).1] at plain
      exact absurd List.mem_cons_self plain
    | cons y b =>
      obtain ⟨rfl, rest⟩ := List.cons.inj same
      obtain ⟨rfl, rfl⟩ := ih (fun listed => plain (List.mem_cons_of_mem _ listed))
        (fun listed => plain' (List.mem_cons_of_mem _ listed)) rest
      exact ⟨rfl, rfl⟩

/-- The last part of a text, where it has no separator, and what is before it. -/
theorem last_inj (plain : separator ∉ c) (plain' : separator ∉ d)
    (same : a ++ separator :: c = b ++ separator :: d) : a = b ∧ c = d := by
  have reversed := congrArg List.reverse same
  simp only [List.reverse_append, List.reverse_cons, List.append_assoc, List.singleton_append]
    at reversed
  obtain ⟨last, first⟩ := first_inj (by simpa using plain) (by simpa using plain') reversed
  exact ⟨List.reverse_injective first, List.reverse_injective last⟩

end

section

variable {separator : String} {c : Char} {x y : String} {xs ys : List String}

/-- The first of several joined parts, and the rest. -/
theorem intercalate_cons_inj (isChar : separator.toList = [c]) (nonempty : xs ≠ [])
    (nonempty' : ys ≠ []) (plain : c ∉ x.toList) (plain' : c ∉ y.toList)
    (same : String.intercalate separator (x :: xs) = String.intercalate separator (y :: ys)) :
    x = y ∧ String.intercalate separator xs = String.intercalate separator ys := by
  rw [String.intercalate_cons_of_ne_nil nonempty, String.intercalate_cons_of_ne_nil nonempty'] at same
  have chars := congrArg String.toList same
  simp only [String.toList_append, isChar, List.append_assoc, List.singleton_append] at chars
  obtain ⟨first, rest⟩ := first_inj plain plain' chars
  exact ⟨String.toList_inj.mp first, String.toList_inj.mp rest⟩

theorem intercalate_pair (separator x y : String) :
    String.intercalate separator [x, y] = x ++ separator ++ y := by
  rw [String.intercalate_cons_of_ne_nil (List.cons_ne_nil _ _), String.intercalate_singleton]

/-- The last of two joined parts, and the first. -/
theorem intercalate_pair_inj {x' y' : String} (isChar : separator.toList = [c])
    (plain : c ∉ x'.toList) (plain' : c ∉ y'.toList)
    (same : String.intercalate separator [x, x'] = String.intercalate separator [y, y']) :
    x = y ∧ x' = y' := by
  rw [intercalate_pair, intercalate_pair] at same
  have chars := congrArg String.toList same
  simp only [String.toList_append, isChar, List.append_assoc, List.singleton_append] at chars
  obtain ⟨first, rest⟩ := last_inj plain plain' chars
  exact ⟨String.toList_inj.mp first, String.toList_inj.mp rest⟩

end

end Separated
