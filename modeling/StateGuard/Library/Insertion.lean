import Mathlib.Data.List.Perm.Basic

/-!
# Items put in between

A list may have more items put between its own (`Inserts`).  What keeps none of the new items
keeps the same of both lists, and two folds that each skip what is not kept run side by side
(`foldl_related`).
-/

namespace Insertion

universe u v w

variable {α : Type u}

/-- A list with `added` put between the items of another. -/
structure Inserts (original added extended : List α) : Prop where
  sublist : original.Sublist extended
  perm : extended.Perm (original ++ added)

namespace Inserts

variable {original added extended : List α} (inserts : Inserts original added extended)

include inserts

theorem mem_iff {a : α} : a ∈ extended ↔ a ∈ original ∨ a ∈ added := by
  rw [inserts.perm.mem_iff, List.mem_append]

/-- What keeps no new item keeps the same of both lists. -/
theorem filter_eq {keep : α → Bool} (skips : ∀ a ∈ added, keep a = false) :
    extended.filter keep = original.filter keep := by
  have none : added.filter keep = [] := by
    rw [List.filter_eq_nil_iff]
    intro a isAdded kept
    rw [skips a isAdded] at kept
    cases kept
  have length : (original.filter keep).length = (extended.filter keep).length := by
    rw [(inserts.perm.filter keep).length_eq, List.filter_append, none, List.append_nil]
  exact ((inserts.sublist.filter keep).eq_of_length length).symm

end Inserts

section Folds

variable {σ : Type v} {τ : Type w} {R : σ → τ → Prop} {stepLeft : σ → α → σ}
  {stepRight : τ → α → τ} {keep : α → Bool}

/-- Folds over lists of which the same is kept stay related, where each skips what is not
kept. -/
theorem foldl_related {left right : List α} (same : left.filter keep = right.filter keep)
    (skipLeft : ∀ a ∈ left, keep a = false → ∀ s t, R s t → R (stepLeft s a) t)
    (skipRight : ∀ a ∈ right, keep a = false → ∀ s t, R s t → R s (stepRight t a))
    (both : ∀ a ∈ left, a ∈ right → keep a = true → ∀ s t, R s t →
      R (stepLeft s a) (stepRight t a)) {s : σ} {t : τ} (start : R s t) :
    R (left.foldl stepLeft s) (right.foldl stepRight t) := by
  induction left generalizing right s t with
  | nil =>
    induction right generalizing t with
    | nil => exact start
    | cons b right ih =>
      have skipped : keep b = false := by
        by_contra kept
        rw [List.filter_cons_of_pos (by simpa using kept)] at same
        cases same
      rw [List.filter_cons_of_neg (by simp [skipped])] at same
      refine ih same (fun a isRight => skipRight a (List.mem_cons_of_mem _ isRight)) ?_ ?_
      · intro a isLeft
        cases isLeft
      · exact skipRight b List.mem_cons_self skipped s t start
  | cons a left ih =>
    by_cases kept : keep a = true
    · rw [List.filter_cons_of_pos kept] at same
      induction right generalizing t with
      | nil => cases same
      | cons b right inner =>
        by_cases keptRight : keep b = true
        · rw [List.filter_cons_of_pos keptRight] at same
          obtain ⟨rfl, later⟩ := List.cons.inj same
          refine ih later (fun c isLeft => skipLeft c (List.mem_cons_of_mem _ isLeft))
            (fun c isRight => skipRight c (List.mem_cons_of_mem _ isRight))
            (fun c isLeft isRight => both c (List.mem_cons_of_mem _ isLeft)
              (List.mem_cons_of_mem _ isRight)) ?_
          exact both a List.mem_cons_self List.mem_cons_self kept s t start
        · rw [List.filter_cons_of_neg keptRight] at same
          refine inner same (fun c isRight => skipRight c (List.mem_cons_of_mem _ isRight))
            (fun c isLeft isRight => both c isLeft (List.mem_cons_of_mem _ isRight)) ?_
          exact skipRight b List.mem_cons_self (by simpa using keptRight) s t start
    · rw [List.filter_cons_of_neg kept] at same
      refine ih same (fun c isLeft => skipLeft c (List.mem_cons_of_mem _ isLeft)) skipRight
        (fun c isLeft isRight => both c (List.mem_cons_of_mem _ isLeft) isRight) ?_
      exact skipLeft a List.mem_cons_self (by simpa using kept) s t start

end Folds

end Insertion
