import Mathlib.Data.List.Perm.Subperm

/-!
# First occurrences

A walk that keeps the keys it has met looks at the first occurrence of each key only.  Which
occurrence is the first depends on the order of the list: it may be any of those with the key.

* `mem_firsts_iff` says which elements are first occurrences.
* `exists_mem_firsts` gives each key of the list its first occurrence.
* `mem_firsts_append` says which elements stay first after others.
-/

namespace FirstOccurrence

section

variable {α κ : Type} [DecidableEq κ] (key : α → κ)

/-- The elements whose key is met for the first time, after the keys `seen`. -/
def firsts : List κ → List α → List α
  | _, [] => []
  | seen, item :: rest =>
    if key item ∈ seen then firsts seen rest else item :: firsts (key item :: seen) rest

variable {key} {seen : List κ} {items others : List α} {item : α}

theorem firsts_congr {other : List κ} (same : ∀ k, k ∈ seen ↔ k ∈ other) :
    firsts key seen items = firsts key other items := by
  induction items generalizing seen other with
  | nil => rfl
  | cons head rest ih =>
    simp only [firsts, same (key head)]
    split
    next met => exact ih same
    next first =>
      congr 1
      exact ih fun k => by simp [same k]

theorem firsts_append :
    firsts key seen (items ++ others) =
      firsts key seen items ++ firsts key (items.map key ++ seen) others := by
  induction items generalizing seen with
  | nil => rfl
  | cons head rest ih =>
    simp only [List.cons_append, firsts]
    split
    next met =>
      rw [ih]
      congr 1
      refine firsts_congr fun k => ?_
      simp only [List.map_cons, List.cons_append, List.mem_cons, List.mem_append]
      constructor
      · exact Or.inr
      · rintro (rfl | found)
        · exact .inr met
        · exact found
    next first =>
      rw [ih, List.cons_append]
      congr 2
      refine firsts_congr fun k => ?_
      simp [or_left_comm]

theorem mem_of_mem_firsts (membership : item ∈ firsts key seen items) :
    item ∈ items ∧ key item ∉ seen := by
  induction items generalizing seen with
  | nil => simp [firsts] at membership
  | cons head rest ih =>
    rw [firsts] at membership
    split at membership
    next met =>
      obtain ⟨later, unseen⟩ := ih membership
      exact ⟨.tail head later, unseen⟩
    next first =>
      rcases List.mem_cons.mp membership with rfl | membership
      · exact ⟨.head rest, first⟩
      · obtain ⟨later, unseen⟩ := ih membership
        exact ⟨.tail head later, fun met => unseen (.tail _ met)⟩

/-- An element is a first occurrence when its key is neither seen nor before it. -/
theorem mem_firsts_iff :
    item ∈ firsts key seen items ↔ ∃ before after, items = before ++ item :: after ∧
      key item ∉ before.map key ++ seen := by
  constructor
  · intro membership
    induction items generalizing seen with
    | nil => simp [firsts] at membership
    | cons head rest ih =>
      rw [firsts] at membership
      split at membership
      next met =>
        obtain ⟨before, after, rfl, unmet⟩ := ih membership
        refine ⟨head :: before, after, rfl, ?_⟩
        simp only [List.map_cons, List.cons_append, List.mem_cons, not_or]
        refine ⟨fun same => unmet ?_, unmet⟩
        rw [same]
        exact List.mem_append_right _ met
      next first =>
        rcases List.mem_cons.mp membership with rfl | membership
        · exact ⟨[], rest, rfl, first⟩
        · obtain ⟨before, after, rfl, unmet⟩ := ih membership
          refine ⟨head :: before, after, rfl, ?_⟩
          simp only [List.mem_append, List.mem_cons, not_or] at unmet
          simp [unmet]
  · rintro ⟨before, after, rfl, unmet⟩
    rw [firsts_append]
    refine List.mem_append_right _ ?_
    rw [firsts, if_neg unmet]
    exact .head _

variable (key) in
theorem exists_mem_firsts (membership : item ∈ items) (unseen : key item ∉ seen) :
    ∃ first ∈ firsts key seen items, key first = key item := by
  induction items generalizing seen with
  | nil => cases membership
  | cons head rest ih =>
    rw [firsts]
    split
    next met =>
      rcases List.mem_cons.mp membership with rfl | membership
      · exact absurd met unseen
      · exact ih membership unseen
    next first =>
      by_cases same : key item = key head
      · exact ⟨head, .head _, same.symm⟩
      · have later : item ∈ rest := by
          rcases List.mem_cons.mp membership with rfl | later
          · exact absurd rfl same
          · exact later
        have unseenLater : key item ∉ key head :: seen := by simp [same, unseen]
        obtain ⟨found, isFirst, sameKey⟩ := ih later unseenLater
        exact ⟨found, .tail _ isFirst, sameKey⟩

theorem firsts_nodup : ((firsts key seen items).map key).Nodup := by
  induction items generalizing seen with
  | nil => exact List.nodup_nil
  | cons head rest ih =>
    rw [firsts]
    split
    next met => exact ih
    next first =>
      refine List.nodup_cons.mpr ⟨?_, ih⟩
      intro met
      obtain ⟨later, isFirst, same⟩ := List.mem_map.mp met
      exact (mem_of_mem_firsts isFirst).2 (by simp [same])

/-- A first occurrence of two lists is one of the first list, or its key is not in that list. -/
theorem mem_firsts_append :
    item ∈ firsts key [] (items ++ others) ↔
      item ∈ firsts key [] items ∨ item ∈ firsts key (items.map key) others := by
  rw [firsts_append, List.append_nil, List.mem_append]

end

end FirstOccurrence
