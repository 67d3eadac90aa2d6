import Mathlib.Data.List.Sort
import Mathlib.Data.Prod.Lex

/-!
# Ordering a list by a key

`sortedByKey key` is the stable sort of a list by a key in a linear order.  What its users
need is that it keeps the elements (`sortedByKey_perm`) and that it is idempotent
(`sortedByKey_idem`), so a list that was sorted once passes a check that sorts it again.  A part of
a sorted list is sorted as it would be alone (`sortedByKey_filter`), and what is appended to a
sorted list is sorted with it as with the list itself (`sortedByKey_append`).
-/

namespace KeyOrder

universe u v

variable {α : Type u} {κ : Type v} [LinearOrder κ]

/-- The stable sort of a list by `key`. -/
def sortedByKey (key : α → κ) (items : List α) : List α :=
  items.insertionSort fun a b => key a ≤ key b

theorem sortedByKey_perm (key : α → κ) (items : List α) :
    (sortedByKey key items).Perm items :=
  List.perm_insertionSort _ items

@[simp]
theorem mem_sortedByKey (key : α → κ) (items : List α) (a : α) :
    a ∈ sortedByKey key items ↔ a ∈ items :=
  (sortedByKey_perm key items).mem_iff

theorem sortedByKey_pairwise (key : α → κ) (items : List α) :
    (sortedByKey key items).Pairwise fun a b => key a ≤ key b := by
  have total : Std.Total fun a b : α => key a ≤ key b := ⟨fun a b => le_total (key a) (key b)⟩
  have transitive : IsTrans α fun a b => key a ≤ key b := ⟨fun _ _ _ => le_trans⟩
  exact List.pairwise_insertionSort _ items

/-- Sorting a sorted list changes nothing. -/
theorem sortedByKey_idem (key : α → κ) (items : List α) :
    sortedByKey key (sortedByKey key items) = sortedByKey key items :=
  (sortedByKey_pairwise key items).insertionSort_eq

/-- The part of a sorted list that is kept is sorted as it would be alone. -/
theorem sortedByKey_filter (key : α → κ) (keep : α → Bool) (items : List α) :
    (sortedByKey key items).filter keep = sortedByKey key (items.filter keep) := by
  have inserted : ∀ (item : α) (sorted : List α), (sorted.Pairwise fun a b => key a ≤ key b) →
      (sorted.orderedInsert (fun a b => key a ≤ key b) item).filter keep =
        if keep item then
          (sorted.filter keep).orderedInsert (fun a b => key a ≤ key b) item
        else sorted.filter keep := by
    intro item sorted ordered
    induction sorted with
    | nil => simp [List.filter_cons]
    | cons first rest ih =>
      obtain ⟨least, ordered⟩ := List.pairwise_cons.mp ordered
      rw [List.orderedInsert]
      split
      next before =>
        by_cases kept : keep item
        · -- What is inserted first is first among what is kept, too.
          rw [List.filter_cons_of_pos kept, if_pos kept]
          cases among : (first :: rest).filter keep with
          | nil => rfl
          | cons other later =>
            have isItem : other ∈ (first :: rest).filter keep := by
              rw [among]
              exact List.mem_cons_self
            have after : key item ≤ key other := by
              rcases List.mem_cons.mp (List.mem_of_mem_filter isItem) with rfl | isLater
              · exact before
              · exact le_trans before (least other isLater)
            rw [List.orderedInsert, if_pos after]
        · rw [List.filter_cons_of_neg kept, if_neg kept]
      next after =>
        by_cases keptFirst : keep first
        · rw [List.filter_cons_of_pos keptFirst, List.filter_cons_of_pos keptFirst, ih ordered]
          by_cases kept : keep item
          · rw [if_pos kept, if_pos kept, List.orderedInsert, if_neg after]
          · rw [if_neg kept, if_neg kept]
        · rw [List.filter_cons_of_neg keptFirst, List.filter_cons_of_neg keptFirst, ih ordered]
  induction items with
  | nil => rfl
  | cons item rest ih =>
    have step : sortedByKey key (item :: rest) =
        (sortedByKey key rest).orderedInsert (fun a b => key a ≤ key b) item := rfl
    rw [step, inserted item _ (sortedByKey_pairwise key rest), ih]
    by_cases kept : keep item
    · rw [if_pos kept, List.filter_cons_of_pos kept]
      rfl
    · rw [if_neg kept, List.filter_cons_of_neg kept]

/-- Sorted lists that hold the same items of every key are equal. -/
theorem eq_of_alike {key : α → κ} {items others : List α}
    (ordered : items.Pairwise fun a b => key a ≤ key b)
    (ordered' : others.Pairwise fun a b => key a ≤ key b)
    (alike : ∀ k, items.filter (key · = k) = others.filter (key · = k)) : items = others := by
  have shared : ∀ a, a ∈ items ↔ a ∈ others := by
    intro a
    have same : a ∈ items.filter (key · = key a) ↔ a ∈ others.filter (key · = key a) := by
      rw [alike]
    simpa [List.mem_filter] using same
  induction items generalizing others with
  | nil => exact (List.eq_nil_iff_forall_not_mem.mpr fun a isOther => by
      cases (shared a).mpr isOther).symm
  | cons first rest ih =>
    cases others with
    | nil => cases (shared first).mp List.mem_cons_self
    | cons first' rest' =>
      obtain ⟨least, orderedRest⟩ := List.pairwise_cons.mp ordered
      obtain ⟨least', orderedRest'⟩ := List.pairwise_cons.mp ordered'
      have below : key first ≤ key first' := by
        rcases List.mem_cons.mp ((shared first').mpr List.mem_cons_self) with same | isRest
        · rw [same]
        · exact least first' isRest
      have above : key first' ≤ key first := by
        rcases List.mem_cons.mp ((shared first).mp List.mem_cons_self) with same | isRest
        · rw [same]
        · exact least' first isRest
      have sameKey : key first' = key first := le_antisymm above below
      have heads := alike (key first)
      rw [List.filter_cons_of_pos (by simp), List.filter_cons_of_pos (by simp [sameKey])] at heads
      obtain ⟨rfl, -⟩ := List.cons.inj heads
      have tails : ∀ k, rest.filter (key · = k) = rest'.filter (key · = k) := by
        intro k
        have both := alike k
        rw [List.filter_cons, List.filter_cons] at both
        split at both
        next => exact (List.cons.inj both).2
        next => exact both
      refine congrArg _ (ih orderedRest orderedRest' tails fun a => ?_)
      have same : a ∈ rest.filter (key · = key a) ↔ a ∈ rest'.filter (key · = key a) := by
        rw [tails]
      simpa [List.mem_filter] using same

/-- A list of which a part was sorted before is sorted as it would be otherwise. -/
theorem sortedByKey_append (key : α → κ) (items more : List α) :
    sortedByKey key (sortedByKey key items ++ more) = sortedByKey key (items ++ more) := by
  refine eq_of_alike (sortedByKey_pairwise _ _) (sortedByKey_pairwise _ _) fun k => ?_
  have constant : sortedByKey key (items.filter (key · = k)) = items.filter (key · = k) := by
    refine List.Pairwise.insertionSort_eq (List.pairwise_of_forall_mem_list fun a isA b isB => ?_)
    have atA : key a = k := by simpa using (List.mem_filter.mp isA).2
    have atB : key b = k := by simpa using (List.mem_filter.mp isB).2
    rw [atA, atB]
  rw [sortedByKey_filter, sortedByKey_filter, List.filter_append, List.filter_append,
    sortedByKey_filter, constant]

/-- The order that items with distinct keys are sorted into is that of their keys. -/
theorem sortedByKey_eq_of_perm {key : α → κ} {items others : List α}
    (distinct : (items.map key).Nodup) (perm : items.Perm others) :
    sortedByKey key items = sortedByKey key others := by
  refine List.Perm.eq_of_pairwise (fun a b isA isB before after => ?_) (sortedByKey_pairwise _ _)
    (sortedByKey_pairwise _ _)
    (((sortedByKey_perm _ _).trans perm).trans (sortedByKey_perm _ _).symm)
  rw [mem_sortedByKey] at isA isB
  exact List.inj_on_of_nodup_map distinct isA (perm.mem_iff.mpr isB) (le_antisymm before after)

/-- Items that a key tells apart are sorted into one order. -/
theorem sortedByKey_eq_of_injective {key : α → κ} (injective : Function.Injective key)
    {items others : List α} (perm : items.Perm others) :
    sortedByKey key items = sortedByKey key others :=
  List.Perm.eq_of_pairwise (fun _ _ _ _ before after => injective (le_antisymm before after))
    (sortedByKey_pairwise _ _) (sortedByKey_pairwise _ _)
    (((sortedByKey_perm _ _).trans perm).trans (sortedByKey_perm _ _).symm)

omit [LinearOrder κ] in
/-- Entries with the same distinct keys, in their order, are the same. -/
theorem eq_of_perm_of_keys {entries others : List (κ × α)} (perm : entries.Perm others)
    (keys : entries.map Prod.fst = others.map Prod.fst)
    (distinct : (entries.map Prod.fst).Nodup) : entries = others := by
  induction entries generalizing others with
  | nil => exact (List.nil_perm.mp perm).symm
  | cons entry rest ih =>
    cases others with
    | nil => cases keys
    | cons other later =>
      rw [List.map_cons, List.map_cons] at keys
      obtain ⟨sameKey, laterKeys⟩ := List.cons.inj keys
      rw [List.map_cons, List.nodup_cons] at distinct
      rcases List.mem_cons.mp (perm.subset List.mem_cons_self) with rfl | isLater
      · rw [ih perm.cons_inv laterKeys distinct.2]
      · exact absurd (laterKeys ▸ List.mem_map_of_mem isLater) distinct.1

omit [LinearOrder κ] in
/-- The groups that a key makes of a list hold its items. -/
theorem flatMap_groups_perm [DecidableEq κ] {key : α → κ} {keys : List κ} {items : List α}
    (distinct : keys.Nodup) (known : ∀ item ∈ items, key item ∈ keys) :
    (keys.flatMap fun k => items.filter (key · = k)).Perm items := by
  induction keys generalizing items with
  | nil =>
    rw [List.eq_nil_iff_forall_not_mem.mpr fun item isItem => List.not_mem_nil (known item isItem)]
    exact List.Perm.refl _
  | cons first rest ih =>
    obtain ⟨fresh, distinct⟩ := List.nodup_cons.mp distinct
    have others : (rest.flatMap fun k => items.filter (key · = k)) =
        rest.flatMap fun k => (items.filter (¬ key · = first)).filter (key · = k) := by
      refine List.flatMap_congr fun k isRest => ?_
      rw [List.filter_filter]
      refine List.filter_congr fun item _ => ?_
      by_cases same : key item = k
      · subst same
        have different : key item ≠ first := fun same => fresh (same ▸ isRest)
        simp [different]
      · simp [same]
    rw [List.flatMap_cons, others]
    have remain : ∀ item ∈ items.filter (¬ key · = first), key item ∈ rest := by
      intro item isItem
      obtain ⟨isItem, different⟩ := List.mem_filter.mp isItem
      exact (List.mem_cons.mp (known item isItem)).resolve_left (of_decide_eq_true different)
    have later := ih distinct remain
    refine (later.append_left _).trans ?_
    simpa using List.filter_append_perm (fun item => decide (key item = first)) items

/-- Lists that a map takes to lists of one order are sorted alike. -/
theorem map_sortedByKey {β : Type*} {key : α → κ} {otherKey : β → κ} {f : α → β}
    {items : List α}
    (alike : ∀ a ∈ items, ∀ b ∈ items, key a ≤ key b ↔ otherKey (f a) ≤ otherKey (f b)) :
    (sortedByKey key items).map f = sortedByKey otherKey (items.map f) :=
  List.map_insertionSort _ _ f items alike

end KeyOrder
