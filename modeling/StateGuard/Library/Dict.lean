import Mathlib.Data.List.Nodup
import Mathlib.Data.List.Induction
import StateGuard.Library.Checks

/-!
# Insertion-ordered dictionaries

A dictionary keeps its entries in the order their keys were first inserted; setting a key
that is present replaces its value in place, so the last value wins and the first position
stays.  `Dict` carries the distinctness of its keys as a field.

`get?_set` is the law of one update.  A dictionary built from a list of pairs has the keys
of the list (`mem_keys_ofList`), every value comes from a pair (`mem_of_get?_ofList`), and a
list with distinct keys is kept as it is (`ofList_entries`).

`record` collects entries one by one and raises on a key it has seen; it succeeds exactly when
the entries build and their keys are new and distinct (`record_eq_ok`).

`group` collects triples into a dictionary of dictionaries, one for each first key; what it
holds at two keys is the last value listed for them (`get?_group`).
-/

universe u v

/-- A dictionary: its entries in insertion order, with distinct keys. -/
structure Dict (κ : Type u) (α : Type v) where
  entries : List (κ × α)
  /-- No key occurs twice. -/
  nodup : (entries.map Prod.fst).Nodup

namespace Dict

variable {κ : Type u} {α : Type v}

/-- The dictionary without entries. -/
def empty : Dict κ α := ⟨[], List.nodup_nil⟩

/-- The keys, in insertion order. -/
def keys (d : Dict κ α) : List κ := d.entries.map Prod.fst

/-- The values, in insertion order of their keys. -/
def values (d : Dict κ α) : List α := d.entries.map Prod.snd

theorem keys_nodup (d : Dict κ α) : d.keys.Nodup := d.nodup

@[simp]
theorem keys_empty : (empty : Dict κ α).keys = [] := rfl

variable [DecidableEq κ]

/-- The value at a key. -/
def get? (d : Dict κ α) (key : κ) : Option α :=
  (d.entries.find? (·.1 = key)).map Prod.snd

/-- Replace the value of every entry with the given key. -/
def replace (key : κ) (value : α) (entries : List (κ × α)) : List (κ × α) :=
  entries.map fun entry => if entry.1 = key then (key, value) else entry

@[simp]
theorem replace_keys (key : κ) (value : α) (entries : List (κ × α)) :
    (replace key value entries).map Prod.fst = entries.map Prod.fst := by
  unfold replace
  rw [List.map_map]
  refine List.map_congr_left fun entry _ => ?_
  by_cases same : entry.1 = key <;> simp [same]

/-- Set a key: in place when it is present, at the end otherwise. -/
def set (d : Dict κ α) (key : κ) (value : α) : Dict κ α :=
  if present : key ∈ d.keys then
    ⟨replace key value d.entries, by rw [replace_keys]; exact d.nodup⟩
  else
    ⟨d.entries ++ [(key, value)], by
      rw [List.map_append]
      refine d.nodup.append (List.nodup_singleton _) ?_
      simpa [List.disjoint_right, keys] using present⟩

/-- Build a dictionary by setting the pairs of a list in order. -/
def ofList (pairs : List (κ × α)) : Dict κ α :=
  pairs.foldl (fun d pair => d.set pair.1 pair.2) empty

/-! ## One update -/

theorem keys_set (d : Dict κ α) (key : κ) (value : α) :
    (d.set key value).keys = if key ∈ d.keys then d.keys else d.keys ++ [key] := by
  unfold set
  split
  next => exact replace_keys key value d.entries
  next => simp [keys]

theorem entries_set_of_absent {d : Dict κ α} {key : κ} (absent : key ∉ d.keys) (value : α) :
    (d.set key value).entries = d.entries ++ [(key, value)] := by
  rw [set, dif_neg absent]

@[simp]
theorem mem_keys_set (d : Dict κ α) (key other : κ) (value : α) :
    other ∈ (d.set key value).keys ↔ other = key ∨ other ∈ d.keys := by
  rw [keys_set]
  split
  next present =>
    refine ⟨.inr, fun membership => ?_⟩
    rcases membership with rfl | membership
    · exact present
    · exact membership
  next absent => simp [or_comm]

theorem find?_replace (key other : κ) (value : α) (entries : List (κ × α)) :
    ((replace key value entries).find? (·.1 = other)).map Prod.snd =
      if other = key ∧ key ∈ entries.map Prod.fst then some value
      else (entries.find? (·.1 = other)).map Prod.snd := by
  induction entries with
  | nil => simp [replace]
  | cons entry rest ih =>
    rw [replace, List.map_cons, ← replace]
    by_cases here : entry.1 = key
    · by_cases same : other = key
      · subst same
        simp [here]
      · have differs : ¬ key = other := fun equal => same equal.symm
        simp [here, same, differs, ih]
    · by_cases same : other = key
      · subst same
        have elsewhere : ¬ other = entry.1 := fun equal => here equal.symm
        simp only [here, List.find?_cons, decide_false, List.map_cons, List.mem_cons,
          elsewhere, false_or, if_false]
        simpa only [true_and] using ih
      · by_cases first : entry.1 = other
        · simp [same, first]
        · simp [here, same, first, ih]

/-- The value at a key after one update. -/
theorem get?_set (d : Dict κ α) (key other : κ) (value : α) :
    (d.set key value).get? other = if other = key then some value else d.get? other := by
  unfold set get?
  split
  next present =>
    rw [find?_replace]
    simp only [keys] at present
    simp [present]
  next absent =>
    rw [List.find?_append]
    by_cases same : other = key
    · subst same
      have missing : d.entries.find? (·.1 = other) = none := by
        rw [List.find?_eq_none]
        intro entry membership
        simp only [decide_eq_true_eq]
        rintro rfl
        exact absent (List.mem_map_of_mem membership)
      simp [missing]
    · have differs : ¬ key = other := fun equal => same equal.symm
      simp [same, differs]

theorem isSome_get? (d : Dict κ α) (key : κ) : (d.get? key).isSome ↔ key ∈ d.keys := by
  simp [get?, keys, List.find?_isSome]

theorem get?_eq_none (d : Dict κ α) (key : κ) : d.get? key = none ↔ key ∉ d.keys := by
  rw [← isSome_get?, Option.not_isSome_iff_eq_none]

theorem exists_get? {d : Dict κ α} {key : κ} (membership : key ∈ d.keys) :
    ∃ value, d.get? key = some value :=
  Option.isSome_iff_exists.mp ((d.isSome_get? key).mpr membership)

theorem mem_entries_of_get? {d : Dict κ α} {key : κ} {value : α}
    (found : d.get? key = some value) : (key, value) ∈ d.entries := by
  unfold get? at found
  obtain ⟨entry, located, rfl⟩ := Option.map_eq_some_iff.mp found
  have same : entry.1 = key := by simpa using List.find?_some located
  subst same
  exact List.mem_of_find?_eq_some located

theorem mem_keys_of_get? {d : Dict κ α} {key : κ} {value : α}
    (found : d.get? key = some value) : key ∈ d.keys :=
  List.mem_map_of_mem (mem_entries_of_get? found)

/-- A key has at most one entry, so an entry is the value at its key. -/
theorem get?_of_mem_entries {d : Dict κ α} {key : κ} {value : α}
    (membership : (key, value) ∈ d.entries) : d.get? key = some value := by
  obtain ⟨other, found⟩ : ∃ other, d.get? key = some other :=
    exists_get? (List.mem_map_of_mem membership)
  have entry := mem_entries_of_get? found
  have same := List.inj_on_of_nodup_map d.nodup entry membership rfl
  rw [found, (Prod.mk.inj same).2]

/-! ## A dictionary of pairs -/

theorem ofList_append (pairs : List (κ × α)) (pair : κ × α) :
    ofList (pairs ++ [pair]) = (ofList pairs).set pair.1 pair.2 := by
  simp [ofList]

@[simp]
theorem mem_keys_ofList (pairs : List (κ × α)) (key : κ) :
    key ∈ (ofList pairs).keys ↔ key ∈ pairs.map Prod.fst := by
  induction pairs using List.reverseRecOn with
  | nil => simp [ofList]
  | append_singleton pairs pair ih =>
    rw [ofList_append, mem_keys_set, ih]
    simp [or_comm, eq_comm]

/-- Every value of the dictionary comes from a pair of the list. -/
theorem mem_of_get?_ofList {pairs : List (κ × α)} {key : κ} {value : α}
    (found : (ofList pairs).get? key = some value) : (key, value) ∈ pairs := by
  induction pairs using List.reverseRecOn with
  | nil => simp [ofList, get?, empty] at found
  | append_singleton pairs pair ih =>
    rw [ofList_append, get?_set] at found
    split at found
    next same =>
      simp only [Option.some.injEq] at found
      subst same found
      simp
    next => exact List.mem_append_left _ (ih found)

/-- A list with distinct keys is its dictionary's entries. -/
theorem ofList_entries {pairs : List (κ × α)} (distinct : (pairs.map Prod.fst).Nodup) :
    (ofList pairs).entries = pairs := by
  induction pairs using List.reverseRecOn with
  | nil => rfl
  | append_singleton pairs pair ih =>
    rw [List.map_append] at distinct
    have earlier := List.Nodup.of_append_left distinct
    have fresh : pair.1 ∉ (ofList pairs).keys := by
      rw [mem_keys_ofList]
      intro present
      exact List.disjoint_of_nodup_append distinct present (by simp)
    rw [ofList_append, set, dif_neg fresh]
    exact congrArg (· ++ [pair]) (ih earlier)

theorem mem_values {d : Dict κ α} {value : α} :
    value ∈ d.values ↔ ∃ key, d.get? key = some value := by
  constructor
  · intro membership
    obtain ⟨⟨key, _⟩, isEntry, rfl⟩ := List.mem_map.mp membership
    exact ⟨key, get?_of_mem_entries isEntry⟩
  · rintro ⟨key, found⟩
    exact List.mem_map_of_mem (mem_entries_of_get? found)

/-- When a value's key is determined by the value, the dictionary of a list holds exactly the
values of the list. -/
theorem mem_values_ofList {pairs : List (κ × α)}
    (determined : ∀ one ∈ pairs, ∀ other ∈ pairs, one.1 = other.1 → one.2 = other.2)
    (value : α) : value ∈ (ofList pairs).values ↔ value ∈ pairs.map Prod.snd := by
  rw [mem_values]
  constructor
  · rintro ⟨key, found⟩
    exact List.mem_map_of_mem (mem_of_get?_ofList found)
  · intro membership
    obtain ⟨⟨key, _⟩, isPair, rfl⟩ := List.mem_map.mp membership
    have present : key ∈ (ofList pairs).keys := by
      rw [mem_keys_ofList]
      exact List.mem_map_of_mem isPair
    obtain ⟨other, found⟩ := exists_get? present
    have same := determined _ (mem_of_get?_ofList found) _ isPair rfl
    exact ⟨key, by rw [found]; exact congrArg some same⟩

/-! ## Recording -/

section Recording

open Checks

variable {ε γ κ α : Type} [DecidableEq κ]

/-- Record the entries of a list in order; a key that is recorded already raises. -/
def record (entry : γ → Except ε (κ × α)) (duplicate : ε) :
    List γ → Dict κ α → Except ε (Dict κ α)
  | [], recorded => .ok recorded
  | item :: rest, recorded => do
    let (key, value) ← entry item
    raiseIf (key ∈ recorded.keys) duplicate
    record entry duplicate rest (recorded.set key value)

/-- Recording succeeds on the entries of the list when their keys are new and distinct. -/
theorem record_eq_ok {entry : γ → Except ε (κ × α)} {duplicate : ε} {items : List γ}
    {recorded result : Dict κ α} :
    record entry duplicate items recorded = .ok result ↔
      ∃ pairs, collect entry items = .ok pairs ∧
        (recorded.keys ++ pairs.map Prod.fst).Nodup ∧
        result.entries = recorded.entries ++ pairs := by
  induction items generalizing recorded with
  | nil =>
    simp only [record, collect, Except.ok.injEq, exists_eq_left', List.map_nil, List.append_nil,
      recorded.keys_nodup, true_and]
    constructor
    · rintro rfl
      rfl
    · intro same
      cases recorded
      cases result
      cases same
      rfl
  | cons item rest ih =>
    simp only [record, collect, bind_eq_ok, raiseIf_eq_ok, pure_eq_ok, exists_unit]
    constructor
    · rintro ⟨⟨key, value⟩, isEntry, absent, recordedRest⟩
      obtain ⟨pairs, collected, distinct, entries⟩ := ih.mp recordedRest
      rw [keys_set, if_neg absent] at distinct
      rw [entries_set_of_absent absent] at entries
      refine ⟨(key, value) :: pairs, ⟨_, isEntry, pairs, collected, rfl⟩, ?_, ?_⟩
      · simpa using distinct
      · simpa using entries
    · rintro ⟨_, ⟨⟨key, value⟩, isEntry, pairs, collected, rfl⟩, distinct, entries⟩
      have absent : key ∉ recorded.keys := fun present =>
        (List.nodup_append.mp distinct).2.2 key present key (by simp) rfl
      refine ⟨(key, value), isEntry, absent, ih.mpr ⟨pairs, collected, ?_, ?_⟩⟩
      · rw [keys_set, if_neg absent]
        simpa using distinct
      · rw [entries_set_of_absent absent]
        simpa using entries

end Recording

/-! ## Grouping by two keys -/

variable {ι : Type*} [DecidableEq ι]

/-- Collect triples by their first key, each group a dictionary by the second one: the loop
`groups.setdefault(first, {})[second] = value`. -/
def group (triples : List (κ × ι × α)) : Dict κ (Dict ι α) :=
  triples.foldl
    (fun groups triple =>
      groups.set triple.1 (((groups.get? triple.1).getD empty).set triple.2.1 triple.2.2))
    empty

/-- The values listed for two keys, in order. -/
def listed (triples : List (κ × ι × α)) (first : κ) (second : ι) : List α :=
  (triples.filter fun triple => triple.1 = first ∧ triple.2.1 = second).map fun triple =>
    triple.2.2

theorem mem_listed {triples : List (κ × ι × α)} {first : κ} {second : ι} {value : α} :
    value ∈ listed triples first second ↔ (first, second, value) ∈ triples := by
  constructor
  · intro membership
    obtain ⟨⟨_, _, _⟩, selected, rfl⟩ := List.mem_map.mp membership
    obtain ⟨isTriple, same⟩ := List.mem_filter.mp selected
    simp only [decide_eq_true_eq] at same
    obtain ⟨rfl, rfl⟩ := same
    exact isTriple
  · intro isTriple
    exact List.mem_map.mpr ⟨_, List.mem_filter.mpr ⟨isTriple, by simp⟩, rfl⟩

theorem group_append (triples : List (κ × ι × α)) (triple : κ × ι × α) :
    group (triples ++ [triple]) =
      (group triples).set triple.1
        ((((group triples).get? triple.1).getD empty).set triple.2.1 triple.2.2) := by
  simp [group]

/-- A group holds the last value listed for its keys. -/
theorem get?_group (triples : List (κ × ι × α)) (first : κ) (second : ι) :
    (((group triples).get? first).getD empty).get? second =
      (listed triples first second).getLast? := by
  induction triples using List.reverseRecOn with
  | nil => rfl
  | append_singleton triples triple ih =>
    rw [group_append, get?_set, listed, List.filter_append, List.map_append, ← listed]
    by_cases here : first = triple.1
    · subst here
      rw [if_pos rfl, Option.getD_some, get?_set]
      by_cases same : second = triple.2.1
      · subst same
        simp
      · have differs : ¬ triple.2.1 = second := fun equal => same equal.symm
        simp [same, differs, ih]
    · have differs : ¬ triple.1 = first := fun equal => here equal.symm
      simp [here, differs, ih]

/-- A first key has a group when a triple lists it. -/
theorem mem_keys_group (triples : List (κ × ι × α)) (first : κ) :
    first ∈ (group triples).keys ↔ first ∈ triples.map Prod.fst := by
  induction triples using List.reverseRecOn with
  | nil => simp [group]
  | append_singleton triples triple ih =>
    rw [group_append, mem_keys_set, ih]
    simp [or_comm]

/-- What a group holds at a second key. -/
theorem get?_of_get?_group {triples : List (κ × ι × α)} {first : κ} {values : Dict ι α}
    (found : (group triples).get? first = some values) (second : ι) :
    values.get? second = (listed triples first second).getLast? := by
  rw [← get?_group, found, Option.getD_some]

end Dict

/-! ## Lists with distinct keys -/

section DistinctKeys

variable {κ α : Type} [DecidableEq κ]

/-- Among distinct keys an element is found under its own. -/
theorem find?_of_distinct {items : List α} {key : α → κ} (distinct : (items.map key).Nodup)
    {item : α} (membership : item ∈ items) :
    items.find? (fun other => key other = key item) = some item := by
  obtain ⟨other, found⟩ :
      ∃ other, items.find? (fun other => key other = key item) = some other := by
    rw [← Option.isSome_iff_exists, List.find?_isSome]
    exact ⟨item, membership, by simp⟩
  have same : key other = key item := by simpa using List.find?_some found
  rw [found, List.inj_on_of_nodup_map distinct (List.mem_of_find?_eq_some found) membership same]

/-- Among distinct keys an element is the only one with its own. -/
theorem filter_of_distinct {items : List α} {key : α → κ} (distinct : (items.map key).Nodup)
    {item : α} (membership : item ∈ items) :
    items.filter (fun other => key other = key item) = [item] := by
  have unique : (items.filter fun other => key other = key item).Nodup :=
    (List.Nodup.of_map key distinct).filter _
  refine List.perm_singleton.mp
    ((List.perm_ext_iff_of_nodup unique (List.nodup_singleton _)).mpr fun other => ?_)
  rw [List.mem_filter, List.mem_singleton, decide_eq_true_eq]
  constructor
  · rintro ⟨isItem, same⟩
    exact List.inj_on_of_nodup_map distinct isItem membership same
  · rintro rfl
    exact ⟨membership, rfl⟩

/-- The elements of a list that a sublist has are the sublist. -/
theorem filter_mem_of_sublist {chosen all : List κ} (sublist : chosen.Sublist all)
    (distinct : all.Nodup) : all.filter (· ∈ chosen) = chosen := by
  induction sublist with
  | slnil => rfl
  | cons head rest ih =>
    obtain ⟨absent, distinct⟩ := List.nodup_cons.mp distinct
    rw [List.filter_cons_of_neg, ih distinct]
    simpa using fun membership => absent (rest.subset membership)
  | cons_cons head rest ih =>
    obtain ⟨absent, distinct⟩ := List.nodup_cons.mp distinct
    rw [List.filter_cons_of_pos (by simp), List.cons.injEq]
    refine ⟨rfl, Eq.trans (List.filter_congr fun other membership => ?_) (ih distinct)⟩
    have other_ne : other ≠ head := fun same => absent (same ▸ membership)
    simp [other_ne]

omit [DecidableEq κ] in
/-- A concatenation of lists that their key tells apart has no duplicates when none of them
has. -/
theorem nodup_flatMap_of_distinct {β : Type} {items : List α} {key : α → κ}
    (distinct : (items.map key).Nodup) (keyOf : β → κ) {f : α → List β}
    (keyed : ∀ item ∈ items, ∀ b ∈ f item, keyOf b = key item) :
    (items.flatMap f).Nodup ↔ ∀ item ∈ items, (f item).Nodup := by
  rw [List.nodup_flatMap, and_iff_left]
  refine (List.pairwise_map.mp distinct).imp_of_mem fun {one other} isOne isOther differs => ?_
  intro b inOne inOther
  exact differs ((keyed one isOne b inOne).symm.trans (keyed other isOther b inOther))

end DistinctKeys
