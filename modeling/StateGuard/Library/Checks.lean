import Mathlib.Data.List.Forall2

/-!
# Validators as sequences of checks

A validator is a sequence of guards, each of which raises one message.  It is modelled in
`Except String`: `raiseIf bad message` is one guard, and a validator is a `do` block of
guards, so the first failing guard decides the message.

A validator's specification says when it returns.  `raiseIf_eq_ok` reads one guard,
`bind_eq_ok` splits a sequence, and `forEach_eq_ok` reads a guard applied along a list.
Together they turn `validate x = .ok ()` into the conjunction of the negated guards.
-/

namespace Checks

variable {ε α β γ : Type}

/-- One guard: raise `message` when `bad` holds. -/
def raiseIf (bad : Prop) [Decidable bad] (message : ε) : Except ε Unit :=
  if bad then .error message else .ok ()

@[simp]
theorem raiseIf_eq_ok (bad : Prop) [Decidable bad] (message : ε) (u : Unit) :
    raiseIf bad message = .ok u ↔ ¬ bad := by
  unfold raiseIf
  split
  next fails => simp [fails]
  next passes => simp [passes]

theorem raiseIf_of_not {bad : Prop} [Decidable bad] (passes : ¬ bad) (message : ε) :
    raiseIf bad message = .ok () :=
  (raiseIf_eq_ok bad message _).mpr passes

/-- A sequence returns exactly when its first part returns and its rest does. -/
@[simp]
theorem bind_eq_ok (x : Except ε α) (f : α → Except ε β) (b : β) :
    x >>= f = .ok b ↔ ∃ a, x = .ok a ∧ f a = .ok b := by
  cases x with
  | error e => simp [bind, Except.bind]
  | ok a => simp [bind, Except.bind]

@[simp]
theorem map_eq_ok (x : Except ε α) (f : α → β) (b : β) :
    f <$> x = .ok b ↔ ∃ a, x = .ok a ∧ f a = b := by
  cases x with
  | error e => simp [Functor.map, Except.map]
  | ok a => simp [Functor.map, Except.map]

@[simp]
theorem pure_eq_ok (a b : α) : (pure a : Except ε α) = .ok b ↔ a = b := by
  simp [pure, Except.pure]

theorem exists_unit {p : Unit → Prop} : (∃ u, p u) ↔ p () :=
  ⟨fun ⟨_, holds⟩ => holds, fun holds => ⟨(), holds⟩⟩

theorem ok_bind (a : α) (f : α → Except ε β) : (Except.ok a >>= f) = f a := rfl

/-- Either a computation returns or it raises. -/
theorem ok_or_error (x : Except ε α) : (∃ a, x = .ok a) ∨ ∃ e, x = .error e := by
  cases x with
  | error e => exact .inr ⟨e, rfl⟩
  | ok a => exact .inl ⟨a, rfl⟩

theorem eq_ok_of_mem_toOption {x : Except ε α} {a : α} (value : a ∈ x.toOption) : x = .ok a := by
  cases x with
  | error message => cases value
  | ok b =>
    cases value
    rfl

/-! ## Guards along a list -/

/-- Apply a guard to every element, in order. -/
def forEach (check : γ → Except ε Unit) : List γ → Except ε Unit
  | [] => .ok ()
  | item :: rest => do
    check item
    forEach check rest

@[simp]
theorem forEach_eq_ok (check : γ → Except ε Unit) (items : List γ) (u : Unit) :
    forEach check items = .ok u ↔ ∀ item ∈ items, check item = .ok () := by
  induction items with
  | nil => simp [forEach]
  | cons item rest ih => simp [forEach, ih, exists_unit]

/-- Apply a guard to every element, in order, and refuse an element whose key has been seen. -/
def forEachDistinct {κ : Type} [DecidableEq κ] (check : γ → Except ε Unit) (key : γ → κ)
    (message : ε) : List κ → List γ → Except ε Unit
  | _, [] => .ok ()
  | seen, item :: rest => do
    check item
    raiseIf (key item ∈ seen) message
    forEachDistinct check key message (key item :: seen) rest

theorem forEachDistinct_eq_ok {κ : Type} [DecidableEq κ] (check : γ → Except ε Unit) (key : γ → κ)
    (message : ε) (seen : List κ) (items : List γ) (u : Unit) :
    forEachDistinct check key message seen items = .ok u ↔
      (∀ item ∈ items, check item = .ok ()) ∧ (items.map key).Nodup ∧
        ∀ item ∈ items, key item ∉ seen := by
  induction items generalizing seen with
  | nil => simp [forEachDistinct]
  | cons item rest ih =>
    simp only [forEachDistinct, bind_eq_ok, exists_unit, raiseIf_eq_ok, ih, List.forall_mem_cons]
    simp only [List.map_cons, List.nodup_cons, List.mem_cons, not_or, List.mem_map, not_exists,
      not_and]
    constructor
    · rintro ⟨passes, unseen, others, distinct, later⟩
      exact ⟨⟨passes, others⟩, ⟨fun other membership => (later other membership).1, distinct⟩,
        unseen, fun other membership => (later other membership).2⟩
    · rintro ⟨⟨passes, others⟩, ⟨differ, distinct⟩, unseen, later⟩
      exact ⟨passes, unseen, others, distinct, fun other membership =>
        ⟨differ other membership, later other membership⟩⟩

/-- Build every element of a list, in order; the first failure is raised. -/
def collect (build : γ → Except ε α) : List γ → Except ε (List α)
  | [] => .ok []
  | item :: rest => do
    let first ← build item
    let later ← collect build rest
    pure (first :: later)

/-- A list that builds is built element by element. -/
theorem collect_related {build : γ → Except ε α} {items : List γ} {built : List α}
    (collected : collect build items = .ok built) :
    List.Forall₂ (fun item value => item ∈ items ∧ build item = .ok value) items built := by
  induction items generalizing built with
  | nil =>
    cases collected
    exact .nil
  | cons item rest ih =>
    simp only [collect, bind_eq_ok, pure_eq_ok] at collected
    obtain ⟨first, builtFirst, later, builtLater, rfl⟩ := collected
    refine .cons ⟨List.mem_cons_self, builtFirst⟩ ((ih builtLater).imp ?_)
    intro other value ⟨membership, isBuilt⟩
    exact ⟨List.mem_cons_of_mem _ membership, isBuilt⟩

theorem collect_eq_ok {build : γ → Except ε α} {items : List γ} {built : List α}
    (collected : collect build items = .ok built) :
    List.Forall₂ (fun item value => build item = .ok value) items built :=
  (collect_related collected).imp fun _ _ related => related.2

/-- What a built list keeps of the elements it is built from. -/
theorem map_key_of_collect {δ : Type*} {build : γ → Except ε α} {key : α → δ} {source : γ → δ}
    (keeps : ∀ item value, build item = .ok value → key value = source item)
    {items : List γ} {built : List α} (collected : collect build items = .ok built) :
    built.map key = items.map source := by
  have related := collect_eq_ok collected
  clear collected
  induction related with
  | nil => rfl
  | cons isBuilt _ ih => rw [List.map_cons, List.map_cons, keeps _ _ isBuilt, ih]

/-- Two ways to build a list agree on what they agree on element by element. -/
theorem map_eq_of_collect {δ : Type*} {build build' : γ → Except ε α} {key : α → δ}
    (agree : ∀ item value value', build item = .ok value → build' item = .ok value' →
      key value = key value')
    {items : List γ} {built built' : List α} (collected : collect build items = .ok built)
    (collected' : collect build' items = .ok built') : built.map key = built'.map key := by
  have related := collect_eq_ok collected
  have related' := collect_eq_ok collected'
  clear collected collected'
  induction related generalizing built' with
  | nil =>
    cases related'
    rfl
  | cons isBuilt _ ih =>
    cases related' with
    | cons isBuilt' later => rw [List.map_cons, List.map_cons, agree _ _ _ isBuilt isBuilt', ih later]

/-- What an element builds is in the built list. -/
theorem mem_collect {build : γ → Except ε α} {items : List γ} {built : List α}
    (collected : collect build items = .ok built) {item : γ} (membership : item ∈ items) {value : α}
    (isBuilt : build item = .ok value) : value ∈ built := by
  have related := collect_eq_ok collected
  clear collected
  induction related with
  | nil => cases membership
  | cons builds _ ih =>
    rcases List.mem_cons.mp membership with rfl | later
    · rw [isBuilt] at builds
      cases builds
      exact List.mem_cons_self
    · exact List.mem_cons_of_mem _ (ih later)

/-- Every element of a built list was built from an element. -/
theorem exists_of_mem_collect {build : γ → Except ε α} {items : List γ} {built : List α}
    (collected : collect build items = .ok built) {value : α} (membership : value ∈ built) :
    ∃ item ∈ items, build item = .ok value := by
  have related := collect_eq_ok collected
  clear collected
  induction related with
  | nil => cases membership
  | cons head _ ih =>
    cases membership with
    | head => exact ⟨_, List.mem_cons_self, head⟩
    | tail _ later =>
      obtain ⟨item, isItem, isBuilt⟩ := ih later
      exact ⟨item, List.mem_cons_of_mem _ isItem, isBuilt⟩

/-- A list whose elements keep what they were built from lists it in order. -/
theorem map_of_collect {build : γ → Except ε α} {key : α → γ}
    (keeps : ∀ item value, build item = .ok value → key value = item)
    {items : List γ} {built : List α} (collected : collect build items = .ok built) :
    built.map key = items := by
  have related := collect_eq_ok collected
  clear collected
  induction related with
  | nil => rfl
  | cons head _ ih => rw [List.map_cons, keeps _ _ head, ih]

/-- When each element builds a list with known keys, the concatenation has all of them. -/
theorem map_flatten_of_collect {build : γ → Except ε (List α)} {key : α → β}
    {keys : γ → List β} {items : List γ} {lists : List (List α)}
    (keeps : ∀ item ∈ items, ∀ built, build item = .ok built → built.map key = keys item)
    (collected : collect build items = .ok lists) :
    lists.flatten.map key = items.flatMap keys := by
  induction items generalizing lists with
  | nil =>
    cases collected
    rfl
  | cons item rest ih =>
    simp only [collect, bind_eq_ok, pure_eq_ok] at collected
    obtain ⟨first, builtFirst, later, builtLater, rfl⟩ := collected
    have here := keeps item (by simp) first builtFirst
    have there := ih (fun other membership => keeps other (by simp [membership])) builtLater
    rw [List.flatten_cons, List.map_append, List.flatMap_cons, here, there]

/-- A list builds when each of its elements does. -/
theorem collect_ok {build : γ → Except ε α} {items : List γ}
    (builds : ∀ item ∈ items, ∃ value, build item = .ok value) :
    ∃ built, collect build items = .ok built := by
  induction items with
  | nil => exact ⟨[], rfl⟩
  | cons item rest ih =>
    obtain ⟨first, builtFirst⟩ := builds item (by simp)
    obtain ⟨later, builtLater⟩ := ih fun other membership => builds other (by simp [membership])
    exact ⟨first :: later, by simp [collect, builtFirst, builtLater]⟩

/-- A list builds exactly when each of its elements does. -/
theorem collect_ok_iff {build : γ → Except ε α} {items : List γ} :
    (∃ built, collect build items = .ok built) ↔ ∀ item ∈ items, ∃ value, build item = .ok value := by
  refine ⟨?_, collect_ok⟩
  rintro ⟨built, collected⟩ item membership
  have related := collect_eq_ok collected
  clear collected
  induction related with
  | nil => cases membership
  | cons head _ ih =>
    cases membership with
    | head => exact ⟨_, head⟩
    | tail _ later => exact ih later

/-- A list that does not build raises what one of its elements raises. -/
theorem error_of_collect {build : γ → Except ε α} {items : List γ} {error : ε}
    (raised : collect build items = .error error) : ∃ item ∈ items, build item = .error error := by
  induction items with
  | nil => cases raised
  | cons item rest ih =>
    cases builtFirst : build item with
    | error other =>
      rw [collect, builtFirst] at raised
      cases raised
      exact ⟨item, List.mem_cons_self, builtFirst⟩
    | ok first =>
      cases builtLater : collect build rest with
      | error other =>
        rw [collect, builtFirst, ok_bind, builtLater] at raised
        cases raised
        obtain ⟨later, isLater, isRaised⟩ := ih builtLater
        exact ⟨later, List.mem_cons_of_mem _ isLater, isRaised⟩
      | ok later =>
        rw [collect, builtFirst, ok_bind, builtLater] at raised
        cases raised

/-- When each element builds to a known value, the list builds to the list of them. -/
theorem collect_eq_map {build : γ → Except ε α} {f : γ → α} {items : List γ}
    (builds : ∀ item ∈ items, build item = .ok (f item)) :
    collect build items = .ok (items.map f) := by
  induction items with
  | nil => rfl
  | cons item rest ih =>
    have first := builds item (by simp)
    have later := ih (fun other membership => builds other (by simp [membership]))
    simp [collect, first, later]

theorem collect_map (build : β → Except ε α) (f : γ → β) (items : List γ) :
    collect build (items.map f) = collect (fun item => build (f item)) items := by
  induction items with
  | nil => rfl
  | cons item rest ih => rw [List.map_cons, collect, collect, ih]

theorem collect_congr {build other : γ → Except ε α} {items : List γ}
    (same : ∀ item ∈ items, build item = other item) :
    collect build items = collect other items := by
  induction items with
  | nil => rfl
  | cons item rest ih =>
    rw [collect, collect, same item (by simp),
      ih fun later membership => same later (by simp [membership])]

end Checks
