import StateGuard.Applicability.Engine

/-!
# The shape of the instances

The executors and the applicability engine know each other only through the instances of the
artifact: which assertion keys an instance has, and what it names besides.  `InstanceShape`
is that contract, and `instancesOf_shape` says that the engine keeps it: the keys of an
instance are some of the keys of its scenario, in their order, and an instance with an
applicable assertion has everything the executor of that assertion looks up.
-/

namespace StateGuard

/-- The assertion keys of a scenario. -/
def ScenarioId.assertionKeys : ScenarioId → List AssertionKey
  | .sg01 => [.sg01]
  | .sg02 => [.sg02]
  | .sg03 => [.sg03]
  | .sg04 => [.sg04CustomerValue, .sg04StateRegression]
  | .sg05 => [.sg05Mutation, .sg05CustomerValue]
  | .sg06 => [.sg06Mutation, .sg06CustomerValue]
  | .sg07 => [.sg07CustomerValue]
  | .sg08 => [.sg08LatePolicy, .sg08Precapture, .sg08Capture]

/-- The keys an instance has. -/
def ScenarioInstance.keys (item : ScenarioInstance) : List AssertionKey :=
  item.assertions.map (·.key)

/-- What the executor of an applicable assertion looks up in its instance. -/
def ScenarioInstance.Supplies (item : ScenarioInstance) (scenario : ScenarioId)
    (key : AssertionKey) : Prop :=
  match scenario with
  | .sg04 => item.normalControlId.isSome ∧ ∀ other ∈ scenario.assertionKeys, other ∈ item.keys
  | .sg05 | .sg06 => ∀ other ∈ scenario.assertionKeys, other ∈ item.keys
  | .sg08 => item.normalControlId.isSome ∧ key ≠ .sg08LatePolicy
  | _ => item.normalControlId.isSome

/-- The contract between the engine and the executors. -/
structure InstanceShape (hashing : Hashing) (scenario : ScenarioId) (item : ScenarioInstance) :
    Prop where
  keys : item.keys.Sublist scenario.assertionKeys
  /-- Assertion identities are canonical. -/
  identities : ∀ assertion ∈ item.assertions,
    assertion.assertionId = hashing.assertionId item.instanceId assertion.key
  supplies : ∀ assertion ∈ item.assertions, assertion.state = .applicable →
    item.Supplies scenario assertion.key

/-- The keys of a scenario are distinct. -/
theorem ScenarioId.assertionKeys_nodup (scenario : ScenarioId) :
    scenario.assertionKeys.Nodup := by
  cases scenario <;> decide

theorem InstanceShape.keysUnique {hashing : Hashing} {scenario : ScenarioId}
    {item : ScenarioInstance} (shape : InstanceShape hashing scenario item) : item.keys.Nodup :=
  scenario.assertionKeys_nodup.sublist shape.keys

/-- A fallback state is never applicable. -/
theorem fallbackState_ne_applicable (graph : PaymentSafetyGraphArtifact)
    (resolution : Option CustomerValueResolution) (available : List GraphNode) :
    (fallbackState graph resolution available).1 ≠ .applicable := by
  unfold fallbackState assessed
  split
  next => split <;> simp
  next =>
    split
    next => simp
    next => split <;> simp

section Shapes

variable {hashing : Hashing} {graph : PaymentSafetyGraphArtifact}
  {resolution : Option CustomerValueResolution} {controls : List NormalControlInstance}
  {policy : MerchantPolicyAssessment}

theorem catalogInstance_shape {scenario : ScenarioId} {key : AssertionKey}
    (isKey : key ∈ scenario.assertionKeys) {state : Assessed} (inactive : state.1 ≠ .applicable) :
    InstanceShape hashing scenario (catalogInstance hashing scenario key state) where
  keys := List.singleton_sublist.mpr isKey
  identities := by
    intro assertion membership
    rw [List.mem_singleton.mp membership]
    rfl
  supplies := by
    intro assertion membership applicable
    rw [List.mem_singleton.mp membership] at applicable
    exact absurd applicable inactive

theorem controlInstance_shape {scenario : ScenarioId} {key : AssertionKey}
    (sole : scenario.assertionKeys = [key]) (control : NormalControlInstance) (state : Assessed) :
    InstanceShape hashing scenario
      (controlInstance hashing graph scenario key control state) where
  keys := by
    rw [sole]
    exact List.Sublist.refl _
  identities := by
    intro assertion membership
    rw [List.mem_singleton.mp membership]
    rfl
  supplies := by
    intro assertion membership applicable
    cases scenario with
    | sg01 | sg02 | sg03 | sg07 => rfl
    | sg04 | sg05 | sg06 | sg08 => simp [ScenarioId.assertionKeys] at sole

theorem webhookInstances_shape {scenario : ScenarioId} {key : AssertionKey}
    (sole : scenario.assertionKeys = [key]) {available : List GraphNode}
    {state : NormalControlInstance → Assessed} {item : ScenarioInstance}
    (membership : item ∈ webhookInstances hashing graph resolution controls scenario key available
      state) : InstanceShape hashing scenario item := by
  rcases mem_orCatalog.mp membership with membership | ⟨-, rfl⟩
  · obtain ⟨control, -, rfl⟩ := List.mem_map.mp membership
    exact controlInstance_shape sole control _
  · exact catalogInstance_shape (by simp [sole]) (fallbackState_ne_applicable _ _ _)

theorem sg04Instance_shape (control : NormalControlInstance) :
    InstanceShape hashing .sg04 (sg04Instance hashing graph policy control) where
  keys := List.Sublist.refl _
  identities := by simp [sg04Instance, instanceOf, assertionOf]
  supplies := by
    intro assertion membership applicable
    exact ⟨rfl, by simp [ScenarioInstance.keys, sg04Instance, instanceOf, assertionOf,
      ScenarioId.assertionKeys]⟩

theorem trustInstance_shape {scenario : ScenarioId} {mutationKey valueKey : AssertionKey}
    (keys : scenario.assertionKeys = [mutationKey, valueKey])
    (trust : scenario = .sg05 ∨ scenario = .sg06) {ingress : GraphNode}
    {control : Option NormalControlInstance} {mutationState valueState : Assessed} :
    InstanceShape hashing scenario
      (trustInstance hashing scenario mutationKey valueKey ingress control mutationState
        valueState) where
  keys := by
    rw [keys]
    exact List.Sublist.refl _
  identities := by simp [trustInstance, instanceOf, assertionOf]
  supplies := by
    intro assertion membership applicable
    have each : ∀ other ∈ scenario.assertionKeys,
        other ∈ (trustInstance hashing scenario mutationKey valueKey ingress control
          mutationState valueState).keys := by
      simp [keys, ScenarioInstance.keys, trustInstance, instanceOf, assertionOf]
    rcases trust with rfl | rfl
    · exact each
    · exact each

/-- The keys of the late authorisation. -/
theorem lateAssertions_keys (graph : PaymentSafetyGraphArtifact)
    (policy : MerchantPolicyAssessment) (control : NormalControlInstance) :
    (∃ state, lateAssertions graph policy control = ((.sg08LatePolicy, state), []) ∧
        state.1 ≠ .applicable) ∨
      (∃ state, lateAssertions graph policy control = ((.sg08Precapture, state), [])) ∨
      ∃ state later, lateAssertions graph policy control =
        ((.sg08Precapture, state), [(.sg08Capture, later)]) := by
  unfold lateAssertions
  split
  next => exact .inl ⟨_, rfl, by simp [assessed]⟩
  next =>
    split
    next => exact .inl ⟨_, rfl, by simp [assessed]⟩
    next =>
      split
      next => exact .inl ⟨_, rfl, by simp [assessed]⟩
      next =>
        split
        next => exact .inl ⟨_, rfl, by simp [assessed]⟩
        next =>
          split
          next => exact .inl ⟨_, rfl, by simp [assessed]⟩
          next =>
            split
            next =>
              split
              next => exact .inr (.inr ⟨_, _, rfl⟩)
              next => exact .inr (.inl ⟨_, rfl⟩)
            next => exact .inl ⟨_, rfl, by simp [assessed]⟩

theorem sg08Instance_shape (control : NormalControlInstance) :
    InstanceShape hashing .sg08 (sg08Instance hashing graph policy control) := by
  rcases lateAssertions_keys graph policy control with
    ⟨state, same, inactive⟩ | ⟨state, same⟩ | ⟨state, later, same⟩
  · refine ⟨?_, ?_, ?_⟩
    · simp [ScenarioInstance.keys, sg08Instance, instanceOf, assertionOf, same,
        ScenarioId.assertionKeys]
    · simp [sg08Instance, instanceOf, assertionOf, same]
    · simp [sg08Instance, instanceOf, assertionOf, same, inactive]
  · refine ⟨?_, ?_, ?_⟩
    · simp [ScenarioInstance.keys, sg08Instance, instanceOf, assertionOf, same,
        ScenarioId.assertionKeys]
    · simp [sg08Instance, instanceOf, assertionOf, same]
    · simp [sg08Instance, instanceOf, assertionOf, same, ScenarioInstance.Supplies]
  · refine ⟨?_, ?_, ?_⟩
    · simp [ScenarioInstance.keys, sg08Instance, instanceOf, assertionOf, same,
        ScenarioId.assertionKeys]
    · simp [sg08Instance, instanceOf, assertionOf, same]
    · simp [sg08Instance, instanceOf, assertionOf, same, ScenarioInstance.Supplies]

/-- The policies under which a late authorisation is executed: confirmed, current, and with
a captured threshold. -/
structure LatePoliciesReady (policy : MerchantPolicyAssessment) : Prop where
  fulfilment : policy.fulfilment.confirmedPolicy = some .captureRequired
  fulfilmentCurrent : policy.fulfilment.evidenceCurrent = some true
  lateAuthorisation : policy.lateAuthorisation.confirmedPolicy ≠ none
  lateCurrent : policy.lateAuthorisation.evidenceCurrent = some true

theorem lateAssertions_applicable {control : NormalControlInstance}
    {entry : AssertionKey × Assessed}
    (isEntry : entry ∈ (lateAssertions graph policy control).1 ::
      (lateAssertions graph policy control).2)
    (applicable : entry.2.1 = .applicable) : LatePoliciesReady policy := by
  have inactive {key : AssertionKey} {state : Assessed} (other : state.1 ≠ .applicable)
      (membership : entry ∈ [(key, state)]) : LatePoliciesReady policy := by
    rw [List.mem_singleton.mp membership] at applicable
    exact absurd applicable other
  unfold lateAssertions at isEntry
  split at isEntry
  next => exact inactive (by simp [assessed]) isEntry
  next confirmed =>
    split at isEntry
    next => exact inactive (by simp [assessed]) isEntry
    next current =>
      split at isEntry
      next => exact inactive (by simp [assessed]) isEntry
      next late =>
        split at isEntry
        next => exact inactive (by simp [assessed]) isEntry
        next lateCurrent =>
          split at isEntry
          next => exact inactive (by simp [assessed]) isEntry
          next =>
            split at isEntry
            next threshold =>
              exact ⟨threshold, not_not.mp current, late, not_not.mp lateCurrent⟩
            next => exact inactive (by simp [assessed]) isEntry

/-- An applicable late authorisation rests on its policies. -/
theorem sg08Instances_applicable {item : ScenarioInstance}
    (isItem : item ∈ sg08Instances hashing graph resolution controls policy)
    {assertion : AssertionApplicability} (isAssertion : assertion ∈ item.assertions)
    (applicable : assertion.state = .applicable) : LatePoliciesReady policy := by
  rcases mem_orCatalog.mp isItem with isItem | ⟨-, rfl⟩
  · obtain ⟨control, -, rfl⟩ := List.mem_map.mp isItem
    rcases List.mem_cons.mp isAssertion with rfl | isAssertion
    · exact lateAssertions_applicable List.mem_cons_self applicable
    · obtain ⟨entry, isEntry, rfl⟩ := List.mem_map.mp isAssertion
      exact lateAssertions_applicable (List.mem_cons_of_mem _ isEntry) applicable
  · rw [List.mem_singleton.mp isAssertion] at applicable
    revert applicable
    show (ite _ _ _ : Assessed).1 = .applicable → _
    split
    next => simp [assessed]
    next => exact fun applicable => absurd applicable (fallbackState_ne_applicable _ _ _)

end Shapes

/-- The engine keeps the contract. -/
theorem instancesOf_shape {hashing : Hashing} {graph : PaymentSafetyGraphArtifact}
    {resolution : Option CustomerValueResolution} {controls : List NormalControlInstance}
    {policy : MerchantPolicyAssessment} {scenario : ScenarioId} {item : ScenarioInstance}
    (membership : item ∈ instancesOf hashing graph resolution controls policy scenario) :
    InstanceShape hashing scenario item := by
  have fallback := fun available => fallbackState_ne_applicable graph resolution available
  cases scenario with
  | sg01 | sg02 | sg03 => exact webhookInstances_shape rfl membership
  | sg04 =>
    rcases mem_orCatalog.mp membership with membership | ⟨-, rfl⟩
    · obtain ⟨control, -, rfl⟩ := List.mem_map.mp membership
      exact sg04Instance_shape control
    · exact catalogInstance_shape (by simp [ScenarioId.assertionKeys]) (fallback _)
  | sg05 =>
    rcases mem_orCatalog.mp membership with membership | ⟨-, rfl⟩
    · obtain ⟨ingress, -, membership⟩ := List.mem_flatMap.mp membership
      obtain ⟨control, -, rfl⟩ := List.mem_map.mp membership
      exact trustInstance_shape rfl (.inl rfl)
    · exact catalogInstance_shape (by simp [ScenarioId.assertionKeys]) (fallback _)
  | sg06 =>
    rcases mem_orCatalog.mp membership with membership | ⟨-, rfl⟩
    · obtain ⟨ingress, -, membership⟩ := List.mem_flatMap.mp membership
      obtain ⟨control, -, rfl⟩ := List.mem_map.mp membership
      exact trustInstance_shape rfl (.inr rfl)
    · exact catalogInstance_shape (by simp [ScenarioId.assertionKeys]) (fallback _)
  | sg07 =>
    rcases mem_orCatalog.mp membership with membership | ⟨-, rfl⟩
    · split at membership
      next => cases membership
      next =>
        obtain ⟨control, -, rfl⟩ := List.mem_map.mp membership
        exact controlInstance_shape rfl control _
    · refine catalogInstance_shape (by simp [ScenarioId.assertionKeys]) ?_
      split
      next => exact fallback _
      next => simp [assessed]
  | sg08 =>
    rcases mem_orCatalog.mp membership with membership | ⟨-, rfl⟩
    · obtain ⟨control, -, rfl⟩ := List.mem_map.mp membership
      exact sg08Instance_shape control
    · refine catalogInstance_shape (by simp [ScenarioId.assertionKeys]) ?_
      split
      next => simp [assessed]
      next => exact fallback _

end StateGuard
