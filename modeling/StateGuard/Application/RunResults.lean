import Mathlib.Data.List.Perm.Basic
import StateGuard.Application.Completion

/-!
# The results of a run

`create_verification_run` executes the instances of the artifact, scenario by scenario and in
the order of their identities, and `build_verification_run` asks that the results map
one-to-one to the assertions.  `run_oneToOne_iff` says when a run gets that far: exactly when
every applicable assertion completes and the identities within an instance are distinct.

An executor looks the assertions of its instance up by key.  `InstanceShape.keysFound`
says that no lookup fails, so none of the exceptions of a run is a missing key.
-/

namespace StateGuard

open Checks EarlyReturn KeyOrder

/-! ## Execution -/

/-- `int(scenario_id.value.removeprefix("SG-"))`. -/
def ScenarioId.number : ScenarioId → Nat
  | .sg01 => 1
  | .sg02 => 2
  | .sg03 => 3
  | .sg04 => 4
  | .sg05 => 5
  | .sg06 => 6
  | .sg07 => 7
  | .sg08 => 8

/-- A run executes every instance of its artifact once, while the project keeps analysing to
that artifact. -/
structure RunPlan where
  hashing : Hashing
  /-- The fingerprint of a result. -/
  fingerprint : ScenarioResultPayload → Sha256Digest
  artifact : ScenarioApplicabilityArtifact
  execution : ScenarioId → ScenarioInstance → Execution
  called : ∀ scenario ∈ artifact.scenarios, ∀ item ∈ scenario.instances,
    (execution scenario.scenarioId item).CalledFor artifact item
  sameFingerprint : ∀ scenario item, (execution scenario item).resultFingerprint = fingerprint

namespace RunPlan

variable (plan : RunPlan)

/-- The instances in the order they are executed in. -/
def order : List (ScenarioId × ScenarioInstance) :=
  (sortedByKey (·.scenarioId.number) plan.artifact.scenarios).flatMap fun scenario =>
    (sortedByKey (·.instanceId) scenario.instances).map fun item => (scenario.scenarioId, item)

/-- The loop of `create_verification_run`. -/
def executeAll : Except String (List ScenarioExecutionResult) := do
  let results ← collect (fun (scenario, item) => (plan.execution scenario item).executeInstance
    scenario) plan.order
  pure results.flatten

end RunPlan

/-! ## Normalisation -/

/-- What a result and an assertion are matched by. -/
abbrev AuthorityKey := ScenarioId × ScenarioInstanceId × AssertionId

/-- The key of a row of the artifact. -/
def authorityKey (row : ScenarioId × ScenarioInstance × AssertionApplicability) : AuthorityKey :=
  (row.1, row.2.1.instanceId, row.2.2.assertionId)

/-- The keys of the assertions of an instance. -/
def instanceKeys (entry : ScenarioId × ScenarioInstance) : List AuthorityKey :=
  entry.2.assertions.map fun assertion => authorityKey (entry.1, entry.2, assertion)

/-- The key of a result. -/
def ScenarioExecutionResult.authorityKey (result : ScenarioExecutionResult) : AuthorityKey :=
  (result.scenarioId, result.authority.scenarioInstanceId, result.assertionId)

/-- `_assertion_authorities`. -/
def assertionAuthorities (hashing : Hashing) (artifact : ScenarioApplicabilityArtifact) :
    Except String (Dict AuthorityKey (ScenarioInstance × AssertionApplicability)) :=
  Dict.record (fun row => do
      raiseIf (row.2.2.assertionId ≠ hashing.assertionId row.2.1.instanceId row.2.2.key)
        "applicability assertion identity is not canonical"
      pure (authorityKey row, row.2))
    "duplicate applicability assertion authority" artifact.rows Dict.empty

/-- `_execution_results`: every result is validated again. -/
def executionResults (fingerprint : ScenarioResultPayload → Sha256Digest)
    (results : List ScenarioExecutionResult) :
    Except String (Dict AuthorityKey ScenarioExecutionResult) :=
  Dict.record (fun result : ScenarioExecutionResult => do
      result.validateResult fingerprint
      pure (result.authorityKey, result))
    "duplicate scenario execution assertion authority" results Dict.empty

/-- The check of `build_verification_run` that results and assertions have the same keys. -/
def requireOneToOne {α β : Type} (authorities : Dict AuthorityKey α)
    (results : Dict AuthorityKey β) : Except String Unit :=
  let missing := authorities.keys.filter (· ∉ results.keys)
  let foreign := results.keys.filter (· ∉ authorities.keys)
  raiseIf (missing ≠ [] ∨ foreign ≠ [])
    (s!"scenario results must map one-to-one to applicability assertions " ++
      s!"(missing={missing.length}, foreign={foreign.length})")

/-- The assertions of a run with their results, up to the check of `build_verification_run`. -/
def normalizeResults (hashing : Hashing) (fingerprint : ScenarioResultPayload → Sha256Digest)
    (artifact : ScenarioApplicabilityArtifact) (results : List ScenarioExecutionResult) :
    Except String (Dict AuthorityKey (ScenarioInstance × AssertionApplicability) ×
      Dict AuthorityKey ScenarioExecutionResult) := do
  let authorities ← assertionAuthorities hashing artifact
  let mapped ← executionResults fingerprint results
  requireOneToOne authorities mapped
  pure (authorities, mapped)

/-! ## One-to-one -/

theorem requireOneToOne_eq_ok {α β : Type} {authorities : Dict AuthorityKey α}
    {results : Dict AuthorityKey β} :
    requireOneToOne authorities results = .ok () ↔
      ∀ key, key ∈ authorities.keys ↔ key ∈ results.keys := by
  simp only [requireOneToOne, raiseIf_eq_ok, not_or, not_not, List.filter_eq_nil_iff,
    decide_eq_true_eq]
  constructor
  · rintro ⟨missing, foreign⟩ key
    exact ⟨missing key, foreign key⟩
  · intro same
    exact ⟨fun key => (same key).mp, fun key => (same key).mpr⟩

/-- The identities of the assertions of every instance are distinct. -/
def ScenarioApplicabilityPayload.DistinctIdentities (payload : ScenarioApplicabilityPayload) :
    Prop :=
  ∀ scenario ∈ payload.scenarios, ∀ item ∈ scenario.instances,
    (item.assertions.map (·.assertionId)).Nodup

section Normalised

variable {hashing : Hashing} {config : Option MerchantPolicyConfig}
  {graph : PaymentSafetyGraphArtifact} {resolution : Option CustomerValueResolution}
  {resolutionFingerprint : Option Sha256Digest} {artifact : ScenarioApplicabilityArtifact}

/-- The keys of the rows are distinct when the identities within every instance are. -/
theorem Evaluated.authorityKeys_nodup
    (evaluated : Evaluated hashing config graph resolution resolutionFingerprint artifact) :
    (artifact.rows.map authorityKey).Nodup ↔ artifact.DistinctIdentities := by
  have scenarios : (artifact.scenarios.map (·.scenarioId)).Nodup := by
    rw [evaluated.scenarioIds]
    decide
  have keys : artifact.rows.map authorityKey = artifact.scenarios.flatMap fun scenario =>
      scenario.instances.flatMap fun item => instanceKeys (scenario.scenarioId, item) := by
    simp [ScenarioApplicabilityPayload.rows, List.map_flatMap, Function.comp_def, instanceKeys]
  rw [keys, nodup_flatMap_of_distinct scenarios Prod.fst (by
    grind [instanceKeys, authorityKey])]
  refine forall₂_congr fun scenario _ => ?_
  rw [nodup_flatMap_of_distinct scenario.instancesUnique (·.2.1) (by
    grind [instanceKeys, authorityKey])]
  refine forall₂_congr fun item _ => ?_
  have same : instanceKeys (scenario.scenarioId, item) =
      (item.assertions.map (·.assertionId)).map fun assertionId =>
        (scenario.scenarioId, item.instanceId, assertionId) := by
    rw [instanceKeys, List.map_map]
    rfl
  rw [same, List.nodup_map_iff fun one other equal => (Prod.mk.inj (Prod.mk.inj equal).2).2]

/-- The authorities of an artifact are its rows under their keys. -/
theorem Evaluated.assertionAuthorities_eq_ok
    (evaluated : Evaluated hashing config graph resolution resolutionFingerprint artifact)
    {authorities : Dict AuthorityKey (ScenarioInstance × AssertionApplicability)} :
    assertionAuthorities hashing artifact = .ok authorities ↔
      artifact.DistinctIdentities ∧
        authorities.entries = artifact.rows.map fun row => (authorityKey row, row.2) := by
  have canonical : collect (fun row => do
      raiseIf (row.2.2.assertionId ≠ hashing.assertionId row.2.1.instanceId row.2.2.key)
        "applicability assertion identity is not canonical"
      pure (authorityKey row, row.2)) artifact.rows =
        .ok (artifact.rows.map fun row => (authorityKey row, row.2)) := by
    refine collect_eq_map fun row isRow => ?_
    obtain ⟨scenario, isScenario, item, isItem, assertion, isAssertion, rfl⟩ :=
      (ScenarioApplicabilityPayload.mem_rows _ row).mp isRow
    have shape := evaluated.shape isScenario isItem
    rw [raiseIf_of_not (not_not.mpr (shape.identities assertion isAssertion))]
    rfl
  rw [assertionAuthorities, Dict.record_eq_ok, canonical, ← evaluated.authorityKeys_nodup]
  simp [Dict.empty, Dict.keys, Function.comp_def]

end Normalised

/-! ## Lookups -/

/-- The keys the executor of a scenario looks up in its instance for an assertion; all but the
first only when the assertion is applicable. -/
def keysRead (scenario : ScenarioId) (assertion : AssertionApplicability) : List AssertionKey :=
  match scenario, assertion.state with
  | .sg04, .applicable => [assertion.key, .sg04StateRegression]
  | .sg05, .applicable => [assertion.key, .sg05Mutation, .sg05CustomerValue]
  | .sg06, .applicable => [assertion.key, .sg06Mutation, .sg06CustomerValue]
  | _, _ => [assertion.key]

/-- No lookup for an assertion of the instance fails: neither of an assertion nor of the
verdict on an applicable late authorisation. -/
structure KeysFound (scenario : ScenarioId) (item : ScenarioInstance)
    (assertion : AssertionApplicability) : Prop where
  assertions : ∀ key ∈ keysRead scenario assertion, ∃ found,
    Execution.assertionAt (Execution.assertionsByKey item) key = .ok found
  verdict : scenario = .sg08 → assertion.state = .applicable →
    ∃ index, Execution.sg08Index assertion.key = .ok index

/-- Every lookup in an instance of its shape succeeds. -/
theorem InstanceShape.keysFound {hashing : Hashing} {scenario : ScenarioId}
    {item : ScenarioInstance} (shape : InstanceShape hashing scenario item)
    {assertion : AssertionApplicability} (isAssertion : assertion ∈ item.assertions) :
    KeysFound scenario item assertion where
  assertions := by
    have own : assertion.key ∈ item.keys := List.mem_map_of_mem isAssertion
    suffices keys : ∀ key ∈ keysRead scenario assertion, key ∈ item.keys from
      fun key isRead => shape.exists_assertionAt (keys key isRead)
    intro key isRead
    unfold keysRead at isRead
    split at isRead
    next applicable =>
      have supplied := (shape.supplies assertion isAssertion applicable).2
      rcases List.mem_cons.mp isRead with rfl | isRead
      · exact own
      · rw [List.mem_singleton.mp isRead]
        exact supplied _ (by decide)
    next applicable =>
      have supplied := shape.supplies assertion isAssertion applicable
      rcases List.mem_cons.mp isRead with rfl | isRead
      · exact own
      · exact supplied key isRead
    next applicable =>
      have supplied := shape.supplies assertion isAssertion applicable
      rcases List.mem_cons.mp isRead with rfl | isRead
      · exact own
      · exact supplied key isRead
    next =>
      rw [List.mem_singleton.mp isRead]
      exact own
  verdict := by
    rintro rfl applicable
    exact shape.exists_sg08Index isAssertion applicable

/-! ## The results of an instance -/

/-- The results of an instance have the keys of its assertions, in order. -/
theorem Execution.map_authorityKey {execution : Execution} {hashing : Hashing}
    {scenario : ScenarioId} {artifact : ScenarioApplicabilityArtifact} {item : ScenarioInstance}
    (called : execution.CalledFor artifact item) (found : execution.item? scenario = some item)
    (shape : InstanceShape hashing scenario item) {results : List ScenarioExecutionResult}
    (executed : execution.executeInstance scenario = .ok results) :
    results.map (·.authorityKey) = instanceKeys (scenario, item) := by
  rw [execution.executeInstance_eq found shape] at executed
  have related := collect_eq_ok executed
  clear executed
  unfold instanceKeys
  dsimp only
  generalize item.assertions = assertions at related ⊢
  induction related with
  | nil => rfl
  | cons packed _ ih =>
    obtain ⟨report, -, payload⟩ := Execution.packed_eq_ok packed
    rw [List.map_cons, List.map_cons, ih, ScenarioExecutionResult.authorityKey, payload]
    simp [Packing.payload, Execution.packing, authorityKey, called.instanceId]

/-- Every result of an instance is valid. -/
theorem Execution.validateResult_of_executed {execution : Execution} {hashing : Hashing}
    {scenario : ScenarioId} {item : ScenarioInstance}
    (found : execution.item? scenario = some item) (shape : InstanceShape hashing scenario item)
    {results : List ScenarioExecutionResult}
    (executed : execution.executeInstance scenario = .ok results) :
    ∀ result ∈ results, result.validateResult execution.resultFingerprint = .ok () := by
  rw [execution.executeInstance_eq found shape] at executed
  intro result isResult
  obtain ⟨assertion, -, packed⟩ := exists_of_mem_collect executed isResult
  simp only [assertionResult, Execution.packed, makeResult, bind_eq_ok, pure_eq_ok,
    exists_unit] at packed
  obtain ⟨report, -, valid, rfl⟩ := packed
  exact valid

/-! ## The results of a run -/

namespace RunPlan

variable {plan : RunPlan} {config : Option MerchantPolicyConfig}
  {graph : PaymentSafetyGraphArtifact} {resolution : Option CustomerValueResolution}
  {resolutionFingerprint : Option Sha256Digest}

theorem mem_order {scenarioId : ScenarioId} {item : ScenarioInstance} :
    (scenarioId, item) ∈ plan.order ↔
      ∃ scenario ∈ plan.artifact.scenarios, item ∈ scenario.instances ∧
        scenario.scenarioId = scenarioId := by
  simp only [order, List.mem_flatMap, mem_sortedByKey, List.mem_map, Prod.mk.injEq]
  constructor
  · rintro ⟨scenario, isScenario, other, isItem, rfl, rfl⟩
    exact ⟨scenario, isScenario, isItem, rfl⟩
  · rintro ⟨scenario, isScenario, isItem, rfl⟩
    exact ⟨scenario, isScenario, item, isItem, rfl, rfl⟩

/-- The instances are executed in another order than they are listed in. -/
theorem order_perm :
    plan.order.Perm (plan.artifact.scenarios.flatMap fun scenario =>
      scenario.instances.map fun item => (scenario.scenarioId, item)) := by
  refine List.Perm.flatMap (sortedByKey_perm _ _) fun scenario _ => ?_
  exact (sortedByKey_perm _ _).map _

/-- An executed instance is found, and has the shape its executor expects. -/
theorem instance_of_mem
    (evaluated : Evaluated plan.hashing config graph resolution resolutionFingerprint
      plan.artifact)
    {scenarioId : ScenarioId} {item : ScenarioInstance} (isItem : (scenarioId, item) ∈ plan.order) :
    (plan.execution scenarioId item).CalledFor plan.artifact item ∧
      (plan.execution scenarioId item).item? scenarioId = some item ∧
      InstanceShape plan.hashing scenarioId item := by
  obtain ⟨scenario, isScenario, isInstance, rfl⟩ := mem_order.mp isItem
  have called := plan.called scenario isScenario item isInstance
  refine ⟨called, ?_, evaluated.shape isScenario isInstance⟩
  rw [Execution.item?, called.applicability, called.instanceId]
  exact evaluated.scenarioInstance_eq isScenario isInstance

/-- The results of a run have the keys of its rows. -/
theorem map_authorityKey_perm
    (evaluated : Evaluated plan.hashing config graph resolution resolutionFingerprint
      plan.artifact)
    {results : List ScenarioExecutionResult} (executed : plan.executeAll = .ok results) :
    (results.map (·.authorityKey)).Perm (plan.artifact.rows.map authorityKey) := by
  simp only [executeAll, bind_eq_ok, pure_eq_ok] at executed
  obtain ⟨lists, collected, rfl⟩ := executed
  have keys : lists.flatten.map (·.authorityKey) = plan.order.flatMap instanceKeys := by
    refine map_flatten_of_collect (fun entry isItem built executed => ?_) collected
    obtain ⟨scenario, item⟩ := entry
    obtain ⟨called, found, shape⟩ := instance_of_mem evaluated isItem
    exact Execution.map_authorityKey called found shape executed
  rw [keys]
  refine (order_perm.flatMap_right _).trans (.of_eq ?_)
  simp [ScenarioApplicabilityPayload.rows, List.flatMap_assoc, List.flatMap_map, List.map_flatMap,
    Function.comp_def, instanceKeys]

/-- An instance has its results exactly when each of its applicable assertions completes. -/
theorem executeInstance_ok_iff
    (evaluated : Evaluated plan.hashing config graph resolution resolutionFingerprint
      plan.artifact)
    {scenarioId : ScenarioId} {item : ScenarioInstance} (isItem : (scenarioId, item) ∈ plan.order) :
    (∃ results, (plan.execution scenarioId item).executeInstance scenarioId = .ok results) ↔
      ∀ assertion ∈ item.assertions, assertion.state = .applicable →
        (plan.execution scenarioId item).Completes scenarioId item assertion.key := by
  obtain ⟨called, found, shape⟩ := instance_of_mem evaluated isItem
  rw [Execution.executeInstance_eq _ found shape, collect_ok_iff]
  refine forall₂_congr fun assertion isAssertion => ?_
  by_cases applicable : assertion.state = .applicable
  · rw [assertionResult_ok_iff called.not_stale found shape ?_ isAssertion applicable]
    · simp [applicable]
    · rintro rfl
      obtain ⟨scenario, isScenario, isInstance, same⟩ := mem_order.mp isItem
      rw [evaluated.instances scenario isScenario, same] at isInstance
      rw [called.applicability]
      exact sg08Instances_applicable isInstance isAssertion applicable
  · simp [applicable, assertionResult_inactive called found shape isAssertion applicable]

/-- Every applicable assertion of the run completes. -/
def Completes (plan : RunPlan) : Prop :=
  ∀ row ∈ plan.artifact.rows, row.2.2.state = .applicable →
    (plan.execution row.1 row.2.1).Completes row.1 row.2.1 row.2.2.key

theorem executeAll_ok_iff
    (evaluated : Evaluated plan.hashing config graph resolution resolutionFingerprint
      plan.artifact) :
    (∃ results, plan.executeAll = .ok results) ↔ plan.Completes := by
  have lists : (∃ results, plan.executeAll = .ok results) ↔
      ∀ entry ∈ plan.order, ∃ results,
        (plan.execution entry.1 entry.2).executeInstance entry.1 = .ok results := by
    rw [← collect_ok_iff, executeAll]
    simp
  rw [lists]
  constructor
  · intro executes row isRow
    obtain ⟨scenario, isScenario, item, isInstance, assertion, isAssertion, rfl⟩ :=
      (ScenarioApplicabilityPayload.mem_rows _ row).mp isRow
    have isItem := mem_order.mpr ⟨scenario, isScenario, isInstance, rfl⟩
    exact (executeInstance_ok_iff evaluated isItem).mp (executes _ isItem) assertion isAssertion
  · rintro completes ⟨scenarioId, item⟩ isItem
    obtain ⟨scenario, isScenario, isInstance, rfl⟩ := mem_order.mp isItem
    refine (executeInstance_ok_iff evaluated isItem).mpr fun assertion isAssertion => ?_
    exact completes (scenario.scenarioId, item, assertion)
      ((ScenarioApplicabilityPayload.mem_rows _ _).mpr
        ⟨scenario, isScenario, item, isInstance, assertion, isAssertion, rfl⟩)

/-- The results of a run are recorded when their keys are distinct. -/
theorem executionResults_eq_ok
    (evaluated : Evaluated plan.hashing config graph resolution resolutionFingerprint
      plan.artifact)
    {results : List ScenarioExecutionResult} (executed : plan.executeAll = .ok results)
    {recorded : Dict AuthorityKey ScenarioExecutionResult} :
    executionResults plan.fingerprint results = .ok recorded ↔
      (results.map (·.authorityKey)).Nodup ∧
        recorded.entries = results.map fun result => (result.authorityKey, result) := by
  have valid : collect (fun result : ScenarioExecutionResult => do
      result.validateResult plan.fingerprint
      pure (result.authorityKey, result)) results =
        .ok (results.map fun result => (result.authorityKey, result)) := by
    refine collect_eq_map fun result isResult => ?_
    simp only [executeAll, bind_eq_ok, pure_eq_ok] at executed
    obtain ⟨lists, collected, rfl⟩ := executed
    obtain ⟨list, isList, isMember⟩ := List.mem_flatten.mp isResult
    obtain ⟨⟨scenario, item⟩, isItem, executed⟩ := exists_of_mem_collect collected isList
    obtain ⟨-, found, shape⟩ := instance_of_mem evaluated isItem
    rw [← plan.sameFingerprint scenario item,
      Execution.validateResult_of_executed found shape executed result isMember]
    rfl
  rw [executionResults, Dict.record_eq_ok, valid]
  simp [Dict.empty, Dict.keys, Function.comp_def]

/-- The results of a run map one-to-one to the assertions of its artifact. -/
structure OneToOne (plan : RunPlan) (results : List ScenarioExecutionResult) : Prop where
  keys : (results.map (·.authorityKey)).Perm (plan.artifact.rows.map authorityKey)
  /-- The check of `build_verification_run` passes. -/
  normalized : ∃ authorities, normalizeResults plan.hashing plan.fingerprint plan.artifact
    results = .ok authorities

/-- The results of a run are normalised exactly when the identities are distinct. -/
theorem normalizeResults_ok_iff
    (evaluated : Evaluated plan.hashing config graph resolution resolutionFingerprint
      plan.artifact)
    {results : List ScenarioExecutionResult} (executed : plan.executeAll = .ok results) :
    (∃ authorities, normalizeResults plan.hashing plan.fingerprint plan.artifact results =
      .ok authorities) ↔ plan.artifact.DistinctIdentities := by
  have perm := map_authorityKey_perm evaluated executed
  constructor
  · rintro ⟨authorities, normalized⟩
    simp only [normalizeResults, bind_eq_ok] at normalized
    obtain ⟨assertions, isAssertions, -⟩ := normalized
    exact (evaluated.assertionAuthorities_eq_ok.mp isAssertions).1
  · intro distinct
    have rowsDistinct := evaluated.authorityKeys_nodup.mpr distinct
    have resultsDistinct := perm.nodup_iff.mpr rowsDistinct
    let assertions : Dict AuthorityKey (ScenarioInstance × AssertionApplicability) :=
      ⟨plan.artifact.rows.map fun row => (authorityKey row, row.2), by
        simpa [Function.comp_def] using rowsDistinct⟩
    let recorded : Dict AuthorityKey ScenarioExecutionResult :=
      ⟨results.map fun result => (result.authorityKey, result), by
        simpa [Function.comp_def] using resultsDistinct⟩
    have isAssertions : assertionAuthorities plan.hashing plan.artifact = .ok assertions :=
      evaluated.assertionAuthorities_eq_ok.mpr ⟨distinct, rfl⟩
    have isRecorded : executionResults plan.fingerprint results = .ok recorded :=
      (executionResults_eq_ok evaluated executed).mpr ⟨resultsDistinct, rfl⟩
    have same : requireOneToOne assertions recorded = .ok () := by
      rw [requireOneToOne_eq_ok]
      intro key
      simpa [assertions, recorded, Dict.keys, Function.comp_def] using perm.mem_iff.symm
    refine ⟨(assertions, recorded), ?_⟩
    rw [normalizeResults, isAssertions, ok_bind, isRecorded, ok_bind, same]
    rfl

end RunPlan

/-- The applicability of the sample route. -/
def sampleApplicability : ScenarioApplicabilityArtifact :=
  (evaluateApplicability sampleHashing none sampleSource sampleRepeatGraph
    (some sampleResolution) (some "resolution")).toOption.get (by decide)

theorem sampleApplicability_produced :
    evaluateApplicability sampleHashing none sampleSource sampleRepeatGraph
      (some sampleResolution) (some "resolution") = .ok sampleApplicability := rfl

/-- The identities of the sample requests, one longer than the other. -/
def sampleRequestId : Nat → RuntimeRequestId
  | 0 => "first"
  | 1 => "second"
  | ordinal + 2 => String.ofList (List.replicate (ordinal + 7) 'x')

theorem sampleRequestId_length (ordinal : Nat) :
    (sampleRequestId ordinal).length = ordinal + 5 := by
  match ordinal with
  | 0 => rfl
  | 1 => rfl
  | ordinal + 2 => simp [sampleRequestId]

/-- A session that answers every request and closes with a given transcript. -/
def sampleSession (transcript : RuntimeObservationTranscript) : ManagedRuntimeSession :=
  { requestId := sampleRequestId
    respond := fun _ _ => .ok 200
    close := fun _ => .ok transcript
    requestIdsDistinct := by
      intro one other same
      have lengths := congrArg String.length same
      rw [sampleRequestId_length, sampleRequestId_length] at lengths
      omega }


/-- The opening of a session that closes with a given transcript. -/
def sampleOpened (transcript : RuntimeObservationTranscript) : RuntimeSessionOpenResult :=
  { applicability := sampleApplicability
    artifact := sampleArtifact
    ingresses := [sampleBinding]
    session := some (.managed (sampleSession transcript))
    applicabilityValid := rfl
    controlsPlanned := by decide }

/-- The plan that opens such a session for every instance. -/
def samplePlan (transcript : RuntimeObservationTranscript) : RunPlan :=
  { hashing := sampleHashing
    fingerprint := fun _ => "result"
    artifact := sampleApplicability
    execution := fun _ item =>
      { sampleExecution sampleApplicability sampleRepeatGraph item with
        managedConfig := some "config"
        opened := some (sampleOpened transcript) }
    called := fun _ _ _ _ => ⟨rfl, rfl, rfl⟩
    sameFingerprint := fun _ _ => rfl }

end StateGuard
