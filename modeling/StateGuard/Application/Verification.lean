import StateGuard.Applicability.Instances
import StateGuard.Application.TrustExecutors

/-!
# A verification run

A run executes every instance of the applicability artifact and hands the results to the
normalisation, which asks that they map one-to-one to the assertions of the artifact.

`executeInstance` calls the executor of a scenario.  For an instance of the shape the engine
gives it, every executor does the same thing: it settles the report of each assertion of the
instance, in order, and packs it under the assertion's identity (`executeInstance_eq`).
-/

namespace StateGuard

open Checks EarlyReturn KeyOrder

namespace Execution

variable (execution : Execution)

/-- The report of one assertion. -/
def reportOf (scenario : ScenarioId) (key : AssertionKey) : Steps String Report Report :=
  match scenario with
  | .sg01 => execution.sg01Report
  | .sg02 => execution.sg02Report
  | .sg03 => execution.sg03Report
  | .sg04 => execution.sg04Report key
  | .sg05 => execution.sg05Report key
  | .sg06 => execution.sg06Report key
  | .sg07 => execution.sg07Report
  | .sg08 => execution.sg08Report key

/-- The control a result of the assertion names. -/
def controlFor (scenario : ScenarioId) (key : AssertionKey) : Option NormalControlId :=
  let item := execution.item? scenario
  match scenario with
  | .sg05 => controlOf item .sg05CustomerValue key
  | .sg06 => controlOf item .sg06CustomerValue key
  | _ => item.bind (·.normalControlId)

/-- `_execute_instance`. -/
def executeInstance : ScenarioId → Except String (List ScenarioExecutionResult)
  | .sg01 => do pure [← execution.executeSg01]
  | .sg02 => do pure [← execution.executeSg02]
  | .sg03 => do pure [← execution.executeSg03]
  | .sg04 => execution.executeSg04
  | .sg05 => execution.executeSg05
  | .sg06 => execution.executeSg06
  | .sg07 => do pure [← execution.executeSg07]
  | .sg08 => execution.executeSg08

/-- The result of one assertion of the instance. -/
def assertionResult (scenario : ScenarioId) (assertion : AssertionApplicability) :
    Except String ScenarioExecutionResult :=
  execution.packed scenario assertion.assertionId
    (execution.controlFor scenario assertion.key) (execution.reportOf scenario assertion.key)

end Execution

/-! ## The assertions of an instance of its shape -/

section Lookup

variable {hashing : Hashing} {scenario : ScenarioId} {item : ScenarioInstance}

theorem InstanceShape.assertionsByKey_entries (shape : InstanceShape hashing scenario item) :
    (Execution.assertionsByKey item).entries =
      item.assertions.map fun assertion => (assertion.key, assertion) := by
  refine Dict.ofList_entries ?_
  have keys := shape.keysUnique
  simpa [ScenarioInstance.keys, Function.comp_def] using keys

theorem InstanceShape.assertionsByKey_keys (shape : InstanceShape hashing scenario item) :
    (Execution.assertionsByKey item).keys = item.keys := by
  rw [Dict.keys, shape.assertionsByKey_entries, List.map_map]
  rfl

theorem InstanceShape.assertionsByKey_values (shape : InstanceShape hashing scenario item) :
    (Execution.assertionsByKey item).values = item.assertions := by
  rw [Dict.values, shape.assertionsByKey_entries, List.map_map]
  exact List.map_id _

/-- An assertion of the instance is found under its key. -/
theorem InstanceShape.get? (shape : InstanceShape hashing scenario item)
    {assertion : AssertionApplicability} (isAssertion : assertion ∈ item.assertions) :
    (Execution.assertionsByKey item).get? assertion.key = some assertion := by
  refine Dict.get?_of_mem_entries ?_
  rw [shape.assertionsByKey_entries]
  exact List.mem_map_of_mem isAssertion

theorem InstanceShape.assertionAt (shape : InstanceShape hashing scenario item)
    {assertion : AssertionApplicability} (isAssertion : assertion ∈ item.assertions) :
    Execution.assertionAt (Execution.assertionsByKey item) assertion.key = .ok assertion := by
  rw [Execution.assertionAt, shape.get? isAssertion]

/-- Both ways of naming an assertion give its identity. -/
theorem InstanceShape.assertionFor (shape : InstanceShape hashing scenario item)
    (execution : Execution) {assertion : AssertionApplicability}
    (isAssertion : assertion ∈ item.assertions) :
    execution.assertionFor item assertion.key = assertion.assertionId := by
  have sole := filter_of_distinct shape.keysUnique isAssertion
  simp only [Execution.assertionFor, Option.bind_some, sole, single?]

theorem InstanceShape.assertionNamed (shape : InstanceShape hashing scenario item)
    (execution : Execution) {assertion : AssertionApplicability}
    (isAssertion : assertion ∈ item.assertions) :
    execution.assertionNamed item assertion.key = assertion.assertionId := by
  rw [Execution.assertionNamed, shape.get? isAssertion]

theorem InstanceShape.catalogKeys (shape : InstanceShape hashing scenario item) :
    Execution.catalogKeys item scenario.assertionKeys = item.keys := by
  show scenario.assertionKeys.filter (· ∈ (Execution.assertionsByKey item).keys) = item.keys
  rw [shape.assertionsByKey_keys]
  exact filter_mem_of_sublist shape.keys scenario.assertionKeys_nodup

theorem ScenarioInstance.assertions_ne_nil (item : ScenarioInstance) : item.assertions ≠ [] := by
  obtain ⟨assertion, isAssertion, -⟩ := item.hasCore
  exact List.ne_nil_of_mem isAssertion

/-- A scenario with one key has one assertion of it. -/
theorem InstanceShape.sole (shape : InstanceShape hashing scenario item) {key : AssertionKey}
    (only : scenario.assertionKeys = [key]) :
    ∃ assertion, item.assertions = [assertion] ∧ assertion.key = key := by
  have keys := shape.keys
  rw [only, List.sublist_singleton, ScenarioInstance.keys, List.map_eq_nil_iff] at keys
  rcases keys with none | one
  · exact absurd none item.assertions_ne_nil
  · exact List.map_eq_singleton_iff.mp one

end Lookup

/-! ## The executors of an instance -/

/-- Every executor packs the report of each assertion of its instance. -/
theorem Execution.executeInstance_eq (execution : Execution) {hashing : Hashing}
    {scenario : ScenarioId} {item : ScenarioInstance}
    (found : execution.item? scenario = some item) (shape : InstanceShape hashing scenario item) :
    execution.executeInstance scenario =
      collect (execution.assertionResult scenario) item.assertions := by
  have single {key : AssertionKey} (only : scenario.assertionKeys = [key])
      {steps : Steps String Report Report} (report : execution.reportOf scenario key = steps)
      (control : execution.controlFor scenario key = item.normalControlId) :
      (do pure [← execution.packed scenario (execution.assertionFor item key)
          item.normalControlId steps]) =
        collect (execution.assertionResult scenario) item.assertions := by
    obtain ⟨assertion, assertions, rfl⟩ := shape.sole only
    have named : execution.assertionFor item assertion.key = assertion.assertionId :=
      shape.assertionFor execution (by simp [assertions])
    rw [assertions, collect, collect, assertionResult, named, report, control]
    rfl
  have named {build : AssertionKey → Except String ScenarioExecutionResult}
      (each : ∀ assertion ∈ item.assertions,
        build assertion.key = execution.assertionResult scenario assertion) :
      collect build item.keys = collect (execution.assertionResult scenario) item.assertions := by
    rw [ScenarioInstance.keys, collect_map]
    exact collect_congr each
  cases scenario with
  | sg01 =>
    rw [executeInstance, executeSg01, found]
    exact single rfl rfl (by simp only [controlFor, found]; rfl)
  | sg02 =>
    rw [executeInstance, executeSg02, found]
    exact single rfl rfl (by simp only [controlFor, found]; rfl)
  | sg03 =>
    rw [executeInstance, executeSg03, found]
    exact single rfl rfl (by simp only [controlFor, found]; rfl)
  | sg07 =>
    rw [executeInstance, executeSg07, found]
    exact single rfl rfl (by simp only [controlFor, found]; rfl)
  | sg04 =>
    rw [executeInstance, executeSg04, found, show sg04Catalog = ScenarioId.sg04.assertionKeys from
      rfl, shape.catalogKeys]
    refine named fun assertion isAssertion => ?_
    rw [shape.assertionNamed execution isAssertion]
    simp only [assertionResult, controlFor, found]
    rfl
  | sg05 =>
    rw [executeInstance, executeSg05, found, show sg05Catalog = ScenarioId.sg05.assertionKeys from
      rfl, shape.catalogKeys]
    refine named fun assertion isAssertion => ?_
    rw [shape.assertionNamed execution isAssertion]
    simp only [assertionResult, controlFor, found]
    rfl
  | sg06 =>
    rw [executeInstance, executeSg06, found, show sg06Catalog = ScenarioId.sg06.assertionKeys from
      rfl, shape.catalogKeys]
    refine named fun assertion isAssertion => ?_
    rw [shape.assertionNamed execution isAssertion]
    simp only [assertionResult, controlFor, found]
    rfl
  | sg08 =>
    have keys : execution.sg08Keys = item.keys := by
      have some : item.keys ≠ [] := by
        rw [ScenarioInstance.keys, ne_eq, List.map_eq_nil_iff]
        exact item.assertions_ne_nil
      rw [sg08Keys, found, shape.assertionsByKey_keys]
      split
      next none => exact absurd none some
      next => rfl
    rw [executeInstance, executeSg08, found, keys]
    refine named fun assertion isAssertion => ?_
    rw [shape.assertionFor execution isAssertion]
    simp only [assertionResult, controlFor, found]
    rfl

/-! ## The executions of a run -/

/-- The execution is called for one instance of an artifact, with the artifact's own
fingerprint, while the project still analyses to this artifact. -/
structure Execution.CalledFor (execution : Execution) (artifact : ScenarioApplicabilityArtifact)
    (item : ScenarioInstance) : Prop where
  applicability : execution.applicability = artifact
  instanceId : execution.scenarioInstanceId = item.instanceId
  expected : execution.expectedApplicabilityFingerprint = artifact.applicabilityFingerprint

theorem Execution.CalledFor.not_stale {execution : Execution}
    {artifact : ScenarioApplicabilityArtifact} {item : ScenarioInstance}
    (called : execution.CalledFor artifact item) : ¬ execution.Stale := by
  rw [Execution.Stale, called.applicability, called.expected, not_not]

namespace Evaluated

variable {hashing : Hashing} {config : Option MerchantPolicyConfig}
  {graph : PaymentSafetyGraphArtifact} {resolution : Option CustomerValueResolution}
  {resolutionFingerprint : Option Sha256Digest} {artifact : ScenarioApplicabilityArtifact}

/-- An instance of the artifact is found by its scenario and identity. -/
theorem scenarioInstance_eq
    (evaluated : Evaluated hashing config graph resolution resolutionFingerprint artifact)
    {scenario : ScenarioApplicability} (isScenario : scenario ∈ artifact.scenarios)
    {item : ScenarioInstance} (isItem : item ∈ scenario.instances) :
    scenarioInstance artifact scenario.scenarioId item.instanceId = some item := by
  have distinct : (artifact.scenarios.map (·.scenarioId)).Nodup := by
    rw [evaluated.scenarioIds]
    decide
  rw [scenarioInstance, find?_of_distinct distinct isScenario, Option.bind_some]
  exact find?_of_distinct scenario.instancesUnique isItem

/-- The instances of the artifact have the shape the executors expect. -/
theorem shape
    (evaluated : Evaluated hashing config graph resolution resolutionFingerprint artifact)
    {scenario : ScenarioApplicability} (isScenario : scenario ∈ artifact.scenarios)
    {item : ScenarioInstance} (isItem : item ∈ scenario.instances) :
    InstanceShape hashing scenario.scenarioId item := by
  rw [evaluated.instances scenario isScenario] at isItem
  exact instancesOf_shape isItem

end Evaluated

/-! ## The inputs of the sample executions -/

/-- Inputs that are the same on every path. -/
def sampleInputs : PreparedInputs :=
  { capturedWebhook := fun path => ⟨"fixture", "body", "event", path⟩
    grounding := none
    contextFingerprint := "context"
    capturedEvent := fun _ => ⟨"captured fixture", "captured body", "captured event"⟩
    authorizedEvent := fun _ => ⟨"authorized fixture", "authorized body", "authorized event"⟩
    checkoutSequence := fun binding path => ⟨binding.transport, path, "payment", "forged", "valid"⟩
    distinctEvents := fun _ => by decide }

/-- The execution of an instance without a managed runtime. -/
def sampleExecution (artifact : ScenarioApplicabilityArtifact) (graph : PaymentSafetyGraphArtifact)
    (item : ScenarioInstance) : Execution :=
  { hashing := sampleHashing
    executionId := "execution"
    definitionFingerprint := fun scenario => scenario.value
    resultFingerprint := fun _ => "result"
    applicability := artifact
    graph := graph
    scenarioInstanceId := item.instanceId
    expectedApplicabilityFingerprint := artifact.applicabilityFingerprint
    managedConfig := none
    webhookSecret := true
    checkoutSecret := true
    serverOrder := true
    opened := none
    inputs := sampleInputs }

theorem sampleExecution_called (artifact : ScenarioApplicabilityArtifact)
    (graph : PaymentSafetyGraphArtifact) (item : ScenarioInstance) :
    (sampleExecution artifact graph item).CalledFor artifact item := ⟨rfl, rfl, rfl⟩

end StateGuard
