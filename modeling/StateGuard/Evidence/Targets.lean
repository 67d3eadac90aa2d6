import StateGuard.Applicability.Engine
import StateGuard.Evidence.Normalization

/-!
# The targets of the checks

The instances of one scenario differ in the target of their checks: in the ingress, or in the edge
of their control (`instanceId_of_target`).  An instance of the catalog either stands alone in its
scenario or is anchored, to a control or to an ingress that no control reaches (`Anchored`).
-/

namespace StateGuard

namespace Evidence

open Checks KeyOrder

section

variable {hashing : Hashing} {graph : PaymentSafetyGraphArtifact}
  {resolution : Option CustomerValueResolution} {controls : List NormalControlInstance}
  {policy : MerchantPolicyAssessment}

/-! ## Anchored instances -/

/-- What an instance of the catalog is about. -/
inductive Anchored (hashing : Hashing) (controls : List NormalControlInstance)
    (scenario : ScenarioId) (item : ScenarioInstance) : Prop
  | control (control : NormalControlInstance) (known : control ∈ controls)
      (named : item.normalControlId = some control.controlId)
      (located : item.ingressNodeId = some control.ingressNodeId)
      (identity : item.instanceId = hashing.scenarioInstanceId scenario control.controlId)
  | ingress (nodeId : GraphNodeId) (unnamed : item.normalControlId = none)
      (located : item.ingressNodeId = some nodeId)
      (identity : item.instanceId = hashing.scenarioInstanceId scenario nodeId)
      (alone : ∀ control ∈ controls, control.ingressNodeId ≠ nodeId)

/-- The instances of a scenario: one alone, or anchored ones. -/
def Separated (hashing : Hashing) (controls : List NormalControlInstance) (scenario : ScenarioId)
    (items : List ScenarioInstance) : Prop :=
  (∃ catalog, items = [catalog]) ∨ ∀ item ∈ items, Anchored hashing controls scenario item

theorem separated_orCatalog {scenario : ScenarioId} {items : List ScenarioInstance}
    {catalog : ScenarioInstance} (each : ∀ item ∈ items, Anchored hashing controls scenario item) :
    Separated hashing controls scenario (orCatalog items catalog) := by
  cases items with
  | nil => exact .inl ⟨catalog, rfl⟩
  | cons first rest => exact .inr each

/-- An instance of a control is anchored to it. -/
theorem anchored_instanceOf (known : ∀ control ∈ controls, ControlOf graph control)
    {scenario : ScenarioId} {control : NormalControlInstance} (membership : control ∈ controls)
    {assertions : List AssertionApplicability} {hasCore : HasCore assertions} :
    Anchored hashing controls scenario
      (instanceOf hashing scenario control.controlId (graph.node? control.ingressNodeId)
        (some control) assertions hasCore) := by
  obtain ⟨source, found, sameId, -⟩ := (known control membership).node?
  refine .control control membership rfl ?_ rfl
  show (graph.node? control.ingressNodeId).map (·.nodeId) = some control.ingressNodeId
  rw [found, Option.map_some, sameId]

theorem separated_webhookInstances (known : ∀ control ∈ controls, ControlOf graph control)
    {scenario : ScenarioId} {key : AssertionKey} {available : List GraphNode}
    {state : NormalControlInstance → Assessed} :
    Separated hashing controls scenario
      (webhookInstances hashing graph resolution controls scenario key available state) := by
  refine separated_orCatalog fun item membership => ?_
  obtain ⟨control, isControl, rfl⟩ := List.mem_map.mp membership
  exact anchored_instanceOf known (List.mem_of_mem_filter isControl)

/-- The instance of an ingress is anchored to its control, or to itself where it has none. -/
theorem anchored_trustInstance {scenario : ScenarioId} {mutationKey valueKey : AssertionKey}
    {ingress : GraphNode} {control : Option NormalControlInstance}
    (membership : control ∈ controlsOfIngress controls ingress)
    {mutationState valueState : Assessed} :
    Anchored hashing controls scenario
      (trustInstance hashing scenario mutationKey valueKey ingress control mutationState
        valueState) := by
  rw [controlsOfIngress] at membership
  split at membership
  next none =>
    rw [List.mem_singleton] at membership
    subst membership
    refine .ingress ingress.nodeId rfl rfl rfl fun control isControl same => ?_
    have matched : control ∈ controls.filter (·.ingressNodeId = ingress.nodeId) :=
      List.mem_filter.mpr ⟨isControl, decide_eq_true same⟩
    rw [none] at matched
    cases matched
  next =>
    obtain ⟨known, isMatched, rfl⟩ := List.mem_map.mp membership
    obtain ⟨isControl, same⟩ := List.mem_filter.mp isMatched
    exact .control known isControl rfl (congrArg some (of_decide_eq_true same).symm) rfl

/-- The instances of a scenario are separated. -/
theorem separated_instancesOf (known : ∀ control ∈ controls, ControlOf graph control)
    (scenario : ScenarioId) :
    Separated hashing controls scenario
      (instancesOf hashing graph resolution controls policy scenario) := by
  cases scenario with
  | sg01 | sg02 | sg03 => exact separated_webhookInstances known
  | sg04 =>
    refine separated_orCatalog fun item membership => ?_
    obtain ⟨control, isControl, rfl⟩ := List.mem_map.mp membership
    exact anchored_instanceOf known (List.mem_of_mem_filter isControl)
  | sg05 | sg06 =>
    refine separated_orCatalog fun item membership => ?_
    obtain ⟨ingress, -, isItem⟩ := List.mem_flatMap.mp membership
    obtain ⟨control, isControl, rfl⟩ := List.mem_map.mp isItem
    exact anchored_trustInstance isControl
  | sg07 =>
    refine separated_orCatalog fun item membership => ?_
    split at membership
    next => cases membership
    next =>
      obtain ⟨control, isControl, rfl⟩ := List.mem_map.mp membership
      exact anchored_instanceOf known (List.mem_of_mem_filter isControl)
  | sg08 =>
    refine separated_orCatalog fun item membership => ?_
    obtain ⟨control, isControl, rfl⟩ := List.mem_map.mp membership
    exact anchored_instanceOf known (List.mem_of_mem_filter (List.mem_of_mem_filter isControl))

/-! ## Controls and their edges -/

theorem connectivityEdge_of_built {selected : SymbolId} {fingerprint : Sha256Digest}
    {edge : GraphEdge} {control : NormalControlInstance}
    (built : controlOfEdge hashing graph selected fingerprint edge = some control) :
    control.connectivityEdgeId = edge.edgeId := by
  rw [controlOfEdge] at built
  simp only [Option.bind_eq_bind, Option.bind_eq_some_iff] at built
  obtain ⟨source, -, target, -, ingress, -, built⟩ := built
  split at built
  next =>
    split at built
    next =>
      cases built
      rfl
    next => cases built
  next => cases built

/-- The controls of a graph are built from its edges, for one symbol and one resolution. -/
theorem normalControls_built (resolution : Option CustomerValueResolution)
    (resolutionFingerprint : Option Sha256Digest) :
    ∃ selected fingerprint, ∀ control ∈
      normalControls hashing graph resolution resolutionFingerprint,
      ∃ edge ∈ graph.edges, controlOfEdge hashing graph selected fingerprint edge = some control := by
  unfold normalControls
  split
  next fingerprint =>
    split
    next selected _ _ =>
      refine ⟨selected, fingerprint, fun control membership => ?_⟩
      rw [mem_sortedByKey] at membership
      exact List.mem_filterMap.mp membership
    next => exact ⟨"", "", fun control membership => by cases membership⟩
  next => exact ⟨"", "", fun control membership => by cases membership⟩

/-- Two controls of a graph differ in their edges. -/
theorem control_of_connectivityEdge {resolutionFingerprint : Option Sha256Digest}
    {a b : NormalControlInstance}
    (ma : a ∈ normalControls hashing graph resolution resolutionFingerprint)
    (mb : b ∈ normalControls hashing graph resolution resolutionFingerprint)
    (same : a.connectivityEdgeId = b.connectivityEdgeId) : a = b := by
  obtain ⟨selected, fingerprint, built⟩ :=
    @normalControls_built hashing graph resolution resolutionFingerprint
  obtain ⟨edgeA, isEdgeA, builtA⟩ := built a ma
  obtain ⟨edgeB, isEdgeB, builtB⟩ := built b mb
  rw [connectivityEdge_of_built builtA, connectivityEdge_of_built builtB] at same
  have sameEdge := List.inj_on_of_nodup_map graph.edgesUnique isEdgeA isEdgeB same
  subst sameEdge
  rw [builtA] at builtB
  exact Option.some.inj builtB

end

/-! ## Targets -/

section

variable {hashing : Hashing} {config : Option MerchantPolicyConfig}
  {graph : PaymentSafetyGraphArtifact} {resolution : Option CustomerValueResolution}
  {resolutionFingerprint : Option Sha256Digest} {artifact : ScenarioApplicabilityArtifact}

theorem control?_of_mem
    (evaluated : Evaluated hashing config graph resolution resolutionFingerprint artifact)
    {control : NormalControlInstance} (membership : control ∈ artifact.normalControls) :
    artifact.control? control.controlId = some control :=
  find?_of_distinct evaluated.controls_nodup membership

/-- What a target takes from its instance. -/
theorem targetReference_eq_ok {applicability : ScenarioApplicabilityArtifact}
    {item : ScenarioInstance} {assertion : AssertionApplicability}
    {result : ScenarioExecutionResult} {targets : CheckTargetReference}
    (found : targetReference applicability graph item assertion result = .ok targets) :
    targets.ingressNodeId = item.ingressNodeId ∧ targets.connectivityEdgeId =
      (identityControl applicability item result).map (·.connectivityEdgeId) := by
  simp only [targetReference, bind_eq_ok, exists_unit, raiseIf_eq_ok, pure_eq_ok] at found
  obtain ⟨-, -, rfl⟩ := found
  exact ⟨rfl, rfl⟩

/-- Two instances of a scenario whose checks have the same ingress and the same edge are one. -/
theorem instanceId_of_target
    (evaluated : Evaluated hashing config graph resolution resolutionFingerprint artifact)
    {scenario : ScenarioId} {a b : ScenarioInstance}
    (ma : a ∈ instancesOf hashing graph resolution artifact.normalControls artifact.policy scenario)
    (mb : b ∈ instancesOf hashing graph resolution artifact.normalControls artifact.policy scenario)
    {resultA resultB : ScenarioExecutionResult}
    (sameIngress : a.ingressNodeId.getD "NO_INGRESS" = b.ingressNodeId.getD "NO_INGRESS")
    (sameEdge : ((identityControl artifact a resultA).map (·.connectivityEdgeId)).getD
        "NO_CONNECTIVITY_EDGE" =
      ((identityControl artifact b resultB).map (·.connectivityEdgeId)).getD
        "NO_CONNECTIVITY_EDGE") :
    a.instanceId = b.instanceId := by
  have separated := @separated_instancesOf hashing graph resolution artifact.normalControls
    artifact.policy (fun control => evaluated.controlOf) scenario
  rcases separated with ⟨catalog, alone⟩ | anchored
  · rw [alone, List.mem_singleton] at ma mb
    rw [ma, mb]
  · cases anchored a ma with
    | control controlA knownA namedA locatedA identityA =>
      cases anchored b mb with
      | control controlB knownB namedB locatedB identityB =>
        rw [identityControl, identityControl, namedA, namedB] at sameEdge
        simp only [control?_of_mem evaluated knownA, control?_of_mem evaluated knownB,
          Option.map_some, Option.getD_some] at sameEdge
        rw [evaluated.controls] at knownA knownB
        rw [identityA, identityB, control_of_connectivityEdge knownA knownB sameEdge]
      | ingress nodeId unnamed locatedB identityB aloneB =>
        rw [locatedA, locatedB] at sameIngress
        exact absurd sameIngress (aloneB controlA knownA)
    | ingress nodeId unnamed locatedA identityA aloneA =>
      cases anchored b mb with
      | control controlB knownB namedB locatedB identityB =>
        rw [locatedA, locatedB] at sameIngress
        exact absurd sameIngress.symm (aloneA controlB knownB)
      | ingress other unnamedB locatedB identityB aloneB =>
        rw [locatedA, locatedB, Option.getD_some, Option.getD_some] at sameIngress
        rw [identityA, identityB, sameIngress]

end

end Evidence

end StateGuard
