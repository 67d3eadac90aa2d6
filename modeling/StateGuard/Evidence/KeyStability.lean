import StateGuard.Application.RunResults
import StateGuard.Evidence.RunValidity
import StateGuard.Runtime.PlanTotality

/-!
# Check keys do not depend on the run

The targets of a check are those that the evidence of its assertion refers to, and those that were
observed.  What the executors observe is within the evidence (`within_of_executed`), so a check has
its targets, and its key, before anything is executed (`targetReference_of_within`).
-/

namespace StateGuard

namespace Evidence

open Checks EarlyReturn KeyOrder

/-! ## Observations within the evidence -/

/-- What was observed is what the evidence of an assertion refers to. -/
structure Within (graph : PaymentSafetyGraphArtifact) (assertion : AssertionApplicability)
    (observations : List ScenarioObservation) : Prop where
  mutations : ∀ mutation ∈ observations.filterMap (·.mutation?),
    ∀ nodeId ∈ mutation.targetIds, nodeId ∈ referencesOf assertion .graphNode
  acknowledgements : ∀ customer ∈ observations.filterMap (·.customer?),
    ∀ failure ∈ customer.acknowledgementFailure,
      failure.acknowledgementNodeId ∈ referencesOf assertion .graphNode ∧
        ∃ node, graph.node? failure.acknowledgementNodeId = some node ∧
          node.acknowledgement?.isSome = true

theorem within_nil (graph : PaymentSafetyGraphArtifact) (assertion : AssertionApplicability) :
    Within graph assertion [] :=
  ⟨by simp, by simp⟩

theorem within_of_plain {graph : PaymentSafetyGraphArtifact} {assertion : AssertionApplicability}
    {scenario : ScenarioId} {report : Report} (plain : report.Plain scenario) :
    Within graph assertion report.observations := by
  rw [plain.observations]
  exact within_nil graph assertion

theorem mem_referencesOf {assertion : AssertionApplicability} {nodeId : GraphNodeId}
    (listed : nodeId ∈ evidenceNodeIds assertion.reasons) :
    nodeId ∈ referencesOf assertion .graphNode := by
  simpa [evidenceNodeIds, referencesOf] using listed

/-- The evidence of some of the reasons is evidence. -/
theorem mem_evidenceNodeIds_of_filter {reasons : List ApplicabilityReason}
    {keep : ApplicabilityReason → Bool} {nodeId : GraphNodeId}
    (listed : nodeId ∈ evidenceNodeIds (reasons.filter keep)) :
    nodeId ∈ evidenceNodeIds reasons := by
  obtain ⟨reason, isReason, evidence⟩ := mem_evidenceNodeIds.mp listed
  exact mem_evidenceNodeIds.mpr ⟨reason, List.mem_of_mem_filter isReason, evidence⟩

/-! ## What the reducers observe -/

theorem acknowledgementNodeId_of_summarized {events : List RuntimeObservationEvent}
    {requestId : RuntimeRequestId} {nodeId : GraphNodeId}
    {summary : Option AcknowledgementFailureObservation}
    (summarized : summarizeAcknowledgementFailure events requestId nodeId = .ok summary) :
    ∀ failure ∈ summary, failure.acknowledgementNodeId = nodeId := by
  intro failure isFailure
  unfold summarizeAcknowledgementFailure at summarized
  split at summarized
  next event _ =>
    obtain ⟨observation, built, rfl⟩ := (map_eq_ok _ _ _).mp summarized
    cases isFailure
    unfold acknowledgementObservation at built
    split at built
    next => cases built
    next =>
      split at built
      next =>
        split at built
        next =>
          cases built
          rfl
        next => cases built
      next => cases built
  next =>
    cases summarized
    cases isFailure

theorem observeCustomer_plain {transcript : RuntimeObservationTranscript}
    {controlId : NormalControlId} {request : RuntimeRequestResult}
    {observation : ScenarioRequestObservation}
    (observed : observeCustomer transcript controlId request = .ok observation) :
    observation.acknowledgementFailure = none := by
  simp only [observeCustomer, bind_eq_ok, pure_eq_ok] at observed
  obtain ⟨observations, -, rfl⟩ := observed
  rfl

/-- A failure is injected in the retry scenario only, into the acknowledgement it asks for. -/
theorem injected_of_observeCustomers {scenario : ScenarioId}
    {transcript : RuntimeObservationTranscript} {controlId : NormalControlId} {nodeId : GraphNodeId}
    {requests : List RuntimeRequestResult} {observations : List ScenarioRequestObservation}
    (observed : observeCustomers scenario transcript controlId nodeId requests = .ok observations) :
    ∀ observation ∈ observations, ∀ failure ∈ observation.acknowledgementFailure,
      scenario = .sg03 ∧ failure.acknowledgementNodeId = nodeId := by
  intro observation isObservation failure isFailure
  cases requests with
  | nil =>
    cases observed
    cases isObservation
  | cons first rest =>
    simp only [observeCustomers, bind_eq_ok, pure_eq_ok] at observed
    obtain ⟨initial, isInitial, later, isLater, rfl⟩ := observed
    rcases List.mem_cons.mp isObservation with rfl | inRest
    · cases scenario with
      | sg03 =>
        simp only [observeFirst, observeInjected, bind_eq_ok, pure_eq_ok] at isInitial
        obtain ⟨summary, summarized, plain, -, rfl⟩ := isInitial
        exact ⟨rfl, acknowledgementNodeId_of_summarized summarized failure isFailure⟩
      | sg01 | sg02 | sg04 | sg05 | sg06 | sg07 | sg08 =>
        rw [observeCustomer_plain isInitial] at isFailure
        cases isFailure
    · obtain ⟨request, -, isPlain⟩ := exists_of_mem_collect isLater inRest
      rw [observeCustomer_plain isPlain] at isFailure
      cases isFailure

/-- The observations of a customer value are within the evidence, if the acknowledgement of a retry
is. -/
theorem within_customers {graph : PaymentSafetyGraphArtifact} {assertion : AssertionApplicability}
    {scenario : ScenarioId} {transcript : RuntimeObservationTranscript}
    {controlId : NormalControlId} {nodeId : GraphNodeId} {requests : List RuntimeRequestResult}
    {observations : List ScenarioRequestObservation}
    (observed : observeCustomers scenario transcript controlId nodeId requests = .ok observations)
    (known : scenario = .sg03 → nodeId ∈ referencesOf assertion .graphNode ∧
      ∃ node, graph.node? nodeId = some node ∧ node.acknowledgement?.isSome = true) :
    Within graph assertion (observations.map .customer) := by
  refine ⟨fun mutation isMutation => ?_, fun customer isCustomer failure isFailure => ?_⟩
  · obtain ⟨observation, isObservation, same⟩ := List.mem_filterMap.mp isMutation
    obtain ⟨customer, -, rfl⟩ := List.mem_map.mp isObservation
    cases same
  · obtain ⟨observation, isObservation, same⟩ := List.mem_filterMap.mp isCustomer
    obtain ⟨other, isOther, rfl⟩ := List.mem_map.mp isObservation
    cases same
    obtain ⟨retry, rfl⟩ := injected_of_observeCustomers observed customer isOther failure isFailure
    exact known retry

theorem within_mutations {graph : PaymentSafetyGraphArtifact} {assertion : AssertionApplicability}
    {transcript : RuntimeObservationTranscript} {nodeIds : List GraphNodeId}
    {requests : List RuntimeRequestResult} {observations : List MutationScenarioRequestObservation}
    (observed : observeMutations transcript nodeIds requests = .ok observations)
    (known : ∀ nodeId ∈ nodeIds, nodeId ∈ referencesOf assertion .graphNode) :
    Within graph assertion (observations.map .mutation) := by
  refine ⟨fun mutation isMutation nodeId isTarget => ?_, fun customer isCustomer => ?_⟩
  · obtain ⟨observation, isObservation, same⟩ := List.mem_filterMap.mp isMutation
    obtain ⟨other, isOther, rfl⟩ := List.mem_map.mp isObservation
    cases same
    obtain ⟨request, -, summarized⟩ := exists_of_mem_collect observed isOther
    rw [(summarizeMutationObservations_eq_ok summarized).targetIds] at isTarget
    exact known nodeId isTarget
  · obtain ⟨observation, isObservation, same⟩ := List.mem_filterMap.mp isCustomer
    obtain ⟨other, -, rfl⟩ := List.mem_map.mp isObservation
    cases same

/-! ## What the executors observe -/

/-- Every acknowledgement of a session is one that planning makes of a node of the graph. -/
def Planned (graph : PaymentSafetyGraphArtifact) (opened : RuntimeSessionOpenResult) : Prop :=
  ∀ capability ∈ opened.artifact.acknowledgements, ∃ entry ∈ acknowledgementNodes graph,
    acknowledgementTarget graph entry = .ok capability.target

section

variable {graph : PaymentSafetyGraphArtifact} {execution : Execution} {item : ScenarioInstance}
  {assertion : AssertionApplicability}

/-- The acknowledgements of a session opened on a plan are planned. -/
theorem planned_of_built {index : SourceIndexArtifact} {plan : RuntimeTargetPlan}
    {opened : RuntimeSessionOpenResult}
    (built : buildRuntimeTargetPlan index graph opened.applicability = .ok plan)
    (targets : ∀ capability ∈ opened.artifact.acknowledgements,
      capability.target ∈ plan.acknowledgements) : Planned graph opened := by
  intro capability membership
  have isTarget := targets capability membership
  simp only [buildRuntimeTargetPlan, bind_eq_ok, exists_unit, pure_eq_ok] at built
  obtain ⟨-, -, -, -, customers, -, mutations, -, acknowledgements, collected, -, rfl⟩ := built
  exact exists_of_mem_collect collected ((mem_sortedByKey _ _ _).mp isTarget)

/-- A planned acknowledgement is an acknowledgement boundary of the graph. -/
theorem acknowledgement_of_planned {opened : RuntimeSessionOpenResult}
    (planned : Planned graph opened) {capability : AcknowledgementRuntimeCapability}
    (membership : capability ∈ opened.artifact.acknowledgements) :
    ∃ node, graph.node? capability.target.acknowledgementNodeId = some node ∧
      node.acknowledgement?.isSome = true := by
  obtain ⟨entry, isEntry, target⟩ := planned capability membership
  obtain ⟨ingress, -, same⟩ := acknowledgementTarget_eq_ok.mp target
  obtain ⟨isNode, isAcknowledgement⟩ := mem_acknowledgementNodes.mp isEntry
  rw [same]
  refine ⟨entry.1, find?_of_distinct graph.nodesUnique isNode, ?_⟩
  rw [isAcknowledgement]
  rfl

/-- The acknowledgement a retry fails is one of the evidence of its assertion. -/
theorem retry_acknowledgement (found : execution.item? .sg03 = some item)
    (planned : ∀ opened, execution.opened = some opened → Planned graph opened)
    {admission : CustomerAdmission} (admitted : execution.sg03Admission = .ok admission) :
    ∃ assertion, item.assertions.find? (·.key = .sg03) = some assertion ∧
      admission.acknowledgementNodeId ∈ referencesOf assertion .graphNode ∧
      ∃ node, graph.node? admission.acknowledgementNodeId = some node ∧
        node.acknowledgement?.isSome = true := by
  simp only [Execution.sg03Admission, bind_eq_ok, pure_eq_ok, exists_unit, found,
    orReturn_eq_ok, Option.some.injEq, exists_eq_left'] at admitted
  obtain ⟨-, controlId, -, assertion, isAssertion, -, ⟨opened, session⟩, isOpened, closed, -,
    ⟨customer, acknowledgement⟩, isTarget, -, -, -, rfl⟩ := admitted
  obtain ⟨configFingerprint, opens, -, -⟩ := openSession_eq_ok.mp isOpened
  refine ⟨assertion, isAssertion, ?_⟩
  unfold Execution.retryTarget? at isTarget
  split at isTarget
  next customer' acknowledgement' _ isSole =>
    have listed : acknowledgement' ∈ [acknowledgement'] := List.mem_singleton_self _
    rw [← single?_eq_some.mp isSole] at listed
    obtain ⟨membership, within⟩ := List.mem_filter.mp listed
    rw [decide_eq_true_eq] at within
    split at isTarget
    next =>
      cases isTarget
      exact ⟨within.1, acknowledgement_of_planned (planned opened opens.opened) membership⟩
    next => cases isTarget
  next => cases isTarget

/-! ### The reports of the assertions -/

theorem ensures_customer {scenario : ScenarioId} {admission : CustomerAdmission} {index : Nat}
    (known : scenario = .sg03 →
      admission.acknowledgementNodeId ∈ referencesOf assertion .graphNode ∧
        ∃ node, graph.node? admission.acknowledgementNodeId = some node ∧
          node.acknowledgement?.isSome = true) :
    Ensures (admission.report scenario index)
      (fun report => Within graph assertion report.observations)
      (fun report => Within graph assertion report.observations) :=
  .bind .attempt fun _ observed => .pure (within_customers observed known)

theorem ensures_trustCustomer {scenario : ScenarioId} {admission : TrustAdmission}
    (other : scenario ≠ .sg03) :
    Ensures (admission.customerReport scenario)
      (fun report => Within graph assertion report.observations)
      (fun report => Within graph assertion report.observations) := by
  refine .bind (.orReturn fun _ => within_nil graph assertion) fun _ _ => ?_
  refine .bind (.orReturn fun _ => within_nil graph assertion) fun _ _ => ?_
  exact .bind .attempt fun _ observed => .pure (within_customers observed
    fun same => absurd same other)

theorem ensures_trustMutation {admission : TrustAdmission}
    {verdict : MutationScenarioRequestObservation → MutationScenarioRequestObservation → Verdict}
    (known : ∀ nodeId ∈ admission.nodeIds, nodeId ∈ referencesOf assertion .graphNode) :
    Ensures (admission.mutationReport verdict)
      (fun report => Within graph assertion report.observations)
      (fun report => Within graph assertion report.observations) := by
  refine .bind (.returnIf fun _ => within_nil graph assertion) fun _ _ => ?_
  exact .bind .attempt fun _ observed => .pure (within_mutations observed known)

/-- The mutations that the out-of-order scenario tracks are those of its regression assertion. -/
theorem sg04Admission_nodeIds (found : execution.item? .sg04 = some item) {key : AssertionKey}
    {admission : TrustAdmission} (admitted : execution.sg04Admission key = .ok admission) :
    ∃ tracked, Execution.assertionAt (Execution.assertionsByKey item) .sg04StateRegression =
        .ok tracked ∧ admission.nodeIds = evidenceNodeIds tracked.reasons := by
  simp only [Execution.sg04Admission, bind_eq_ok, pure_eq_ok, exists_unit, found,
    orReturn_eq_ok, Option.some.injEq, exists_eq_left', attempt_eq_ok] at admitted
  obtain ⟨-, assertion, -, -, controlId, -, ⟨opened, session⟩, -, -, ingress, -, tracked, isTracked,
    closed, -, -, rfl⟩ := admitted
  exact ⟨tracked, isTracked, rfl⟩

theorem sg05Admission_nodeIds (found : execution.item? .sg05 = some item) {key : AssertionKey}
    {admission : TrustAdmission} (admitted : execution.sg05Admission key = .ok admission) :
    ∃ tracked, Execution.assertionAt (Execution.assertionsByKey item) .sg05Mutation =
        .ok tracked ∧ ∀ nodeId ∈ admission.nodeIds, nodeId ∈ evidenceNodeIds tracked.reasons := by
  simp only [Execution.sg05Admission, bind_eq_ok, pure_eq_ok, exists_unit, found,
    orReturn_eq_ok, Option.some.injEq, exists_eq_left', attempt_eq_ok] at admitted
  obtain ⟨-, assertion, -, -, ⟨opened, session⟩, -, -, ingress, -, tracked, isTracked, value, -,
    closed, -, -, -, rfl⟩ := admitted
  exact ⟨tracked, isTracked, fun nodeId listed => mem_evidenceNodeIds_of_filter listed⟩

theorem sg06Admission_nodeIds (found : execution.item? .sg06 = some item) {key : AssertionKey}
    {admission : TrustAdmission} (admitted : execution.sg06Admission key = .ok admission) :
    ∃ tracked, Execution.assertionAt (Execution.assertionsByKey item) .sg06Mutation =
        .ok tracked ∧ admission.nodeIds = evidenceNodeIds tracked.reasons := by
  simp only [Execution.sg06Admission, bind_eq_ok, pure_eq_ok, exists_unit, found,
    orReturn_eq_ok, Option.some.injEq, exists_eq_left', attempt_eq_ok] at admitted
  obtain ⟨-, assertion, -, -, ⟨opened, session⟩, -, -, ingress, -, -, binding, -, tracked, isTracked,
    value, -, closed, -, -, rfl⟩ := admitted
  exact ⟨tracked, isTracked, rfl⟩

theorem InstanceShape.key_mem {hashing : Hashing} {scenario : ScenarioId}
    (shape : InstanceShape hashing scenario item) (isAssertion : assertion ∈ item.assertions) :
    assertion.key ∈ scenario.assertionKeys :=
  shape.keys.subset (List.mem_map_of_mem isAssertion)

/-- Whatever an executor reports of an assertion, it observed nothing outside the evidence. -/
theorem ensures_report {hashing : Hashing} {scenario : ScenarioId}
    (found : execution.item? scenario = some item) (shape : InstanceShape hashing scenario item)
    (isAssertion : assertion ∈ item.assertions)
    (planned : ∀ opened, execution.opened = some opened → Planned graph opened) :
    Ensures (execution.reportOf scenario assertion.key)
      (fun report => Within graph assertion report.observations)
      (fun report => Within graph assertion report.observations) := by
  have early {other : ScenarioId} :
      ∀ report : Report, report.Plain other → Within graph assertion report.observations :=
    fun _ plain => within_of_plain plain
  have named := InstanceShape.key_mem shape isAssertion
  have byKey := shape.assertionAt isAssertion
  cases scenario with
  | sg01 =>
    exact .bind ((ensures_sg01Admission found).relax early) fun _ _ =>
      ensures_customer fun same => by cases same
  | sg02 =>
    exact .bind ((ensures_sg02Admission found).relax early) fun _ _ =>
      ensures_customer fun same => by cases same
  | sg03 =>
    refine .bind (((ensures_sg03Admission found).relax early).of_eq_ok fun _ ended => ended)
      fun admission admitted => ensures_customer fun _ => ?_
    obtain ⟨other, isOther, known⟩ := retry_acknowledgement found planned admitted
    have key : assertion.key = .sg03 := by simpa [ScenarioId.assertionKeys] using named
    have same := find?_of_distinct shape.keysUnique isAssertion
    rw [key, isOther] at same
    rwa [Option.some.inj same] at known
  | sg04 =>
    refine .bind (((ensures_sg04Admission found assertion.key).relax early).of_eq_ok
      fun _ ended => ended) fun admission admitted => ?_
    split
    next => exact ensures_trustCustomer (by decide)
    next tracking =>
      obtain ⟨tracked, isTracked, nodeIds⟩ := sg04Admission_nodeIds found admitted
      have key : assertion.key = .sg04StateRegression := by
        simpa [ScenarioId.assertionKeys, tracking] using named
      rw [key, isTracked] at byKey
      cases byKey
      exact ensures_trustMutation fun nodeId listed => mem_referencesOf (nodeIds ▸ listed)
  | sg05 =>
    refine .bind (((ensures_sg05Admission found assertion.key).relax early).of_eq_ok
      fun _ ended => ended) fun admission admitted => ?_
    split
    next => exact ensures_trustCustomer (by decide)
    next tracking =>
      obtain ⟨tracked, isTracked, nodeIds⟩ := sg05Admission_nodeIds found admitted
      have key : assertion.key = .sg05Mutation := by
        simpa [ScenarioId.assertionKeys, tracking] using named
      rw [key, isTracked] at byKey
      cases byKey
      exact ensures_trustMutation fun nodeId listed => mem_referencesOf (nodeIds nodeId listed)
  | sg06 =>
    refine .bind (((ensures_sg06Admission found assertion.key).relax early).of_eq_ok
      fun _ ended => ended) fun admission admitted => ?_
    split
    next => exact ensures_trustCustomer (by decide)
    next tracking =>
      obtain ⟨tracked, isTracked, nodeIds⟩ := sg06Admission_nodeIds found admitted
      have key : assertion.key = .sg06Mutation := by
        simpa [ScenarioId.assertionKeys, tracking] using named
      rw [key, isTracked] at byKey
      cases byKey
      exact ensures_trustMutation fun nodeId listed => mem_referencesOf (nodeIds ▸ listed)
  | sg07 =>
    exact .bind ((ensures_sg07Admission found).relax early) fun _ _ =>
      ensures_customer fun same => by cases same
  | sg08 =>
    refine .bind ((ensures_sg08Admission found assertion.key).relax early) fun _ _ => ?_
    exact .bind .attempt fun _ _ => ensures_customer fun same => by cases same

/-- A result observed nothing outside the evidence of the assertion it is of. -/
theorem within_of_executed {hashing : Hashing} {scenario : ScenarioId}
    {artifact : ScenarioApplicabilityArtifact} (called : execution.CalledFor artifact item)
    (found : execution.item? scenario = some item) (shape : InstanceShape hashing scenario item)
    (planned : ∀ opened, execution.opened = some opened → Planned graph opened)
    {results : List ScenarioExecutionResult}
    (executed : execution.executeInstance scenario = .ok results) :
    ∀ result ∈ results, ∃ assertion ∈ item.assertions,
      resultKey result = rowKey (scenario, item, assertion) ∧
        Within graph assertion result.requestObservations := by
  rw [execution.executeInstance_eq found shape] at executed
  intro result isResult
  obtain ⟨assertion, isAssertion, packed⟩ := exists_of_mem_collect executed isResult
  obtain ⟨report, settled, payload⟩ := Execution.packed_eq_ok packed
  refine ⟨assertion, isAssertion, ?_, ?_⟩
  · rw [resultKey, rowKey, payload]
    simp [Packing.payload, Execution.packing, called.instanceId]
  · have within := (ensures_report found shape isAssertion planned).of_settle settled
    rw [payload]
    exact within

end

/-! ## The targets of a check -/

theorem sortedSet_congr {a b : List String} (same : ∀ item, item ∈ a ↔ item ∈ b) :
    sortedSet a = sortedSet b := by
  refine List.Perm.eq_of_pairwise' (sortedSet_pairwise a) (sortedSet_pairwise b) ?_
  refine (List.perm_ext_iff_of_nodup (sortedSet_nodup a) (sortedSet_nodup b)).mpr fun item => ?_
  rw [mem_sortedSet, mem_sortedSet, same item]

section

variable {graph : PaymentSafetyGraphArtifact} {assertion : AssertionApplicability}
  {result result' : ScenarioExecutionResult}

/-- The mutations of a check are those of the evidence. -/
theorem targetMutations_of_within (within : Within graph assertion result.requestObservations) :
    targetMutations graph assertion result =
      sortedSet ((referencesOf assertion .graphNode).filter fun nodeId =>
        ∃ node ∈ (graph.node? nodeId).toList, node.mutation?.isSome) := by
  refine sortedSet_congr fun nodeId => ?_
  rw [List.filter_append, List.mem_append, or_iff_left_of_imp]
  intro observed
  obtain ⟨listed, isMutation⟩ := List.mem_filter.mp observed
  obtain ⟨mutation, isObserved, isTarget⟩ := List.mem_flatMap.mp listed
  exact List.mem_filter.mpr ⟨within.mutations mutation isObserved nodeId isTarget, isMutation⟩

/-- The acknowledgements of a check are those of the evidence. -/
theorem targetAcknowledgements_of_within
    (within : Within graph assertion result.requestObservations) :
    targetAcknowledgements graph assertion result =
      sortedSet ((referencesOf assertion .graphNode).filter fun nodeId =>
        ∃ node ∈ (graph.node? nodeId).toList, node.acknowledgement?.isSome) := by
  refine sortedSet_congr fun nodeId => ?_
  rw [List.mem_append, or_iff_left_of_imp]
  intro observed
  obtain ⟨customer, isObserved, injected⟩ := List.mem_filterMap.mp observed
  obtain ⟨failure, isFailure, rfl⟩ := Option.map_eq_some_iff.mp injected
  obtain ⟨listed, node, found, isAcknowledgement⟩ :=
    within.acknowledgements customer isObserved failure isFailure
  refine List.mem_filter.mpr ⟨listed, decide_eq_true ⟨node, ?_, isAcknowledgement⟩⟩
  rw [found]
  exact List.mem_singleton_self _

/-- Two results of an assertion that observed nothing outside its evidence have the same targets. -/
theorem targetReference_of_within {applicability : ScenarioApplicabilityArtifact}
    {item : ScenarioInstance} {targets targets' : CheckTargetReference}
    (within : Within graph assertion result.requestObservations)
    (within' : Within graph assertion result'.requestObservations)
    (found : targetReference applicability graph item assertion result = .ok targets)
    (found' : targetReference applicability graph item assertion result' = .ok targets') :
    targets = targets' := by
  simp only [targetReference, bind_eq_ok, exists_unit, raiseIf_eq_ok, not_not,
    pure_eq_ok] at found found'
  obtain ⟨control, -, rfl⟩ := found
  obtain ⟨control', -, rfl⟩ := found'
  have sameControl : result.authority.normalControlId = result'.authority.normalControlId := by
    rw [control, control']
  have sameIdentity : identityControl applicability item result =
      identityControl applicability item result' := by
    rw [identityControl, identityControl, sameControl]
  simp only [sameControl, sameIdentity, targetMutations_of_within within,
    targetMutations_of_within within', targetAcknowledgements_of_within within,
    targetAcknowledgements_of_within within']

end

/-! ## Two runs of an artifact -/

section

variable {hashing : RunHashing} {inputs inputs' : RunInputs}

/-- The executors produced the results of a run. -/
def Executed (hashing : RunHashing) (inputs : RunInputs) : Prop :=
  ∃ plan : RunPlan, plan.hashing = hashing.toHashing ∧ plan.artifact = inputs.applicability ∧
    (∀ scenario item opened, (plan.execution scenario item).opened = some opened →
      Planned inputs.projectedGraph opened) ∧
    plan.executeAll = .ok inputs.results

/-- A result of a run observed nothing outside the evidence of its assertion. -/
theorem within_of_result {config : Option MerchantPolicyConfig}
    {resolution : Option CustomerValueResolution} {resolutionFingerprint : Option Sha256Digest}
    (evaluated : Evaluated hashing.toHashing config inputs.projectedGraph resolution
      resolutionFingerprint inputs.applicability)
    (rowsUnique : (inputs.applicability.rows.map rowKey).Nodup) (executed : Executed hashing inputs)
    {row : AuthorityRow} (isRow : row ∈ inputs.applicability.rows)
    {result : ScenarioExecutionResult}
    (isResult : result ∈ inputs.results) (sameKey : resultKey result = rowKey row) :
    Within inputs.projectedGraph row.2.2 result.requestObservations := by
  obtain ⟨plan, sameHashing, sameArtifact, planned, all⟩ := executed
  rw [← sameHashing, ← sameArtifact] at evaluated
  simp only [RunPlan.executeAll, bind_eq_ok, pure_eq_ok] at all
  obtain ⟨lists, collected, flattened⟩ := all
  rw [← flattened] at isResult
  obtain ⟨results, isList, inList⟩ := List.mem_flatten.mp isResult
  obtain ⟨⟨scenarioId, item⟩, isItem, ran⟩ := exists_of_mem_collect collected isList
  obtain ⟨called, found, shape⟩ := RunPlan.instance_of_mem evaluated isItem
  obtain ⟨assertion, isAssertion, key, within⟩ :=
    within_of_executed called found shape (planned scenarioId item) ran result inList
  have isOther : (scenarioId, item, assertion) ∈ inputs.applicability.rows := by
    obtain ⟨scenario, isScenario, inScenario, rfl⟩ := RunPlan.mem_order.mp isItem
    rw [← sameArtifact]
    exact (ScenarioApplicabilityPayload.mem_rows _ _).mpr
      ⟨scenario, isScenario, item, inScenario, assertion, isAssertion, rfl⟩
  have same := List.inj_on_of_nodup_map rowsUnique isOther isRow (key.symm.trans sameKey)
  rw [← same]
  exact within

/-- Two checks of a row have the same key, when no result observed anything outside the
evidence. -/
theorem checkKey_of_within {row : AuthorityRow} {check check' : VerificationCheck}
    (made : CheckOf hashing inputs row check) (made' : CheckOf hashing inputs' row check')
    (sameApplicability : inputs'.applicability = inputs.applicability)
    (sameGraph : inputs'.projectedGraph = inputs.projectedGraph)
    (within : ∀ result ∈ inputs.results, resultKey result = rowKey row →
      Within inputs.projectedGraph row.2.2 result.requestObservations)
    (within' : ∀ result ∈ inputs'.results, resultKey result = rowKey row →
      Within inputs.projectedGraph row.2.2 result.requestObservations) :
    check.checkKey = check'.checkKey := by
  obtain ⟨result, isResult, key, targets, evidence, requests, grounded, relevant, found, -, rfl⟩ :=
    made.record
  obtain ⟨result', isResult', key', targets', evidence', requests', grounded', relevant', found',
    -, rfl⟩ := made'.record
  rw [sameApplicability, sameGraph] at found'
  have same := targetReference_of_within (within result isResult key)
    (within' result' isResult' key')
    found found'
  simp only [checkRecord, sameApplicability, same]

end

/-! ## The comparison of two runs -/

inductive ComparisonOutcome where
  | provenResolved | stillVerifiedFail | notProven | notApplicable | notDirectlyComparable
  deriving DecidableEq, Repr

structure FindingComparison where
  historicalRunId : VerificationRunId
  currentRunId : VerificationRunId
  checkKey : VerificationCheckKey
  outcome : ComparisonOutcome
  currentCheckId : Option String := none
  deriving DecidableEq

/-- The outcome of a check that was found again. -/
def outcomeOf : VerificationResultState → ComparisonOutcome
  | .verifiedPass => .provenResolved
  | .verifiedFail => .stillVerifiedFail
  | .notApplicable => .notApplicable
  | .unverified | .needsInput | .staticWarning => .notProven

/-- `compare_exact_check`. -/
def compareExactCheck (historicalRun : VerificationRun) (historicalCheck : VerificationCheck)
    (currentRun : VerificationRun) : FindingComparison :=
  match currentRun.checks.filter (·.checkKey = historicalCheck.checkKey) with
  | [current] =>
    { historicalRunId := historicalRun.runId
      currentRunId := currentRun.runId
      checkKey := historicalCheck.checkKey
      outcome := outcomeOf current.result
      currentCheckId := some current.checkId }
  | _ =>
    { historicalRunId := historicalRun.runId
      currentRunId := currentRun.runId
      checkKey := historicalCheck.checkKey
      outcome := .notDirectlyComparable }

theorem assembled_of_built {hashing : RunHashing}
    {fingerprint : VerificationRunPayload → Sha256Digest} {inputs : RunInputs}
    {run : VerificationRun} (built : buildVerificationRun hashing fingerprint inputs = .ok run) :
    Assembled hashing inputs run.toVerificationRunPayload ∧
      (run.checks.map (·.checkKey)).Nodup := by
  simp only [buildVerificationRun, bind_eq_ok, exists_unit, pure_eq_ok] at built
  obtain ⟨payload, assembled, valid, rfl⟩ := built
  refine ⟨assembleRun_eq_ok assembled, ?_⟩
  simp only [VerificationRun.validateRun, VerificationRunPayload.validatePayload, bind_eq_ok,
    exists_unit, raiseIf_eq_ok, not_not] at valid
  exact valid.1.2.2.2.1

/-- Whatever happened in two runs of an artifact, the checks of an assertion have one key, and a
check of the first run is compared with the check of its assertion in the second. -/
theorem checkKey_runtimeIndependent {hashing : RunHashing}
    {fingerprint : VerificationRunPayload → Sha256Digest} {config : Option MerchantPolicyConfig}
    {source : SourceAuthority} {resolution : Option CustomerValueResolution}
    {resolutionFingerprint : Option Sha256Digest} {inputs inputs' : RunInputs}
    {run run' : VerificationRun}
    (evaluated : evaluateApplicability hashing.toHashing config source inputs.projectedGraph
      resolution resolutionFingerprint = .ok inputs.applicability)
    (sameApplicability : inputs'.applicability = inputs.applicability)
    (sameGraph : inputs'.projectedGraph = inputs.projectedGraph)
    (executed : Executed hashing inputs) (executed' : Executed hashing inputs')
    (built : buildVerificationRun hashing fingerprint inputs = .ok run)
    (built' : buildVerificationRun hashing fingerprint inputs' = .ok run') :
    (∀ check ∈ run.checks, ∀ check' ∈ run'.checks, checkRowKey check = checkRowKey check' →
      check.checkKey = check'.checkKey) ∧
    ∀ check ∈ run.checks, ∃ check' ∈ run'.checks, checkRowKey check = checkRowKey check' ∧
      (compareExactCheck run check run').outcome = outcomeOf check'.result ∧
        (compareExactCheck run check run').currentCheckId = some check'.checkId := by
  have known := evaluateApplicability_eq_ok evaluated
  obtain ⟨facts, -⟩ := assembled_of_built built
  obtain ⟨facts', keysUnique⟩ := assembled_of_built built'
  have known' : Evaluated hashing.toHashing config inputs'.projectedGraph resolution
      resolutionFingerprint inputs'.applicability := by
    rw [sameApplicability, sameGraph]
    exact known
  have sameKey : ∀ check ∈ run.checks, ∀ check' ∈ run'.checks,
      checkRowKey check = checkRowKey check' → check.checkKey = check'.checkKey := by
    intro check isCheck check' isCheck' same
    obtain ⟨row, isRow, made⟩ := facts.made check isCheck
    obtain ⟨row', isRow', made'⟩ := facts'.made check' isCheck'
    have isOther := isRow'
    rw [sameApplicability] at isOther
    rw [made.rowKey_eq, made'.rowKey_eq] at same
    have sameRow := List.inj_on_of_nodup_map facts.rowsUnique isRow isOther same
    subst sameRow
    refine checkKey_of_within made made' sameApplicability sameGraph ?_ ?_
    · exact fun result => within_of_result known facts.rowsUnique executed isRow
    · intro result isResult key
      rw [← sameGraph]
      exact within_of_result known' facts'.rowsUnique executed' isRow' isResult key
  refine ⟨sameKey, fun check isCheck => ?_⟩
  have sameRows : (run.checks.map checkRowKey).Perm (run'.checks.map checkRowKey) := by
    have rows := facts.rows
    rw [← sameApplicability] at rows
    exact rows.trans facts'.rows.symm
  obtain ⟨check', isCheck', rowKey'⟩ :=
    List.mem_map.mp (sameRows.subset (List.mem_map_of_mem isCheck))
  have found : run'.checks.filter (·.checkKey = check.checkKey) = [check'] := by
    rw [sameKey check isCheck check' isCheck' rowKey'.symm]
    exact filter_of_distinct keysUnique isCheck'
  refine ⟨check', isCheck', rowKey'.symm, ?_, ?_⟩
  · rw [compareExactCheck, found]
  · rw [compareExactCheck, found]

/-- The plan that opens no session. -/
def idlePlan : RunPlan :=
  { samplePlan sampleStale with
    execution := fun _ item => sampleExecution sampleApplicability sampleRepeatGraph item
    called := fun _ _ _ _ => ⟨rfl, rfl, rfl⟩
    sameFingerprint := fun _ _ => rfl }

/-- The inputs of the run of a plan. -/
def inputsOf (plan : RunPlan) : RunInputs :=
  { sampleInputs sampleRepeatGraph sampleApplicability with
    results := plan.executeAll.toOption.getD []
    razorpayGrounding := none }

theorem executed_inputsOf {plan : RunPlan} (hashing : plan.hashing = sampleHashing)
    (artifact : plan.artifact = sampleApplicability)
    (planned : ∀ scenario item opened, (plan.execution scenario item).opened = some opened →
      Planned sampleRepeatGraph opened)
    (ran : plan.executeAll.toOption.isSome = true) : Executed sampleRunHashing (inputsOf plan) := by
  refine ⟨plan, hashing, artifact, planned, ?_⟩
  show plan.executeAll = .ok (plan.executeAll.toOption.getD [])
  cases results : plan.executeAll with
  | error reason => simp [results, Except.toOption] at ran
  | ok results => rfl

theorem executed_stale : Executed sampleRunHashing (inputsOf (samplePlan sampleStale)) := by
  refine executed_inputsOf rfl rfl (fun scenario item opened isOpened => ?_) (by decide +kernel)
  have same : opened = sampleOpened sampleStale := (Option.some.inj isOpened).symm
  rw [same]
  exact fun capability listed => absurd listed List.not_mem_nil

theorem executed_idle : Executed sampleRunHashing (inputsOf idlePlan) := by
  refine executed_inputsOf rfl rfl (fun scenario item opened isOpened => ?_) (by decide +kernel)
  have nothing : (none : Option RuntimeSessionOpenResult) = some opened := isOpened
  cases nothing

/-- A run that verified its out-of-order scenario is compared with a run that verified nothing. -/
theorem checkKey_runtimeIndependent_idle : ∃ run run',
    buildVerificationRun sampleRunHashing (fun _ => "fingerprint")
        (inputsOf (samplePlan sampleStale)) = .ok run ∧
      buildVerificationRun sampleRunHashing (fun _ => "fingerprint") (inputsOf idlePlan) =
        .ok run' ∧
      (∃ check ∈ run.checks, check.result.verified = true) ∧
      (∀ check ∈ run'.checks, check.result.verified = false) ∧
      ∀ check ∈ run.checks, ∃ check' ∈ run'.checks, checkRowKey check = checkRowKey check' ∧
        (compareExactCheck run check run').outcome = outcomeOf check'.result ∧
          (compareExactCheck run check run').currentCheckId = some check'.checkId := by
  obtain ⟨run, isRun, verified⟩ :
      ∃ run ∈ (buildVerificationRun sampleRunHashing (fun _ => "fingerprint")
          (inputsOf (samplePlan sampleStale))).toOption,
        ∃ check ∈ run.checks, check.result.verified = true := by
    decide +kernel
  obtain ⟨run', isRun', unverified⟩ :
      ∃ run ∈ (buildVerificationRun sampleRunHashing (fun _ => "fingerprint")
          (inputsOf idlePlan)).toOption, ∀ check ∈ run.checks, check.result.verified = false := by
    decide +kernel
  have produced : evaluateApplicability sampleRunHashing.toHashing none sampleSource
      (inputsOf (samplePlan sampleStale)).projectedGraph (some sampleResolution)
        (some "resolution") = .ok (inputsOf (samplePlan sampleStale)).applicability :=
    sampleApplicability_produced
  have sameApplicability : (inputsOf idlePlan).applicability =
    (inputsOf (samplePlan sampleStale)).applicability := rfl
  have sameGraph : (inputsOf idlePlan).projectedGraph =
    (inputsOf (samplePlan sampleStale)).projectedGraph := rfl
  have built := eq_ok_of_mem_toOption isRun
  have built' := eq_ok_of_mem_toOption isRun'
  exact ⟨run, run', built, built', verified, unverified,
    (checkKey_runtimeIndependent produced sameApplicability sameGraph executed_stale executed_idle
      built built').2⟩

end Evidence

end StateGuard
