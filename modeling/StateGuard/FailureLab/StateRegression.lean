import Mathlib.Data.List.Dedup
import StateGuard.Applicability.Regression
import StateGuard.FailureLab.MutationAgreement

/-!
# The state verdict of the out-of-order scenario

The executor reads the tracked mutations off the evidence of the state assertion, splits
them by the state they assign and compares the captured one with the authorised one.  Of
several authorised assignments of one carrier only the last is among the evidence, so the
verdict says nothing about the earlier ones.  `ReplacedCompletes` is the transcript on which
this matters, and `statePass_sound_iff` says that a reported pass speaks for every authorised
assignment of the tracked carrier exactly without it.
-/

namespace StateGuard

open Checks KeyOrder

/-! ## The tracked mutations -/

/-- The graph nodes that the evidence of a list of reasons refers to. -/
def evidenceNodeIds (reasons : List ApplicabilityReason) : List GraphNodeId :=
  sortedByKey id
    (((reasons.flatMap (·.evidence)).filter (·.kind = .graphNode)).map (·.reference)).dedup

theorem mem_evidenceNodeIds {reasons : List ApplicabilityReason} {nodeId : GraphNodeId} :
    nodeId ∈ evidenceNodeIds reasons ↔
      ∃ reason ∈ reasons, ∃ evidence ∈ reason.evidence,
        evidence.kind = .graphNode ∧ evidence.reference = nodeId := by
  simp only [evidenceNodeIds, mem_sortedByKey, List.mem_dedup, List.mem_map, List.mem_filter,
    List.mem_flatMap, decide_eq_true_eq]
  constructor
  · rintro ⟨evidence, ⟨⟨reason, isReason, isEvidence⟩, kind⟩, same⟩
    exact ⟨reason, isReason, evidence, isEvidence, kind, same⟩
  · rintro ⟨reason, isReason, evidence, isEvidence, kind, same⟩
    exact ⟨evidence, ⟨⟨reason, isReason, isEvidence⟩, kind⟩, same⟩

theorem evidenceNodeIds_nodup (reasons : List ApplicabilityReason) :
    (evidenceNodeIds reasons).Nodup :=
  (sortedByKey_perm _ _).nodup_iff.mpr (List.nodup_dedup _)

/-- The mutations among some nodes that assign a state. -/
def assigningIds (graph : PaymentSafetyGraphArtifact) (assigned : AssignedPaymentState)
    (nodeIds : List GraphNodeId) : List GraphNodeId :=
  nodeIds.filter fun nodeId =>
    ((graph.node? nodeId).bind (·.mutation?)).bind (·.assignedPaymentState) = some assigned

/-! ## The state stage -/

namespace Sg04

/-- The state verdict: one captured and one authorised mutation are compared. -/
def stateVerdict (graph : PaymentSafetyGraphArtifact) (nodeIds : List GraphNodeId)
    (captured authorized : MutationScenarioRequestObservation) : Verdict :=
  match assigningIds graph .captured nodeIds, assigningIds graph .authorized nodeIds with
  | [capturedNodeId], [authorizedNodeId] =>
    evaluateStateSequence captured authorized capturedNodeId authorizedNodeId
  | _, _ => .unverified .authorityMismatch

/-- The result of a state assertion on two admitted requests. -/
def stateResult (fingerprint : ScenarioResultPayload → Sha256Digest) (packing : Packing)
    (graph : PaymentSafetyGraphArtifact) (assertion : AssertionApplicability)
    (transcript : RuntimeObservationTranscript) (first second : RuntimeRequestResult) :
    Except String ScenarioExecutionResult := do
  let nodeIds := evidenceNodeIds assertion.reasons
  let captured ← summarizeMutationObservations transcript.events first.requestId nodeIds
    first.statusCode
  let authorized ← summarizeMutationObservations transcript.events second.requestId nodeIds
    second.statusCode
  makeResult fingerprint packing (stateVerdict graph nodeIds captured authorized)
    [.mutation captured, .mutation authorized]

end Sg04

/-! ## What the assertion tracks -/

section Tracked

variable {hashing : Hashing} {graph : PaymentSafetyGraphArtifact}
  {control : NormalControlInstance}

/-- The evidence of the regression assertion: the last statements of the tracked carriers. -/
theorem mem_evidenceNodeIds_regressionState {nodeId : GraphNodeId} :
    nodeId ∈ evidenceNodeIds (regressionState hashing graph control).2 ↔
      ∃ carrier, TrackedCarrier graph control carrier ∧ ∃ assigned,
        ∃ node ∈ lastStatement? graph control carrier assigned, node.nodeId = nodeId := by
  rw [mem_evidenceNodeIds]
  constructor
  · rintro ⟨reason, isReason, evidence, isEvidence, -, same⟩
    rw [regressionState, assessed, List.mem_singleton] at isReason
    subst isReason
    obtain ⟨node, isNode, rfl⟩ := List.mem_map.mp isEvidence
    obtain ⟨carrier, tracked, assigned, last⟩ := mem_regressionMutations.mp isNode
    exact ⟨carrier, tracked, assigned, node, last, same⟩
  · rintro ⟨carrier, tracked, assigned, node, last, same⟩
    refine ⟨_, List.mem_singleton_self _, nodeEvidence node.nodeId, ?_, rfl, same⟩
    exact List.mem_map_of_mem (mem_regressionMutations.mpr ⟨carrier, tracked, assigned, last⟩)

/-- Among them, those that assign a state. -/
theorem mem_assigningIds {assigned : AssignedPaymentState} {nodeId : GraphNodeId} :
    nodeId ∈ assigningIds graph assigned
        (evidenceNodeIds (regressionState hashing graph control).2) ↔
      ∃ carrier, TrackedCarrier graph control carrier ∧
        ∃ node ∈ lastStatement? graph control carrier assigned, node.nodeId = nodeId := by
  rw [assigningIds, List.mem_filter, mem_evidenceNodeIds_regressionState, decide_eq_true_eq]
  constructor
  · rintro ⟨⟨carrier, tracked, state, node, last, rfl⟩, assigns⟩
    have statement := lastStatement?_assigns last
    rw [statement.node?, Option.bind_some, statement.assignedPaymentState] at assigns
    cases assigns
    exact ⟨carrier, tracked, node, last, rfl⟩
  · rintro ⟨carrier, tracked, node, last, rfl⟩
    have statement := lastStatement?_assigns last
    refine ⟨⟨carrier, tracked, assigned, node, last, rfl⟩, ?_⟩
    rw [statement.node?, Option.bind_some, statement.assignedPaymentState]

/-- The carrier is tracked and no other one is. -/
structure SoleCarrier (graph : PaymentSafetyGraphArtifact) (control : NormalControlInstance)
    (carrier : MerchantStateCarrierId) : Prop where
  tracked : TrackedCarrier graph control carrier
  sole : ∀ other, TrackedCarrier graph control other → other = carrier

/-- One node assigns a state exactly when one carrier is tracked. -/
theorem assigningIds_eq_singleton {assigned : AssignedPaymentState} {nodeId : GraphNodeId} :
    assigningIds graph assigned (evidenceNodeIds (regressionState hashing graph control).2) =
        [nodeId] ↔
      ∃ carrier, SoleCarrier graph control carrier ∧
        ∃ node ∈ lastStatement? graph control carrier assigned, node.nodeId = nodeId := by
  constructor
  · intro single
    have only (other : GraphNodeId) (carrier : MerchantStateCarrierId)
        (tracked : TrackedCarrier graph control carrier) (node : GraphNode)
        (last : lastStatement? graph control carrier assigned = some node)
        (same : node.nodeId = other) : other = nodeId := by
      have membership : other ∈ assigningIds graph assigned
          (evidenceNodeIds (regressionState hashing graph control).2) :=
        mem_assigningIds.mpr ⟨carrier, tracked, node, last, same⟩
      rw [single, List.mem_singleton] at membership
      exact membership
    obtain ⟨carrier, tracked, node, last, same⟩ :=
      mem_assigningIds.mp (single ▸ List.mem_singleton_self nodeId)
    refine ⟨carrier, ⟨tracked, fun other otherTracked => ?_⟩, node, last, same⟩
    obtain ⟨_, assigns⟩ := otherTracked assigned
    obtain ⟨otherNode, otherLast⟩ := exists_lastStatement? assigns
    have sameId := only _ other otherTracked otherNode otherLast rfl
    have statement := lastStatement?_assigns last
    have otherStatement := lastStatement?_assigns otherLast
    have found := otherStatement.node?
    rw [sameId, ← same, statement.node?, Option.some.injEq] at found
    rw [← found] at otherStatement
    exact otherStatement.carrier_unique statement
  · rintro ⟨carrier, ⟨tracked, sole⟩, node, last, same⟩
    have distinct : (assigningIds graph assigned
        (evidenceNodeIds (regressionState hashing graph control).2)).Nodup :=
      (evidenceNodeIds_nodup _).filter _
    refine List.perm_singleton.mp
      ((List.perm_ext_iff_of_nodup distinct (List.nodup_singleton _)).mpr fun other => ?_)
    rw [mem_assigningIds, List.mem_singleton]
    constructor
    · rintro ⟨otherCarrier, otherTracked, otherNode, otherLast, rfl⟩
      rw [sole otherCarrier otherTracked, last, Option.mem_some_iff] at otherLast
      rw [← otherLast, same]
    · rintro rfl
      exact ⟨carrier, tracked, node, last, same⟩

end Tracked

/-! ## A pass and the assignments it does not see -/

/-- A request completes the assignment at a node. -/
def Completes (transcript : RuntimeObservationTranscript) (request : RuntimeRequestResult)
    (nodeId : GraphNodeId) : Prop :=
  ∃ event ∈ transcript.events, event.requestId = request.requestId ∧
    event.kind = .merchantAssignmentInstructionCompletedNormally ∧
    event.mutationNodeId = some nodeId

instance (transcript : RuntimeObservationTranscript) (request : RuntimeRequestResult)
    (nodeId : GraphNodeId) : Decidable (Completes transcript request nodeId) :=
  inferInstanceAs (Decidable (∃ _ ∈ _, _))

/-- A completed assignment touches its node. -/
theorem Completes.touches {transcript : RuntimeObservationTranscript}
    {request : RuntimeRequestResult} {nodeId : GraphNodeId}
    (completes : Completes transcript request nodeId) : Touches transcript request nodeId := by
  obtain ⟨event, membership, same, kind, node⟩ := completes
  exact ⟨event, membership, same, by simp [kind, RuntimeObservationKind.mutation], node⟩

/-- What the executor has established when it evaluates the state assertion. -/
structure Sg04.StateStage (runtime : RuntimeCapabilityArtifact)
    (transcript : RuntimeObservationTranscript) (first second : RuntimeRequestResult)
    (packing : Packing) : Prop where
  valid : validateObservationTranscript runtime transcript = .ok ()
  exact : SequenceAuthorityIsExact transcript [first, second]
  sameScenario : packing.scenarioId = .sg04
  requestIds : packing.authority.runtimeRequestIds = [first.requestId, second.requestId]
  capability : packing.authority.runtimeCapabilityFingerprint.isSome
  session : packing.authority.runtimeSessionId.isSome
  transcript : packing.authority.transcriptFingerprint.isSome
  control : packing.authority.normalControlId.isSome
  input : ∃ reference, packing.inputReference = some (.webhookSequenceInput reference)

theorem Sg04.StateStage.isSealed {runtime : RuntimeCapabilityArtifact}
    {transcript : RuntimeObservationTranscript} {first second : RuntimeRequestResult}
    {packing : Packing} (stage : StateStage runtime transcript first second packing)
    (capturedNodeId authorizedNodeId : GraphNodeId) :
    MutationsSealed (.stateRegression capturedNodeId authorizedNodeId) packing [first, second] where
  sameScenario := stage.sameScenario
  requestIds := stage.requestIds
  capability := stage.capability
  session := stage.session
  transcript := stage.transcript
  input := ⟨stage.control, stage.input⟩

/-- A transcript that passes on the two kept assignments of the one tracked carrier. -/
structure KeptPass (graph : PaymentSafetyGraphArtifact) (control : NormalControlInstance)
    (transcript : RuntimeObservationTranscript) (first second : RuntimeRequestResult)
    (carrier : MerchantStateCarrierId) (captured authorized : GraphNode) : Prop where
  soleCarrier : SoleCarrier graph control carrier
  capturedKept : lastStatement? graph control carrier .captured = some captured
  authorizedKept : lastStatement? graph control carrier .authorized = some authorized
  passes : StatePassEvents transcript first second captured.nodeId authorized.nodeId
  /-- The stale request does not repeat the captured assignment either. -/
  notRepeated : ¬ Touches transcript second captured.nodeId
  inRange : StatusInRange first.statusCode ∧ StatusInRange second.statusCode

/-- Beside such a pass, an authorised assignment of the carrier that a later one replaced
completes in the stale request. -/
structure ReplacedCompletes (graph : PaymentSafetyGraphArtifact)
    (control : NormalControlInstance) (transcript : RuntimeObservationTranscript)
    (first second : RuntimeRequestResult) (carrier : MerchantStateCarrierId)
    (captured authorized earlier : GraphNode) : Prop extends
    KeptPass graph control transcript first second carrier captured authorized where
  replaced : earlier ∈ (statements graph control carrier .authorized).dropLast
  completes : Completes transcript second earlier.nodeId

/-- No authorised assignment of a tracked carrier completes in the stale request. -/
def NoStaleAuthorized (graph : PaymentSafetyGraphArtifact) (control : NormalControlInstance)
    (transcript : RuntimeObservationTranscript) (second : RuntimeRequestResult) : Prop :=
  ∀ carrier, TrackedCarrier graph control carrier →
    ∀ node, BranchAssigns graph control carrier .authorized node →
      ¬ Completes transcript second node.nodeId

section Pass

variable {hashing : Hashing} {graph : PaymentSafetyGraphArtifact}
  {control : NormalControlInstance} {runtime : RuntimeCapabilityArtifact}
  {transcript : RuntimeObservationTranscript} {first second : RuntimeRequestResult}
  {packing : Packing}

/-- The tracked nodes of a sole carrier. -/
theorem SoleCarrier.mem_evidenceNodeIds {carrier : MerchantStateCarrierId}
    (soleCarrier : SoleCarrier graph control carrier) {captured authorized : GraphNode}
    (capturedKept : lastStatement? graph control carrier .captured = some captured)
    (authorizedKept : lastStatement? graph control carrier .authorized = some authorized)
    {nodeId : GraphNodeId} :
    nodeId ∈ evidenceNodeIds (regressionState hashing graph control).2 ↔
      nodeId = captured.nodeId ∨ nodeId = authorized.nodeId := by
  rw [mem_evidenceNodeIds_regressionState]
  constructor
  · rintro ⟨other, tracked, assigned, node, last, rfl⟩
    rw [soleCarrier.sole other tracked] at last
    cases assigned with
    | authorized =>
      rw [authorizedKept, Option.mem_some_iff] at last
      exact .inr (by rw [last])
    | captured =>
      rw [capturedKept, Option.mem_some_iff] at last
      exact .inl (by rw [last])
  · rintro (rfl | rfl)
    · exact ⟨carrier, soleCarrier.tracked, .captured, captured, capturedKept, rfl⟩
    · exact ⟨carrier, soleCarrier.tracked, .authorized, authorized, authorizedKept, rfl⟩

/-- The state verdict of a sole carrier is that of the reducer on its two kept assignments. -/
theorem Sg04.stateVerdict_eq (hashing : Hashing) {carrier : MerchantStateCarrierId}
    (soleCarrier : SoleCarrier graph control carrier) {one other : GraphNode}
    (capturedKept : lastStatement? graph control carrier .captured = some one)
    (authorizedKept : lastStatement? graph control carrier .authorized = some other)
    (captured authorized : MutationScenarioRequestObservation) :
    stateVerdict graph (evidenceNodeIds (regressionState hashing graph control).2) captured
        authorized =
      evaluateStateSequence captured authorized one.nodeId other.nodeId := by
  have single : assigningIds graph .captured
      (evidenceNodeIds (regressionState hashing graph control).2) = [one.nodeId] :=
    assigningIds_eq_singleton.mpr ⟨carrier, soleCarrier, one, capturedKept, rfl⟩
  have singleAuthorized : assigningIds graph .authorized
      (evidenceNodeIds (regressionState hashing graph control).2) = [other.nodeId] :=
    assigningIds_eq_singleton.mpr ⟨carrier, soleCarrier, other, authorizedKept, rfl⟩
  unfold stateVerdict
  rw [single, singleAuthorized]

/-- The state verdict passes only on the two kept assignments of one tracked carrier. -/
theorem Sg04.exists_soleCarrier_of_pass {captured authorized : MutationScenarioRequestObservation}
    (passed : (stateVerdict graph (evidenceNodeIds (regressionState hashing graph control).2)
      captured authorized).state = .verifiedPass) :
    ∃ carrier one other, SoleCarrier graph control carrier ∧
      lastStatement? graph control carrier .captured = some one ∧
      lastStatement? graph control carrier .authorized = some other := by
  unfold stateVerdict at passed
  split at passed
  next capturedNodeId authorizedNodeId single singleAuthorized =>
    obtain ⟨carrier, soleCarrier, one, oneKept, -⟩ := assigningIds_eq_singleton.mp single
    obtain ⟨also, ⟨tracked, -⟩, other, otherKept, -⟩ :=
      assigningIds_eq_singleton.mp singleAuthorized
    rw [soleCarrier.sole also tracked] at otherKept
    exact ⟨carrier, one, other, soleCarrier, oneKept, otherKept⟩
  next => cases passed

/-- The state reducer passes exactly on `StatePass`. -/
theorem Sg04.evaluateStateSequence_pass_iff
    {captured authorized : MutationScenarioRequestObservation}
    {capturedNodeId authorizedNodeId : GraphNodeId} :
    (evaluateStateSequence captured authorized capturedNodeId authorizedNodeId).state =
        .verifiedPass ↔
      StatePass captured authorized capturedNodeId authorizedNodeId := by
  rcases evaluateStateSequence_spec captured authorized capturedNodeId authorizedNodeId with
    ⟨pass, verdict⟩ | ⟨⟨stale, found, regressed⟩, verdict⟩ | ⟨notPass, unverified⟩
  · rw [verdict]
    exact iff_of_true rfl pass
  · rw [verdict]
    refine iff_of_false (fun passed => by cases passed) fun pass => ?_
    obtain ⟨same, isSame, untouched⟩ := pass.stale
    have none := untouched.2.1
    rw [Option.mem_unique isSame found] at none
    omega
  · refine iff_of_false (fun passed => ?_) notPass
    rw [unverified.state] at passed
    cases passed

/-- On the observations of an admitted pair, the state verdict of a sole carrier is packed as
a pass exactly when the stale request spares both kept assignments. -/
theorem Sg04.packed_pass_iff (fingerprint : ScenarioResultPayload → Sha256Digest)
    (stage : StateStage runtime transcript first second packing)
    {carrier : MerchantStateCarrierId} (soleCarrier : SoleCarrier graph control carrier)
    {one other : GraphNode}
    (capturedKept : lastStatement? graph control carrier .captured = some one)
    (authorizedKept : lastStatement? graph control carrier .authorized = some other)
    {captured authorized : MutationScenarioRequestObservation}
    (observesFirst : ObservesMutations transcript
      (evidenceNodeIds (regressionState hashing graph control).2) first captured)
    (observesSecond : ObservesMutations transcript
      (evidenceNodeIds (regressionState hashing graph control).2) second authorized) :
    (∃ r, makeResult fingerprint packing
        (evaluateStateSequence captured authorized one.nodeId other.nodeId)
        [.mutation captured, .mutation authorized] = .ok r ∧ r.result = .verifiedPass) ↔
      StatePassEvents transcript first second one.nodeId other.nodeId ∧
        ¬ Touches transcript second one.nodeId := by
  have tracked (nodeId : GraphNodeId) :
      nodeId ∈ evidenceNodeIds (regressionState hashing graph control).2 ↔
        nodeId = one.nodeId ∨ nodeId = other.nodeId :=
    soleCarrier.mem_evidenceNodeIds capturedKept authorizedKept
  have events := statePass_iff stage.exact observesFirst observesSecond
    ((tracked _).mpr (.inl rfl)) ((tracked _).mpr (.inr rfl))
  have untouched := observesSecond.allUntouched_iff
  obtain ⟨reference, input⟩ := stage.input
  have accepted : (∃ r, makeResult fingerprint packing
      (evaluateStateSequence captured authorized one.nodeId other.nodeId)
      [.mutation captured, .mutation authorized] = .ok r) ↔
        ¬ (StatePass captured authorized one.nodeId other.nodeId ∧ ¬ authorized.AllUntouched) := by
    rw [(stage.isSealed one.nodeId other.nodeId).makeResult_iff observesFirst observesSecond
      (evaluateStateSequence_built captured authorized one.nodeId other.nodeId).tiered]
    exact state_accepted_iff ⟨stage.sameScenario, rfl, rfl, rfl⟩ stage.control ⟨_, input, rfl⟩
  have result {r : ScenarioExecutionResult} (packed : makeResult fingerprint packing
      (evaluateStateSequence captured authorized one.nodeId other.nodeId)
      [.mutation captured, .mutation authorized] = .ok r) :
      r.result = .verifiedPass ↔ StatePass captured authorized one.nodeId other.nodeId := by
    rw [payload_of_makeResult packed, Packing.payload_result]
    exact evaluateStateSequence_pass_iff
  constructor
  · rintro ⟨r, packed, passed⟩
    have pass := (result packed).mp passed
    have spared := untouched.mp (not_not.mp fun touched => accepted.mp ⟨r, packed⟩ ⟨pass, touched⟩)
    exact ⟨events.mp pass, spared one.nodeId ((tracked _).mpr (.inl rfl))⟩
  · rintro ⟨passes, notRepeated⟩
    have allUntouched : authorized.AllUntouched := by
      refine untouched.mpr fun nodeId membership => ?_
      rcases (tracked nodeId).mp membership with rfl | rfl
      · exact notRepeated
      · exact passes.spared
    obtain ⟨r, packed⟩ := accepted.mpr fun rejected => rejected.2 allUntouched
    exact ⟨r, packed, (result packed).mpr (events.mpr passes)⟩

/-- A pass is reported exactly on the transcripts of `KeptPass`. -/
theorem Sg04.stateResult_pass_iff (fingerprint : ScenarioResultPayload → Sha256Digest)
    {assertion : AssertionApplicability}
    (reasons : assertion.reasons = (regressionState hashing graph control).2)
    (stage : StateStage runtime transcript first second packing) :
    (∃ r, stateResult fingerprint packing graph assertion transcript first second = .ok r ∧
        r.result = .verifiedPass) ↔
      ∃ carrier captured authorized,
        KeptPass graph control transcript first second carrier captured authorized := by
  simp only [stateResult, reasons, bind_eq_ok]
  constructor
  · rintro ⟨r, ⟨captured, builtFirst, authorized, builtSecond, packed⟩, passed⟩
    have observesFirst := summarizeMutationObservations_eq_ok builtFirst
    have observesSecond := summarizeMutationObservations_eq_ok builtSecond
    have verdict : (stateVerdict graph (evidenceNodeIds (regressionState hashing graph control).2)
        captured authorized).state = .verifiedPass := by
      rw [payload_of_makeResult packed, Packing.payload_result] at passed
      exact passed
    obtain ⟨carrier, one, other, soleCarrier, oneKept, otherKept⟩ :=
      exists_soleCarrier_of_pass verdict
    rw [stateVerdict_eq hashing soleCarrier oneKept otherKept] at packed
    have packs := packed_pass_iff fingerprint stage soleCarrier oneKept otherKept observesFirst
      observesSecond
    obtain ⟨passes, notRepeated⟩ := packs.mp ⟨r, packed, passed⟩
    exact ⟨carrier, one, other, soleCarrier, oneKept, otherKept, passes, notRepeated,
      summarizeMutationObservations_inRange builtFirst,
      summarizeMutationObservations_inRange builtSecond⟩
  · rintro ⟨carrier, one, other, kept⟩
    have nonempty : evidenceNodeIds (regressionState hashing graph control).2 ≠ [] :=
      List.ne_nil_of_mem ((kept.soleCarrier.mem_evidenceNodeIds kept.capturedKept
        kept.authorizedKept).mpr (.inl rfl))
    obtain ⟨captured, builtFirst⟩ := summarizeMutationObservations_ok transcript nonempty
      (evidenceNodeIds_nodup _) kept.inRange.1
    obtain ⟨authorized, builtSecond⟩ := summarizeMutationObservations_ok transcript nonempty
      (evidenceNodeIds_nodup _) kept.inRange.2
    have packs := packed_pass_iff fingerprint stage kept.soleCarrier kept.capturedKept
      kept.authorizedKept (summarizeMutationObservations_eq_ok builtFirst)
      (summarizeMutationObservations_eq_ok builtSecond)
    obtain ⟨r, packed, passed⟩ := packs.mpr ⟨kept.passes, kept.notRepeated⟩
    refine ⟨r, ⟨captured, builtFirst, authorized, builtSecond, ?_⟩, passed⟩
    rw [stateVerdict_eq hashing kept.soleCarrier kept.capturedKept kept.authorizedKept]
    exact packed

/-- The row of a state assertion is the regression assertion of its control. -/
theorem regressionRow_spec {config : Option MerchantPolicyConfig} {source : SourceAuthority}
    {resolution : Option CustomerValueResolution} {resolutionFingerprint : Option Sha256Digest}
    {artifact : ScenarioApplicabilityArtifact}
    (produced : evaluateApplicability hashing config source graph resolution
      resolutionFingerprint = .ok artifact)
    {item : ScenarioInstance} {assertion : AssertionApplicability}
    (row : (ScenarioId.sg04, item, assertion) ∈ artifact.rows)
    (key : assertion.key = .sg04StateRegression) (known : control ∈ artifact.normalControls)
    (sameControl : item.normalControlId = some control.controlId) :
    assertion.reasons = (regressionState hashing graph control).2 := by
  have evaluated := evaluateApplicability_eq_ok produced
  obtain ⟨isItem, isAssertion⟩ := (evaluated.mem_rows _ _ _).mp row
  rcases mem_orCatalog.mp isItem with isItem | ⟨-, rfl⟩
  · obtain ⟨other, isOther, rfl⟩ := List.mem_map.mp isItem
    have same : other = control := by
      refine List.inj_on_of_nodup_map evaluated.controls_nodup (List.mem_of_mem_filter isOther)
        known ?_
      exact Option.some.inj sameControl
    subst same
    rcases List.mem_cons.mp isAssertion with rfl | isAssertion
    · cases key
    · rw [List.mem_singleton.mp isAssertion]
      rfl
  · rw [List.mem_singleton.mp isAssertion] at key
    cases key

/-- On every admitted pair of requests, a reported pass of a state assertion speaks for all
authorised assignments of the tracked carrier, unless one that a later assignment replaced
completes in the stale request beside a pass on the two kept ones. -/
theorem statePass_sound_iff (fingerprint : ScenarioResultPayload → Sha256Digest)
    {config : Option MerchantPolicyConfig} {source : SourceAuthority}
    {resolution : Option CustomerValueResolution} {resolutionFingerprint : Option Sha256Digest}
    {artifact : ScenarioApplicabilityArtifact}
    (produced : evaluateApplicability hashing config source graph resolution
      resolutionFingerprint = .ok artifact)
    {item : ScenarioInstance} {assertion : AssertionApplicability}
    (row : (ScenarioId.sg04, item, assertion) ∈ artifact.rows)
    (key : assertion.key = .sg04StateRegression) (known : control ∈ artifact.normalControls)
    (sameControl : item.normalControlId = some control.controlId)
    (stage : Sg04.StateStage runtime transcript first second packing) :
    (∀ r, Sg04.stateResult fingerprint packing graph assertion transcript first second = .ok r →
        r.result = .verifiedPass → NoStaleAuthorized graph control transcript second) ↔
      ¬ ∃ carrier captured authorized earlier, ReplacedCompletes graph control transcript first
        second carrier captured authorized earlier := by
  have reasons := regressionRow_spec produced row key known sameControl
  have reported := Sg04.stateResult_pass_iff fingerprint reasons stage
  constructor
  · rintro sound ⟨carrier, captured, authorized, earlier, replaced⟩
    obtain ⟨r, isResult, passed⟩ := reported.mpr ⟨carrier, captured, authorized, replaced.toKeptPass⟩
    exact sound r isResult passed carrier replaced.soleCarrier.tracked earlier
      (mem_statements.mp (List.dropLast_subset _ replaced.replaced)) replaced.completes
  · intro none r isResult passed carrier tracked node assigns completes
    obtain ⟨sole, captured, authorized, kept⟩ := reported.mp ⟨r, isResult, passed⟩
    rw [kept.soleCarrier.sole carrier tracked] at assigns
    refine none ⟨sole, captured, authorized, node, kept, ?_, completes⟩
    -- The kept assignment is untouched, so the completed one is not the last.
    have membership := mem_statements.mpr assigns
    rw [← List.dropLast_append_getLast? _ kept.authorizedKept, List.mem_append,
      List.mem_singleton] at membership
    rcases membership with earlier | rfl
    · exact earlier
    · exact absurd completes.touches kept.passes.spared

end Pass

/-! ### A route that assigns one state twice -/

/-- The customer-value action of the sample route. -/
def sampleValue : GraphNode :=
  { nodeId := "value"
    label := "fulfil"
    backingSymbolId := "fulfil"
    details := .customerValueAction
    provenance := [] }

/-- The state gate of one state on the sample route. -/
def sampleGate (nodeId : GraphNodeId) (state : AssignedPaymentState) : GraphNode :=
  { nodeId := nodeId
    label := "status"
    backingSymbolId := "handler"
    details := .paymentStateGate
      { routeRegistrationId := "route"
        structuralAnchor := "gate"
        operator := .equals
        states := [state.value] }
    provenance := [] }

/-- An assignment of a state to the one carrier of the sample route. -/
def sampleAssignment (nodeId : GraphNodeId) (state : AssignedPaymentState) : GraphNode :=
  { nodeId := nodeId
    label := "order.status"
    backingSymbolId := "handler"
    details := .merchantStateMutation
      { routeRegistrationId := "route"
        structuralAnchor := "assignment"
        mutationKind := .attributeWrite
        carrierReference := "order.status"
        assignedPaymentState := some state }
    provenance := [] }

/-- The branch from a gate to a node that is reached in one state. -/
def sampleBranch (edgeId : GraphEdgeId) (source target : GraphNodeId)
    (state : AssignedPaymentState) : GraphEdge :=
  { edgeId := edgeId
    sourceNodeId := source
    targetNodeId := target
    kind := .branchesTo
    branch := some { disposition := .matched, states := [state.value] }
    provenance := []
    branchOnlyOnBranches := by simp }

/-- The call path from the sample ingress to the customer-value action. -/
def sampleCall : GraphEdge :=
  { edgeId := "call"
    sourceNodeId := "ingress"
    targetNodeId := "value"
    kind := .calls
    branch := none
    provenance :=
      [{ kind := .static
         reference := "call-site:handler"
         sourceLocation := none
         supportingFingerprint := none }]
    branchOnlyOnBranches := GraphEdgeKind.calls_unbranched }

/-- A webhook handler that assigns the authorised state to its carrier in two statements. -/
def sampleRepeatGraph : PaymentSafetyGraphArtifact :=
  { projectId := "project"
    sourceIndexFingerprint := "index"
    graphFingerprint := "graph"
    completeness := .complete
    diagnostics := []
    nodes :=
      [sampleIngress .webhook, sampleValue, sampleGate "captured gate" .captured,
        sampleGate "authorized gate" .authorized, sampleAssignment "captured" .captured,
        sampleAssignment "earlier" .authorized, sampleAssignment "authorized" .authorized]
    edges :=
      [sampleCall, sampleBranch "captures" "captured gate" "captured" .captured,
        sampleBranch "authorizes" "authorized gate" "earlier" .authorized,
        sampleBranch "authorizes again" "authorized gate" "authorized" .authorized]
    nodesUnique := by decide
    edgesUnique := by decide
    endpoints := by decide
    completenessMatches := rfl }

/-- The customer-value action of the sample route is resolved. -/
def sampleResolution : CustomerValueResolution :=
  { state := .unique
    selectedSymbolId := some "fulfil"
    selectionMatches := by decide }

/-- The one control of the sample route. -/
def sampleControl : NormalControlInstance :=
  { controlId := sampleHashing.normalControlId
      ["ingress", "route", "value", "fulfil", "call", "call-site:handler", "resolution"]
    ingressNodeId := "ingress"
    routeRegistrationId := "route"
    ingressKind := .webhook
    customerValueNodeId := "value"
    customerValueSymbolId := "fulfil"
    connectivityEdgeId := "call"
    callPathReferences := ["call-site:handler"]
    semanticResolutionFingerprint := "resolution"
    callPathNonempty := by decide }

theorem sampleRepeatGraph_controls :
    normalControls sampleHashing sampleRepeatGraph (some sampleResolution) (some "resolution") =
      [sampleControl] := by
  decide

/-- The out-of-order instance of the sample control. -/
def sampleItem : ScenarioInstance :=
  sg04Instance sampleHashing sampleRepeatGraph
    (policyAssessment sampleHashing none sampleRepeatGraph [sampleControl]) sampleControl

/-- Its state assertion, which tracks the second authorised assignment. -/
def sampleStateAssertion : AssertionApplicability :=
  assertionOf sampleHashing sampleItem.instanceId .sg04StateRegression .optional
    (regressionState sampleHashing sampleRepeatGraph sampleControl) (some sampleControl)

/-- The stale request completes the first of the two authorised assignments. -/
def sampleReplaced : RuntimeObservationTranscript :=
  { sessionId := "session"
    capabilityFingerprint := "capability"
    complete := true
    events :=
      [sampleEvent 1 "first" .requestReceived none,
        sampleMutationEvent 2 "first" .merchantAssignmentInstructionReached "captured",
        sampleMutationEvent 3 "first" .merchantAssignmentInstructionCompletedNormally "captured",
        sampleEvent 4 "first" .responseCompleted (some 200),
        sampleEvent 5 "second" .requestReceived none,
        sampleMutationEvent 6 "second" .merchantAssignmentInstructionReached "earlier",
        sampleMutationEvent 7 "second" .merchantAssignmentInstructionCompletedNormally "earlier",
        sampleEvent 8 "second" .responseCompleted (some 200)]
    diagnostics := []
    transcriptFingerprint := "transcript"
    eventsValid := by decide
    oneSession := by decide
    contiguous := by decide }

/-- One dispatched request of the sample sequences. -/
def sampleRequest (requestId : RuntimeRequestId) : RuntimeRequestResult :=
  { requestId := requestId, binding := sampleBinding, statusCode := 200 }

theorem sampleStale_stage :
    Sg04.StateStage sampleArtifact sampleStale (sampleRequest "first")
      (sampleRequest "second") sampleRegressionPacking where
  valid := by decide
  exact := by decide
  sameScenario := rfl
  requestIds := rfl
  capability := rfl
  session := rfl
  transcript := rfl
  control := rfl
  input := ⟨_, rfl⟩

theorem sampleReplaced_stage :
    Sg04.StateStage sampleArtifact sampleReplaced (sampleRequest "first")
      (sampleRequest "second") sampleRegressionPacking where
  valid := by decide
  exact := by decide
  sameScenario := rfl
  requestIds := rfl
  capability := rfl
  session := rfl
  transcript := rfl
  control := rfl
  input := ⟨_, rfl⟩

/-- The artifact of the sample route has the row of its state assertion. -/
theorem sampleRepeatGraph_row {artifact : ScenarioApplicabilityArtifact}
    (produced : evaluateApplicability sampleHashing none sampleSource sampleRepeatGraph
      (some sampleResolution) (some "resolution") = .ok artifact) :
    (ScenarioId.sg04, sampleItem, sampleStateAssertion) ∈ artifact.rows ∧
      sampleControl ∈ artifact.normalControls := by
  have evaluated := evaluateApplicability_eq_ok produced
  have policy := evaluated.policy
  have controls := evaluated.controls
  rw [sampleRepeatGraph_controls] at controls
  rw [controls] at policy
  rw [evaluated.mem_rows, controls, policy]
  refine ⟨⟨?_, ?_⟩, List.mem_singleton_self _⟩
  · show sampleItem ∈ sg04Instances _ _ _ _ _
    refine mem_orCatalog.mpr (.inl (List.mem_map.mpr ⟨sampleControl, ?_, rfl⟩))
    decide
  · exact List.mem_cons_of_mem _ (List.mem_singleton_self _)

/-- A stale request that performs no assignment is reported as a pass, and rightly. -/
theorem statePass_sound_stale :
    ∃ artifact, evaluateApplicability sampleHashing none sampleSource sampleRepeatGraph
        (some sampleResolution) (some "resolution") = .ok artifact ∧
      ∀ r, Sg04.stateResult (fun _ => "result") sampleRegressionPacking sampleRepeatGraph
          sampleStateAssertion sampleStale (sampleRequest "first") (sampleRequest "second") =
            .ok r →
        r.result = .verifiedPass →
          NoStaleAuthorized sampleRepeatGraph sampleControl sampleStale
            (sampleRequest "second") := by
  have produced : evaluateApplicability sampleHashing none sampleSource sampleRepeatGraph
      (some sampleResolution) (some "resolution") = .ok _ := rfl
  obtain ⟨row, known⟩ := sampleRepeatGraph_row produced
  refine ⟨_, produced, (statePass_sound_iff (fun _ => "result") produced row rfl known rfl
    sampleStale_stage).mpr ?_⟩
  rintro ⟨carrier, captured, authorized, earlier, replaced⟩
  obtain ⟨event, membership, same, kind, -⟩ := replaced.completes
  have spared : ∀ event ∈ sampleStale.events, event.requestId = "second" →
      event.kind ≠ .merchantAssignmentInstructionCompletedNormally := by decide
  exact spared event membership same kind

/-- A stale request that completes the first of two authorised assignments of the tracked
carrier is reported as a pass. -/
theorem replacedAssignment_unreported :
    ∃ artifact, evaluateApplicability sampleHashing none sampleSource sampleRepeatGraph
        (some sampleResolution) (some "resolution") = .ok artifact ∧
      (ScenarioId.sg04, sampleItem, sampleStateAssertion) ∈ artifact.rows ∧
      sampleStateAssertion.state = .applicable ∧
      Sg04.StateStage sampleArtifact sampleReplaced (sampleRequest "first")
        (sampleRequest "second") sampleRegressionPacking ∧
      (∃ r, Sg04.stateResult (fun _ => "result") sampleRegressionPacking sampleRepeatGraph
          sampleStateAssertion sampleReplaced (sampleRequest "first") (sampleRequest "second") =
            .ok r ∧ r.result = .verifiedPass) ∧
      ¬ NoStaleAuthorized sampleRepeatGraph sampleControl sampleReplaced
        (sampleRequest "second") := by
  have produced : evaluateApplicability sampleHashing none sampleSource sampleRepeatGraph
      (some sampleResolution) (some "resolution") = .ok _ := rfl
  refine ⟨_, produced, (sampleRepeatGraph_row produced).1, by decide, sampleReplaced_stage,
    ⟨_, rfl, rfl⟩, fun none => ?_⟩
  have assigns (assigned : AssignedPaymentState) (node : GraphNode)
      (listed : node ∈ statements sampleRepeatGraph sampleControl "order.status" assigned) :
      BranchAssigns sampleRepeatGraph sampleControl "order.status" assigned node :=
    mem_statements.mp listed
  refine none "order.status" (fun assigned => ?_) (sampleAssignment "earlier" .authorized)
    (assigns _ _ (by decide)) (by decide)
  cases assigned with
  | authorized => exact ⟨sampleAssignment "earlier" .authorized, assigns _ _ (by decide)⟩
  | captured => exact ⟨sampleAssignment "captured" .captured, assigns _ _ (by decide)⟩

end StateGuard
