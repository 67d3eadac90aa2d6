import StateGuard.FailureLab.Observations
import StateGuard.FailureLab.Specification

/-!
# State-mutation reducers and the validator

The mutation reducers of the forged-signature and tampered-callback scenarios agree with the
validator of the result on every admitted transcript.  The state reducer of the out-of-order
scenario does not: it reads the captured node of the first request and the authorised node
of the second, while the validator of a pass asks that the second request touched no tracked
node at all.  `StaleSideEffect` is the difference, read off the transcript, and
`mutationVerdict_accepted_iff` says that the packed verdict is accepted exactly without it.
-/

namespace StateGuard

open Checks

/-! ## Building the observations -/

/-- The three assertions about the merchant's state mutations. -/
inductive MutationAssertion where
  /-- The out-of-order scenario, with the captured and the authorised node. -/
  | stateRegression (capturedNodeId authorizedNodeId : GraphNodeId)
  | rejectedSignature
  | tamperedCallback
  deriving DecidableEq, Repr

namespace MutationAssertion

def scenario : MutationAssertion → ScenarioId
  | .stateRegression _ _ => .sg04
  | .rejectedSignature => .sg05
  | .tamperedCallback => .sg06

/-- The verdict on the two requests of a sequence. -/
def verdict (first second : MutationScenarioRequestObservation) : MutationAssertion → Verdict
  | .stateRegression capturedNodeId authorizedNodeId =>
    Sg04.evaluateStateSequence first second capturedNodeId authorizedNodeId
  | .rejectedSignature => Sg05.evaluateMutationSequence first second
  | .tamperedCallback => Sg06.evaluateMutationSequence first second

/-- The nodes the assertion reads are among the tracked ones. -/
def Tracked (nodeIds : List GraphNodeId) : MutationAssertion → Prop
  | .stateRegression capturedNodeId authorizedNodeId =>
    capturedNodeId ∈ nodeIds ∧ authorizedNodeId ∈ nodeIds
  | .rejectedSignature | .tamperedCallback => True

end MutationAssertion

/-- The mutation observations of the dispatched requests. -/
def observeMutations (transcript : RuntimeObservationTranscript) (nodeIds : List GraphNodeId)
    (requests : List RuntimeRequestResult) :
    Except String (List MutationScenarioRequestObservation) :=
  collect (fun request => summarizeMutationObservations transcript.events request.requestId
    nodeIds request.statusCode) requests

/-- What a built mutation observation records. -/
structure ObservesMutations (transcript : RuntimeObservationTranscript)
    (nodeIds : List GraphNodeId) (request : RuntimeRequestResult)
    (observation : MutationScenarioRequestObservation) : Prop where
  requestId : observation.requestId = request.requestId
  targets : observation.mutationTargets =
    nodeIds.map (mutationTargetOf transcript.events request.requestId)
  received : observation.requestReceivedSequences =
    sequencesOfKind transcript.events request.requestId .requestReceived
  completed : observation.responseCompletedSequences =
    sequencesOfKind transcript.events request.requestId .responseCompleted
  aborted : observation.requestAbortedSequences =
    sequencesOfKind transcript.events request.requestId .requestAborted

theorem summarizeMutationObservations_eq_ok {transcript : RuntimeObservationTranscript}
    {nodeIds : List GraphNodeId} {request : RuntimeRequestResult}
    {observation : MutationScenarioRequestObservation}
    (built : summarizeMutationObservations transcript.events request.requestId nodeIds
      request.statusCode = .ok observation) :
    ObservesMutations transcript nodeIds request observation := by
  rw [summarizeMutationObservations] at built
  split at built
  next =>
    split at built
    next =>
      split at built
      next =>
        cases built
        exact ⟨rfl, rfl, rfl, rfl, rfl⟩
      next => cases built
    next => cases built
  next => cases built

/-- A mutation observation is built of a status in range only. -/
theorem summarizeMutationObservations_inRange {transcript : RuntimeObservationTranscript}
    {nodeIds : List GraphNodeId} {request : RuntimeRequestResult}
    {observation : MutationScenarioRequestObservation}
    (built : summarizeMutationObservations transcript.events request.requestId nodeIds
      request.statusCode = .ok observation) : StatusInRange request.statusCode := by
  rw [summarizeMutationObservations] at built
  split at built
  next =>
    split at built
    next =>
      split at built
      next inRange => exact (optionalStatusInRange_some _).mp inRange
      next => cases built
    next => cases built
  next => cases built

/-- A mutation observation fails to build only on a status out of range, for tracked nodes
that are distinct and at least one. -/
theorem summarizeMutationObservations_ok (transcript : RuntimeObservationTranscript)
    {nodeIds : List GraphNodeId} (nonempty : nodeIds ≠ []) (distinct : nodeIds.Nodup)
    {request : RuntimeRequestResult} (inRange : StatusInRange request.statusCode) :
    ∃ observation, summarizeMutationObservations transcript.events request.requestId nodeIds
      request.statusCode = .ok observation := by
  rw [← optionalStatusInRange_some] at inRange
  rw [summarizeMutationObservations, dif_pos nonempty, dif_pos distinct, dif_pos inRange]
  exact ⟨_, rfl⟩

/-- The mutations of some requests are observed exactly when every status is in range. -/
theorem observeMutations_ok_iff (transcript : RuntimeObservationTranscript)
    {nodeIds : List GraphNodeId} (nonempty : nodeIds ≠ []) (distinct : nodeIds.Nodup)
    (requests : List RuntimeRequestResult) :
    (∃ observations, observeMutations transcript nodeIds requests = .ok observations) ↔
      ∀ request ∈ requests, StatusInRange request.statusCode := by
  rw [observeMutations, collect_ok_iff]
  refine forall₂_congr fun request _ => ⟨?_, summarizeMutationObservations_ok transcript nonempty
    distinct⟩
  rintro ⟨observation, built⟩
  exact summarizeMutationObservations_inRange built

namespace ObservesMutations

variable {transcript : RuntimeObservationTranscript} {nodeIds : List GraphNodeId}
  {request : RuntimeRequestResult} {observation : MutationScenarioRequestObservation}

theorem targetIds (observes : ObservesMutations transcript nodeIds request observation) :
    observation.targetIds = nodeIds := by
  rw [MutationScenarioRequestObservation.targetIds, observes.targets]
  exact mutationTargetOf_ids transcript.events request.requestId nodeIds

/-- A tracked node is found with the events the request has of it. -/
theorem targetFor (observes : ObservesMutations transcript nodeIds request observation)
    {nodeId : GraphNodeId} (tracked : nodeId ∈ nodeIds) :
    Sg04.targetFor observation nodeId =
      some (mutationTargetOf transcript.events request.requestId nodeId) := by
  rw [Sg04.targetFor, observes.targets]
  clear observes
  induction nodeIds with
  | nil => cases tracked
  | cons head rest ih =>
    by_cases same : head = nodeId
    · simp [same]
    · have later : nodeId ∈ rest := by
        cases tracked with
        | head => exact absurd rfl same
        | tail _ later => exact later
      simpa [same] using ih later

theorem receivedOnce (observes : ObservesMutations transcript nodeIds request observation)
    {requests : List RuntimeRequestResult}
    (exact : SequenceAuthorityIsExact transcript requests) (dispatched : request ∈ requests) :
    observation.ReceivedOnce := by
  rw [MutationScenarioRequestObservation.ReceivedOnce, observes.received]
  exact length_received_of_exact exact (List.mem_map_of_mem dispatched)

end ObservesMutations

/-! ## Touching a mutation -/

/-- A request has an event of the assignment at a node. -/
def Touches (transcript : RuntimeObservationTranscript) (request : RuntimeRequestResult)
    (nodeId : GraphNodeId) : Prop :=
  ∃ event ∈ transcript.events, event.requestId = request.requestId ∧
    event.kind ∈ RuntimeObservationKind.mutation ∧ event.mutationNodeId = some nodeId

instance (transcript : RuntimeObservationTranscript) (request : RuntimeRequestResult)
    (nodeId : GraphNodeId) : Decidable (Touches transcript request nodeId) :=
  inferInstanceAs (Decidable (∃ _ ∈ _, _))

theorem mutationSequences_eq_nil (events : List RuntimeObservationEvent)
    (requestId : RuntimeRequestId) (nodeId : GraphNodeId) (kind : RuntimeObservationKind) :
    mutationSequences events requestId nodeId kind = [] ↔
      ∀ event ∈ events, event.requestId = requestId → event.kind = kind →
        event.mutationNodeId ≠ some nodeId := by
  simp only [mutationSequences, sequencesWhere, List.map_eq_nil_iff, List.filter_eq_nil_iff,
    List.mem_filter, decide_eq_true_eq, not_and, and_imp]

/-- A target is untouched when its request has no event of its assignment. -/
theorem untouched_iff (transcript : RuntimeObservationTranscript)
    (request : RuntimeRequestResult) (nodeId : GraphNodeId) :
    (mutationTargetOf transcript.events request.requestId nodeId).Untouched ↔
      ¬ Touches transcript request nodeId := by
  simp only [MutationTargetObservationSummary.Untouched, mutationTargetOf,
    MutationTargetObservationSummary.reachedCount, List.length_eq_zero_iff,
    MutationTargetObservationSummary.completedNormallyCount,
    MutationTargetObservationSummary.raisedCount, mutationSequences_eq_nil]
  constructor
  · rintro ⟨reached, completed, raised⟩ ⟨event, membership, same, kind, node⟩
    simp only [RuntimeObservationKind.mutation, List.mem_cons, List.not_mem_nil, or_false] at kind
    rcases kind with kind | kind | kind
    · exact reached event membership same kind node
    · exact completed event membership same kind node
    · exact raised event membership same kind node
  · intro untouched
    refine ⟨?_, ?_, ?_⟩ <;>
      exact fun event membership same kind node =>
        untouched ⟨event, membership, same, by simp [kind, RuntimeObservationKind.mutation], node⟩

/-- The events of a pass of the state reducer: the captured control completed and the stale
request, answered once, left the authorised node alone. -/
structure StatePassEvents (transcript : RuntimeObservationTranscript)
    (first second : RuntimeRequestResult) (capturedNodeId authorizedNodeId : GraphNodeId) :
    Prop where
  /-- The first request completed the captured assignment every time it reached it. -/
  control :
    (mutationTargetOf transcript.events first.requestId capturedNodeId).CompletedWhenReached
  spared : ¬ Touches transcript second authorizedNodeId
  answered : (sequencesOfKind transcript.events second.requestId .responseCompleted).length = 1
  notAborted : sequencesOfKind transcript.events second.requestId .requestAborted = []

/-- A pass of the state reducer that the validator rejects: the stale request touched a
tracked node all the same. -/
structure StaleSideEffect (transcript : RuntimeObservationTranscript)
    (nodeIds : List GraphNodeId) (first second : RuntimeRequestResult)
    (capturedNodeId authorizedNodeId : GraphNodeId) : Prop extends
    StatePassEvents transcript first second capturedNodeId authorizedNodeId where
  sideEffect : ∃ nodeId ∈ nodeIds, Touches transcript second nodeId

/-! ## One assertion at a time -/

/-- A payload that states a verdict on the mutation observations of a sequence. -/
structure MutationPayload (r : ScenarioResultPayload) (scenario : ScenarioId) (verdict : Verdict)
    (first second : MutationScenarioRequestObservation) : Prop where
  scenario : r.scenarioId = scenario
  result : r.result = verdict.state
  reason : r.reason = verdict.reason
  observed : r.requestObservations = [.mutation first, .mutation second]

namespace MutationPayload

variable {r : ScenarioResultPayload} {scenario : ScenarioId} {verdict : Verdict}
  {first second : MutationScenarioRequestObservation}

theorem customers (payload : MutationPayload r scenario verdict first second) :
    r.customers = [] := by
  rw [ScenarioResultPayload.customers, payload.observed]
  rfl

theorem mutations (payload : MutationPayload r scenario verdict first second) :
    r.mutations = [first, second] := by
  rw [ScenarioResultPayload.mutations, payload.observed]
  rfl

/-- The observations are of exactly one of the two kinds. -/
theorem oneKind (payload : MutationPayload r scenario verdict first second) :
    ¬ (r.AllCustomer ↔ r.AllMutation) := by
  intro same
  have mutation : r.AllMutation := by
    intro item membership
    rw [payload.observed] at membership
    rcases List.mem_cons.mp membership with rfl | membership
    · rfl
    · rw [List.mem_singleton.mp membership]
      rfl
  have customer := same.mpr mutation (.mutation first) (by simp [payload.observed])
  cases customer

/-- Only the mutation scenarios leave a verdict that is not verified without a control. -/
theorem accepted_of_unverified (payload : MutationPayload r scenario verdict first second)
    (mutation : scenario ∉ [ScenarioId.sg01, .sg02, .sg03, .sg08])
    (unverified : verdict.IsUnverified) : r.validateScenario = .ok () := by
  refine validateScenario_of_unverified r ?_ ?_
  · rw [ScenarioResultPayload.verified, payload.result, unverified.state]
    rfl
  · intro other
    rw [payload.scenario] at other
    exact absurd other mutation

end MutationPayload

section Accepted

variable {r : ScenarioResultPayload} {first second : MutationScenarioRequestObservation}

theorem Sg05.mutation_accepted
    (payload : MutationPayload r .sg05 (evaluateMutationSequence first second) first second)
    (control : r.authority.normalControlId = none) : r.validateScenario = .ok () := by
  have oneKind := payload.oneKind
  have customers := payload.customers
  have mutations := payload.mutations
  have observations := payload.observed
  have result := payload.result
  have reason := payload.reason
  rw [evaluateMutationSequence] at payload result reason
  rcases evaluateRejectedMutation_spec first second .rejectedSignatureCompletedMutation
      .validSignatureControlUnproven .rejectedSignatureAddedNoMutation with
    ⟨same, received, untouched, complete, normal, verdict⟩ |
      ⟨same, received, someCompleted, verdict⟩ | unverified
  · rw [verdict] at result reason
    simp [ScenarioResultPayload.validateScenario, payload.scenario,
      ScenarioResultPayload.validateSg05, ScenarioResultPayload.validateSg05Mutation, control,
      oneKind, customers, mutations, observations, result, reason, Verdict.pass, same, received,
      untouched, complete, normal]
  · rw [verdict] at result reason
    simp [ScenarioResultPayload.validateScenario, payload.scenario,
      ScenarioResultPayload.validateSg05, ScenarioResultPayload.validateSg05Mutation, control,
      oneKind, customers, mutations, observations, result, reason, Verdict.fail, same, received,
      someCompleted]
  · exact payload.accepted_of_unverified (by decide) unverified

theorem Sg06.mutation_accepted
    (payload : MutationPayload r .sg06 (evaluateMutationSequence first second) first second)
    (input : ∃ input, r.inputReference = some input ∧ input.isCheckoutSequence = true) :
    r.validateScenario = .ok () := by
  have oneKind := payload.oneKind
  have customers := payload.customers
  have mutations := payload.mutations
  have observations := payload.observed
  have result := payload.result
  have reason := payload.reason
  rw [evaluateMutationSequence] at payload result reason
  rcases evaluateRejectedMutation_spec first second .tamperedCallbackCompletedMutation
      .validCheckoutControlUnproven .tamperedCallbackAddedNoMutation with
    ⟨-, -, untouched, -, normal, verdict⟩ | ⟨-, -, someCompleted, verdict⟩ | unverified
  · rw [verdict] at result reason
    have completed := normal.2.2.2
    simp [ScenarioResultPayload.validateScenario, payload.scenario,
      ScenarioResultPayload.validateSg06, ScenarioResultPayload.validateSg06Mutation, input,
      oneKind, customers, mutations, observations, result, reason, Verdict.pass, untouched,
      completed]
  · rw [verdict] at result reason
    simp [ScenarioResultPayload.validateScenario, payload.scenario,
      ScenarioResultPayload.validateSg06, ScenarioResultPayload.validateSg06Mutation, input,
      oneKind, customers, mutations, observations, result, reason, Verdict.fail, someCompleted]
  · exact payload.accepted_of_unverified (by decide) unverified

/-- A target that is found completed makes some target completed. -/
theorem Sg04.someCompleted_of_targetFor {observation : MutationScenarioRequestObservation}
    {nodeId : GraphNodeId} {target : MutationTargetObservationSummary}
    (found : target ∈ targetFor observation nodeId) (completed : 0 < target.completedNormallyCount) :
    observation.SomeCompleted :=
  ⟨target, List.mem_of_find?_eq_some found, completed⟩

/-- The validator accepts the state verdict unless it is a pass and the stale request touched
some target. -/
theorem Sg04.state_accepted_iff {capturedNodeId authorizedNodeId : GraphNodeId}
    (payload : MutationPayload r .sg04
      (evaluateStateSequence first second capturedNodeId authorizedNodeId) first second)
    (control : r.authority.normalControlId.isSome)
    (input : ∃ input, r.inputReference = some input ∧ input.isWebhookSequence = true) :
    r.validateScenario = .ok () ↔
      ¬ (StatePass first second capturedNodeId authorizedNodeId ∧ ¬ second.AllUntouched) := by
  rw [Option.isSome_iff_ne_none] at control
  have oneKind := payload.oneKind
  have customers := payload.customers
  have mutations := payload.mutations
  have observations := payload.observed
  have result := payload.result
  have reason := payload.reason
  rcases evaluateStateSequence_spec first second capturedNodeId authorizedNodeId with
    ⟨pass, verdict⟩ | ⟨⟨stale, found, regressed⟩, verdict⟩ | ⟨notPass, unverified⟩
  · rw [verdict] at result reason
    obtain ⟨target, isTarget, completed⟩ := pass.control
    have someCompleted : first.SomeCompleted :=
      someCompleted_of_targetFor isTarget (by have := completed.1; have := completed.2.1; omega)
    have verified : r.verified = true := by
      rw [ScenarioResultPayload.verified, result]
      rfl
    simp [ScenarioResultPayload.validateScenario, payload.scenario,
      ScenarioResultPayload.validateSg04, ScenarioResultPayload.validateSg04Mutation, control,
      input, oneKind, customers, mutations, observations, result, reason, Verdict.pass, pass,
      someCompleted, verified]
  · have notPass : ¬ StatePass first second capturedNodeId authorizedNodeId := by
      intro pass
      obtain ⟨other, isOther, untouched⟩ := pass.stale
      have same : other = stale := Option.mem_unique isOther found
      have none := untouched.2.1
      rw [same] at none
      omega
    rw [verdict] at result reason
    have someCompleted : second.SomeCompleted := someCompleted_of_targetFor found regressed
    simp [ScenarioResultPayload.validateScenario, payload.scenario,
      ScenarioResultPayload.validateSg04, ScenarioResultPayload.validateSg04Mutation, control,
      input, oneKind, customers, mutations, observations, result, reason, Verdict.fail, notPass,
      someCompleted]
  · simp [payload.accepted_of_unverified (by decide) unverified, notPass]

end Accepted

/-! ## Every admitted transcript -/

/-- The transcripts an executor hands on to its mutation reducer.  Only the out-of-order
scenario leaves mutation events of other nodes unexamined. -/
structure MutationsAdmitted (assertion : MutationAssertion) (artifact : RuntimeCapabilityArtifact)
    (transcript : RuntimeObservationTranscript) (nodeIds : List GraphNodeId)
    (requests : List RuntimeRequestResult) : Prop where
  valid : validateObservationTranscript artifact transcript = .ok ()
  exact : SequenceAuthorityIsExact transcript requests
  sameMutations : assertion.scenario ≠ .sg04 →
    ¬ CrossMutation (eventsOf transcript requests) nodeIds

/-- The input and the control of a mutation result. -/
def MutationAssertion.InputMatches (packing : Packing) : MutationAssertion → Prop
  | .stateRegression _ _ => packing.authority.normalControlId.isSome ∧
      ∃ reference, packing.inputReference = some (.webhookSequenceInput reference)
  | .rejectedSignature => packing.authority.normalControlId = none ∧
      ∃ reference, packing.inputReference = some (.scenarioInput reference)
  | .tamperedCallback => packing.authority.normalControlId = none ∧
      ∃ reference, packing.inputReference = some (.checkoutSequenceInput reference)

theorem MutationAssertion.inputReference_isSome {packing : Packing}
    (assertion : MutationAssertion) (input : assertion.InputMatches packing) :
    packing.inputReference.isSome := by
  cases assertion with
  | stateRegression | rejectedSignature | tamperedCallback =>
    obtain ⟨-, reference, given⟩ := input
    rw [given]
    rfl

theorem MutationAssertion.not_grounded {packing : Packing} (assertion : MutationAssertion)
    (input : assertion.InputMatches packing) {reference : ScenarioSafeInputReference}
    (given : reference ∈ packing.inputReference) : reference.isGrounded = false := by
  cases assertion with
  | stateRegression | rejectedSignature | tamperedCallback =>
    obtain ⟨-, other, isOther⟩ := input
    rw [isOther, Option.mem_some_iff] at given
    rw [← given]
    rfl

/-- The complete authority of a sealed mutation result. -/
structure MutationsSealed (assertion : MutationAssertion) (packing : Packing)
    (requests : List RuntimeRequestResult) : Prop where
  sameScenario : packing.scenarioId = assertion.scenario
  requestIds : packing.authority.runtimeRequestIds = requests.map (·.requestId)
  capability : packing.authority.runtimeCapabilityFingerprint.isSome
  session : packing.authority.runtimeSessionId.isSome
  transcript : packing.authority.transcriptFingerprint.isSome
  input : assertion.InputMatches packing

/-- The pair of requests of an assertion leads to a pass the validator rejects. -/
def MutationAssertion.SideEffect (transcript : RuntimeObservationTranscript)
    (nodeIds : List GraphNodeId) (first second : RuntimeRequestResult) :
    MutationAssertion → Prop
  | .stateRegression capturedNodeId authorizedNodeId =>
    StaleSideEffect transcript nodeIds first second capturedNodeId authorizedNodeId
  | .rejectedSignature | .tamperedCallback => False

/-- The state reducer passes on the events of a pass. -/
theorem Sg04.statePass_iff {transcript : RuntimeObservationTranscript}
    {nodeIds : List GraphNodeId} {first second : RuntimeRequestResult}
    (exact : SequenceAuthorityIsExact transcript [first, second])
    {captured authorized : MutationScenarioRequestObservation}
    (observesFirst : ObservesMutations transcript nodeIds first captured)
    (observesSecond : ObservesMutations transcript nodeIds second authorized)
    {capturedNodeId authorizedNodeId : GraphNodeId} (trackedCaptured : capturedNodeId ∈ nodeIds)
    (trackedAuthorized : authorizedNodeId ∈ nodeIds) :
    StatePass captured authorized capturedNodeId authorizedNodeId ↔
      StatePassEvents transcript first second capturedNodeId authorizedNodeId := by
  have foundCaptured := observesFirst.targetFor trackedCaptured
  have foundAuthorized := observesSecond.targetFor trackedAuthorized
  have answered : authorized.CompletedOnce ↔
      (sequencesOfKind transcript.events second.requestId .responseCompleted).length = 1 ∧
        sequencesOfKind transcript.events second.requestId .requestAborted = [] := by
    rw [MutationScenarioRequestObservation.CompletedOnce, observesSecond.completed,
      observesSecond.aborted]
  constructor
  · intro pass
    obtain ⟨control, isControl, completed⟩ := pass.control
    obtain ⟨stale, isStale, untouched⟩ := pass.stale
    rw [foundCaptured, Option.mem_some_iff] at isControl
    rw [foundAuthorized, Option.mem_some_iff] at isStale
    subst isControl isStale
    obtain ⟨once, notAborted⟩ := answered.mp pass.answered
    exact ⟨completed, (untouched_iff _ _ _).mp untouched, once, notAborted⟩
  · intro events
    refine ⟨observesFirst.receivedOnce exact (by simp), observesSecond.receivedOnce exact (by simp),
      ⟨_, foundCaptured, events.control⟩, ⟨_, foundAuthorized, ?_⟩, ?_⟩
    · exact (untouched_iff _ _ _).mpr events.spared
    · exact answered.mpr ⟨events.answered, events.notAborted⟩

/-- The observation has all targets untouched when its request touches no tracked node. -/
theorem ObservesMutations.allUntouched_iff {transcript : RuntimeObservationTranscript}
    {nodeIds : List GraphNodeId} {request : RuntimeRequestResult}
    {observation : MutationScenarioRequestObservation}
    (observes : ObservesMutations transcript nodeIds request observation) :
    observation.AllUntouched ↔ ∀ nodeId ∈ nodeIds, ¬ Touches transcript request nodeId := by
  rw [MutationScenarioRequestObservation.AllUntouched, observes.targets]
  simp [untouched_iff]

/-- What the state reducer and the validator see of an admitted pair of requests. -/
theorem Sg04.rejected_iff {transcript : RuntimeObservationTranscript}
    {nodeIds : List GraphNodeId} {first second : RuntimeRequestResult}
    (exact : SequenceAuthorityIsExact transcript [first, second])
    {captured authorized : MutationScenarioRequestObservation}
    (observesFirst : ObservesMutations transcript nodeIds first captured)
    (observesSecond : ObservesMutations transcript nodeIds second authorized)
    {capturedNodeId authorizedNodeId : GraphNodeId} (trackedCaptured : capturedNodeId ∈ nodeIds)
    (trackedAuthorized : authorizedNodeId ∈ nodeIds) :
    StatePass captured authorized capturedNodeId authorizedNodeId ∧ ¬ authorized.AllUntouched ↔
      StaleSideEffect transcript nodeIds first second capturedNodeId authorizedNodeId := by
  rw [statePass_iff exact observesFirst observesSecond trackedCaptured trackedAuthorized,
    observesSecond.allUntouched_iff]
  push Not
  constructor
  · rintro ⟨events, sideEffect⟩
    exact ⟨events, sideEffect⟩
  · intro stale
    exact ⟨stale.toStatePassEvents, stale.sideEffect⟩

/-- Every mutation verdict is one the reducers build. -/
theorem MutationAssertion.verdict_built (first second : MutationScenarioRequestObservation)
    (assertion : MutationAssertion) : (assertion.verdict first second).Built := by
  cases assertion with
  | stateRegression capturedNodeId authorizedNodeId =>
    exact Sg04.evaluateStateSequence_built _ _ _ _
  | rejectedSignature => exact evaluateRejectedMutation_built _ _ _ _ _
  | tamperedCallback => exact evaluateRejectedMutation_built _ _ _ _ _

/-- A sealed verdict on the observations of the two requests is packed exactly when the
scenario's validator accepts it. -/
theorem MutationsSealed.makeResult_iff {fingerprint : ScenarioResultPayload → Sha256Digest}
    {assertion : MutationAssertion} {transcript : RuntimeObservationTranscript}
    {nodeIds : List GraphNodeId} {first second : RuntimeRequestResult} {packing : Packing}
    (authority : MutationsSealed assertion packing [first, second])
    {one other : MutationScenarioRequestObservation}
    (observesFirst : ObservesMutations transcript nodeIds first one)
    (observesSecond : ObservesMutations transcript nodeIds second other) {verdict : Verdict}
    (tiered : verdict.Tiered) :
    (∃ r, makeResult fingerprint packing verdict [.mutation one, .mutation other] = .ok r) ↔
      (packing.payload verdict [.mutation one, .mutation other]).validateScenario = .ok () := by
  have ids : ([.mutation one, .mutation other] : List ScenarioObservation).map
      (·.requestId) = packing.authority.runtimeRequestIds := by
    rw [authority.requestIds]
    simp [ScenarioObservation.requestId, observesFirst.requestId, observesSecond.requestId]
  have given := assertion.inputReference_isSome authority.input
  have rules : PackingRules packing [.mutation one, .mutation other] :=
    { grounded := by
        intro input isInput grounded
        exact absurd grounded (by simp [assertion.not_grounded authority.input isInput])
      ordered := by
        rw [← ids]
        rfl
      input := fun _ => given
      injection := by simp [ScenarioObservation.customer?] }
  exact makeResult_eq_ok rules tiered fun _ =>
    ⟨authority.capability, authority.session, authority.transcript, given, ids⟩

/-- The sealed packing of a verdict states it on the two observations. -/
theorem MutationsSealed.payload {assertion : MutationAssertion} {packing : Packing}
    {requests : List RuntimeRequestResult} (authority : MutationsSealed assertion packing requests)
    (verdict : Verdict) (one other : MutationScenarioRequestObservation) :
    MutationPayload (packing.payload verdict [.mutation one, .mutation other])
      assertion.scenario verdict one other :=
  ⟨authority.sameScenario, rfl, rfl, rfl⟩

/-- The verdict of an assertion on the two requests is packed exactly without the side effect
that the state reducer overlooks. -/
theorem MutationsSealed.packed_iff {fingerprint : ScenarioResultPayload → Sha256Digest}
    {assertion : MutationAssertion} {transcript : RuntimeObservationTranscript}
    {nodeIds : List GraphNodeId} {first second : RuntimeRequestResult} {packing : Packing}
    (authority : MutationsSealed assertion packing [first, second])
    (exact : SequenceAuthorityIsExact transcript [first, second])
    {one other : MutationScenarioRequestObservation}
    (observesFirst : ObservesMutations transcript nodeIds first one)
    (observesSecond : ObservesMutations transcript nodeIds second other)
    (tracked : assertion.Tracked nodeIds) :
    (∃ r, makeResult fingerprint packing (assertion.verdict one other)
        [.mutation one, .mutation other] = .ok r) ↔
      ¬ assertion.SideEffect transcript nodeIds first second := by
  rw [authority.makeResult_iff observesFirst observesSecond
    (assertion.verdict_built one other).tiered]
  have payload := authority.payload (assertion.verdict one other) one other
  cases assertion with
  | stateRegression capturedNodeId authorizedNodeId =>
    obtain ⟨control, reference, input⟩ := authority.input
    rw [Sg04.state_accepted_iff payload control ⟨_, input, rfl⟩, Sg04.rejected_iff exact
      observesFirst observesSecond tracked.1 tracked.2]
    rfl
  | rejectedSignature =>
    obtain ⟨control, reference, input⟩ := authority.input
    exact iff_of_true (Sg05.mutation_accepted payload control) id
  | tamperedCallback =>
    obtain ⟨control, reference, input⟩ := authority.input
    exact iff_of_true (Sg06.mutation_accepted payload ⟨_, input, rfl⟩) id

/-- The packed verdict of an admitted pair of requests is accepted exactly when the pair has
no side effect that the state reducer overlooks. -/
theorem mutationVerdict_accepted_iff (fingerprint : ScenarioResultPayload → Sha256Digest)
    {assertion : MutationAssertion} {artifact : RuntimeCapabilityArtifact}
    {transcript : RuntimeObservationTranscript} {nodeIds : List GraphNodeId}
    {first second : RuntimeRequestResult} {packing : Packing}
    (admitted : MutationsAdmitted assertion artifact transcript nodeIds [first, second])
    (tracked : assertion.Tracked nodeIds)
    (authority : MutationsSealed assertion packing [first, second]) :
    (nodeIds ≠ [] → nodeIds.Nodup → StatusInRange first.statusCode →
        StatusInRange second.statusCode → ∃ observations,
          observeMutations transcript nodeIds [first, second] = .ok observations) ∧
    ∀ captured authorized,
      observeMutations transcript nodeIds [first, second] = .ok [captured, authorized] →
      ((∃ r, makeResult fingerprint packing (assertion.verdict captured authorized)
          [.mutation captured, .mutation authorized] = .ok r) ↔
        ¬ assertion.SideEffect transcript nodeIds first second) := by
  refine ⟨?_, ?_⟩
  · intro nonempty distinct inRangeFirst inRangeSecond
    rw [observeMutations_ok_iff transcript nonempty distinct]
    simp [inRangeFirst, inRangeSecond]
  · intro captured authorized built
    cases collect_eq_ok built with
    | cons builtFirst rest =>
      cases rest with
      | cons builtSecond rest =>
        exact authority.packed_iff admitted.exact
          (summarizeMutationObservations_eq_ok builtFirst)
          (summarizeMutationObservations_eq_ok builtSecond) tracked

/-! ### A stale request that repeats the captured assignment -/

/-- An event of an assignment in one sample request. -/
def sampleMutationEvent (sequence : Nat) (requestId : RuntimeRequestId)
    (kind : RuntimeObservationKind) (nodeId : GraphNodeId) : RuntimeObservationEvent :=
  { sampleEvent sequence requestId kind none with mutationNodeId := some nodeId }

/-- The stale request performs no assignment. -/
def sampleStale : RuntimeObservationTranscript :=
  { sessionId := "session"
    capabilityFingerprint := "capability"
    complete := true
    events :=
      [sampleEvent 1 "first" .requestReceived none,
        sampleMutationEvent 2 "first" .merchantAssignmentInstructionReached "captured",
        sampleMutationEvent 3 "first" .merchantAssignmentInstructionCompletedNormally "captured",
        sampleEvent 4 "first" .responseCompleted (some 200),
        sampleEvent 5 "second" .requestReceived none,
        sampleEvent 6 "second" .responseCompleted (some 200)]
    diagnostics := []
    transcriptFingerprint := "transcript"
    eventsValid := by decide
    oneSession := by decide
    contiguous := by decide }

/-- The stale request performs the captured assignment again. -/
def sampleRepeated : RuntimeObservationTranscript :=
  { sessionId := "session"
    capabilityFingerprint := "capability"
    complete := true
    events :=
      [sampleEvent 1 "first" .requestReceived none,
        sampleMutationEvent 2 "first" .merchantAssignmentInstructionReached "captured",
        sampleMutationEvent 3 "first" .merchantAssignmentInstructionCompletedNormally "captured",
        sampleEvent 4 "first" .responseCompleted (some 200),
        sampleEvent 5 "second" .requestReceived none,
        sampleMutationEvent 6 "second" .merchantAssignmentInstructionReached "captured",
        sampleMutationEvent 7 "second" .merchantAssignmentInstructionCompletedNormally "captured",
        sampleEvent 8 "second" .responseCompleted (some 200)]
    diagnostics := []
    transcriptFingerprint := "transcript"
    eventsValid := by decide
    oneSession := by decide
    contiguous := by decide }

/-- The regression assertion of the sample carrier. -/
def sampleRegression : MutationAssertion := .stateRegression "captured" "authorized"

/-- The tracked assignments of the sample carrier. -/
def sampleNodeIds : List GraphNodeId := ["authorized", "captured"]

/-- The packing of the out-of-order sequence. -/
def sampleRegressionPacking : Packing :=
  { samplePacking with
    scenarioId := .sg04
    inputReference := some (.webhookSequenceInput
      { contextFingerprint := "context"
        path := "/webhook"
        capturedControl :=
          { fixtureFingerprint := "fixture"
            rawBodyFingerprint := "captured body"
            syntheticEventId := "captured event" }
        staleAuthorized :=
          { fixtureFingerprint := "fixture"
            rawBodyFingerprint := "stale body"
            syntheticEventId := "stale event" }
        distinctEvents := by decide }) }

theorem sampleRegressionPacking_sealed :
    MutationsSealed sampleRegression sampleRegressionPacking sampleRequests where
  sameScenario := rfl
  requestIds := rfl
  capability := rfl
  session := rfl
  transcript := rfl
  input := ⟨rfl, _, rfl⟩

theorem sampleStale_admitted :
    MutationsAdmitted sampleRegression sampleArtifact sampleStale sampleNodeIds sampleRequests where
  valid := by decide
  exact := by decide
  sameMutations := fun other => absurd rfl other

theorem sampleRepeated_admitted :
    MutationsAdmitted sampleRegression sampleArtifact sampleRepeated sampleNodeIds
      sampleRequests where
  valid := by decide
  exact := by decide
  sameMutations := fun other => absurd rfl other

/-- The observation of one sample request, with the sequences of the captured assignment. -/
def sampleMutationObservation (requestId : RuntimeRequestId)
    (received : Nat) (reached completed : List Nat) (answered : Nat) :
    MutationScenarioRequestObservation :=
  { requestId := requestId
    mutationTargets :=
      [{ mutationNodeId := "authorized"
         reachedSequences := []
         completedNormallySequences := []
         raisedSequences := [] },
        { mutationNodeId := "captured"
          reachedSequences := reached
          completedNormallySequences := completed
          raisedSequences := [] }]
    requestReceivedSequences := [received]
    responseCompletedSequences := [answered]
    requestAbortedSequences := []
    httpStatusCode := some 200
    targetsNonempty := by simp
    targetsUnique := by simp
    statusInRange := statusInRange_ok }

theorem mutationVerdict_accepted_stale :
    ∃ r, makeResult (fun _ => "result") sampleRegressionPacking
      (.pass .merchantStateDidNotRegress)
      [.mutation (sampleMutationObservation "first" 1 [2] [3] 4),
        .mutation (sampleMutationObservation "second" 5 [] [] 6)] = .ok r := by
  have agreement := mutationVerdict_accepted_iff (fun _ => "result") sampleStale_admitted
    ⟨by decide, by decide⟩ sampleRegressionPacking_sealed
  refine (agreement.2 (sampleMutationObservation "first" 1 [2] [3] 4)
    (sampleMutationObservation "second" 5 [] [] 6) rfl).mpr fun overlooked => ?_
  exact absurd overlooked.sideEffect (by decide)

/-- A stale request that repeats the captured assignment makes the packing of the state
verdict raise. -/
theorem repeatedAssignment_raises :
    MutationsAdmitted sampleRegression sampleArtifact sampleRepeated sampleNodeIds
        sampleRequests ∧
      sampleRegression.Tracked sampleNodeIds ∧
      MutationsSealed sampleRegression sampleRegressionPacking sampleRequests ∧
      ∃ captured authorized,
        observeMutations sampleRepeated sampleNodeIds sampleRequests =
          .ok [captured, authorized] ∧
        makeResult (fun _ => "result") sampleRegressionPacking
            (sampleRegression.verdict captured authorized)
            [.mutation captured, .mutation authorized] =
          .error "verified SG-04 state pass requires a differential control" := by
  refine ⟨sampleRepeated_admitted, ⟨by decide, by decide⟩, sampleRegressionPacking_sealed,
    sampleMutationObservation "first" 1 [2] [3] 4,
    sampleMutationObservation "second" 5 [6] [7] 8, rfl, rfl⟩

end StateGuard
