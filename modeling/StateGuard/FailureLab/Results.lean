import Mathlib.Data.String.Basic
import StateGuard.Library.KeyOrder
import StateGuard.FailureLab.Reducers

/-!
# Packing a verdict into a result

`makeResult` packs a verdict with its authority, input and observations and runs the
validator of the result.  `PackingRules` is what the common checks of the validator ask of
the packing, and `makeResult_eq_ok` says that a packing which meets them is accepted as soon
as the scenario's own validator accepts it.  A verdict that is not verified is accepted by
every scenario's validator (`validateScenario_of_unverified`), so what is left for the
reducers is their verified verdicts.

`SequenceAuthorityIsExact` is the admission test of a managed sequence: the transcript holds
the events of the dispatched requests and of no others, each received once and in order, and
all at one ingress.
-/

namespace StateGuard

open Checks KeyOrder

/-! ## Requests and their admission -/

/-- The outcome of one dispatched request. -/
structure RuntimeRequestResult where
  requestId : RuntimeRequestId
  binding : IngressRuntimeBinding
  statusCode : Nat
  deriving DecidableEq, Repr

/-- The requests whose receipt the transcript records, in order. -/
def receivedIds (transcript : RuntimeObservationTranscript) : List RuntimeRequestId :=
  (transcript.events.filter (·.kind = .requestReceived)).map (·.requestId)

/-- `_sequence_authority_is_exact`. -/
def SequenceAuthorityIsExact (transcript : RuntimeObservationTranscript)
    (requests : List RuntimeRequestResult) : Prop :=
  let expected := requests.map (·.requestId)
  expected.Nodup ∧
    ∃ first ∈ requests.head?,
      (∀ event ∈ transcript.events, event.requestId ∈ expected) ∧
      (∀ requestId ∈ expected, requestId ∈ transcript.events.map (·.requestId)) ∧
      receivedIds transcript = expected ∧
      (∀ request ∈ requests, request.binding = first.binding) ∧
      ∀ event ∈ transcript.events, event.requestId ∈ expected →
        event.bindingKey = first.binding.key

instance (transcript : RuntimeObservationTranscript) (requests : List RuntimeRequestResult) :
    Decidable (SequenceAuthorityIsExact transcript requests) :=
  have : Decidable (∃ first ∈ requests.head?,
      (∀ event ∈ transcript.events, event.requestId ∈ requests.map (·.requestId)) ∧
      (∀ requestId ∈ requests.map (·.requestId),
        requestId ∈ transcript.events.map (·.requestId)) ∧
      receivedIds transcript = requests.map (·.requestId) ∧
      (∀ request ∈ requests, request.binding = first.binding) ∧
      ∀ event ∈ transcript.events, event.requestId ∈ requests.map (·.requestId) →
        event.bindingKey = first.binding.key) :=
    match requests.head? with
    | none => .isFalse (by simp)
    | some first => decidable_of_iff
        ((∀ event ∈ transcript.events, event.requestId ∈ requests.map (·.requestId)) ∧
          (∀ requestId ∈ requests.map (·.requestId),
            requestId ∈ transcript.events.map (·.requestId)) ∧
          receivedIds transcript = requests.map (·.requestId) ∧
          (∀ request ∈ requests, request.binding = first.binding) ∧
          ∀ event ∈ transcript.events, event.requestId ∈ requests.map (·.requestId) →
            event.bindingKey = first.binding.key)
        (by simp)
  inferInstanceAs (Decidable (_ ∧ _))

/-- The transcript knows the events of one request and of no other. -/
def SingleRequestAuthority (transcript : RuntimeObservationTranscript)
    (request : RuntimeRequestResult) : Prop :=
  transcript.events ≠ [] ∧ ∀ event ∈ transcript.events, event.requestId = request.requestId

instance (transcript : RuntimeObservationTranscript) (request : RuntimeRequestResult) :
    Decidable (SingleRequestAuthority transcript request) :=
  inferInstanceAs (Decidable (_ ∧ _))

/-- A customer-value event of another control. -/
def CrossControl (events : List RuntimeObservationEvent) (controlId : NormalControlId) : Prop :=
  ∃ event ∈ events,
    event.kind ∈ RuntimeObservationKind.customer ∧ event.normalControlId ≠ some controlId

instance (events : List RuntimeObservationEvent) (controlId : NormalControlId) :
    Decidable (CrossControl events controlId) :=
  inferInstanceAs (Decidable (∃ _ ∈ _, _))

/-- A mutation event of a node that is not tracked. -/
def CrossMutation (events : List RuntimeObservationEvent) (nodeIds : List GraphNodeId) : Prop :=
  ∃ event ∈ events, event.kind ∈ RuntimeObservationKind.mutation ∧
    ∀ nodeId ∈ event.mutationNodeId, nodeId ∉ nodeIds

instance (events : List RuntimeObservationEvent) (nodeIds : List GraphNodeId) :
    Decidable (CrossMutation events nodeIds) :=
  have (event : RuntimeObservationEvent) :
      Decidable (∀ nodeId ∈ event.mutationNodeId, nodeId ∉ nodeIds) :=
    match event.mutationNodeId with
    | none => .isTrue (by simp)
    | some nodeId => decidable_of_iff (nodeId ∉ nodeIds) (by simp)
  inferInstanceAs (Decidable (∃ _ ∈ _, _))

/-- The events of the dispatched requests. -/
def eventsOf (transcript : RuntimeObservationTranscript) (requests : List RuntimeRequestResult) :
    List RuntimeObservationEvent :=
  transcript.events.filter (·.requestId ∈ requests.map (·.requestId))

/-- A request of the transcript is received as often as its identity occurs among the
received ones. -/
theorem length_received (transcript : RuntimeObservationTranscript)
    (requestId : RuntimeRequestId) :
    (sequencesOfKind transcript.events requestId .requestReceived).length =
      (receivedIds transcript).count requestId := by
  unfold sequencesOfKind sequencesWhere receivedIds
  rw [List.length_map, List.count, List.countP_map, List.countP_filter, List.filter_filter,
    ← List.countP_eq_length_filter]
  refine List.countP_congr fun event _ => ?_
  simp [and_comm]

/-- In an exact sequence every dispatched request is received exactly once. -/
theorem length_received_of_exact {transcript : RuntimeObservationTranscript}
    {requests : List RuntimeRequestResult}
    (exact : SequenceAuthorityIsExact transcript requests)
    {requestId : RuntimeRequestId} (expected : requestId ∈ requests.map (·.requestId)) :
    (sequencesOfKind transcript.events requestId .requestReceived).length = 1 := by
  obtain ⟨distinct, first, -, -, -, received, -⟩ := exact
  rw [length_received, received]
  exact List.count_eq_one_of_mem distinct expected

/-! ## Packing -/

/-- Everything a result records besides its verdict and observations. -/
structure Packing where
  executionId : ScenarioExecutionId
  scenarioId : ScenarioId
  scenarioDefinitionFingerprint : Sha256Digest
  assertionId : AssertionId
  authority : ScenarioAuthorityReference
  inputReference : Option ScenarioSafeInputReference
  runtimeDiagnostics : List RuntimeCapabilityReasonCode
  deriving DecidableEq

/-- The contents of the result of one verdict.  Diagnostics are recorded once each, in the
order of their spelling. -/
def Packing.payload (packing : Packing) (verdict : Verdict)
    (observations : List ScenarioObservation) : ScenarioResultPayload :=
  { schemaVersion := 3
    executionId := packing.executionId
    scenarioId := packing.scenarioId
    scenarioDefinitionFingerprint := packing.scenarioDefinitionFingerprint
    assertionId := packing.assertionId
    authority := packing.authority
    inputReference := packing.inputReference
    requestObservations := observations
    result := verdict.state
    evidenceTier := verdict.tier
    reason := verdict.reason
    runtimeDiagnostics :=
      sortedByKey RuntimeCapabilityReasonCode.value packing.runtimeDiagnostics.dedup }

@[simp]
theorem Packing.payload_result (packing : Packing) (verdict : Verdict)
    (observations : List ScenarioObservation) :
    (packing.payload verdict observations).result = verdict.state := rfl

/-- `_make_result`. -/
def makeResult (fingerprint : ScenarioResultPayload → Sha256Digest) (packing : Packing)
    (verdict : Verdict) (observations : List ScenarioObservation) :
    Except String ScenarioExecutionResult := do
  let payload := packing.payload verdict observations
  let result : ScenarioExecutionResult :=
    { toScenarioResultPayload := payload, resultFingerprint := fingerprint payload }
  result.validateResult fingerprint
  pure result

/-- The verdict carries the evidence tier of its state. -/
def Verdict.Tiered (verdict : Verdict) : Prop :=
  verdict.tier = if verdict.state.verified = true then some .e3DynamicVerified else none

@[simp]
theorem Verdict.unverified_tiered (reason : ScenarioResultReasonCode) :
    (Verdict.unverified reason).Tiered := rfl

@[simp]
theorem Verdict.pass_tiered (reason : ScenarioResultReasonCode) :
    (Verdict.pass reason).Tiered := rfl

@[simp]
theorem Verdict.fail_tiered (reason : ScenarioResultReasonCode) :
    (Verdict.fail reason).Tiered := rfl

/-- What the common checks of the validator ask of a packing and its observations. -/
structure PackingRules (packing : Packing) (observations : List ScenarioObservation) :
    Prop where
  /-- A grounded input belongs to the first scenario. -/
  grounded : ∀ input ∈ packing.inputReference, input.isGrounded = true →
    packing.scenarioId = .sg01
  /-- The observations belong to the first dispatched requests. -/
  ordered : observations.map (·.requestId) =
    packing.authority.runtimeRequestIds.take observations.length
  /-- Observations need an input. -/
  input : observations ≠ [] → packing.inputReference.isSome
  /-- Only the retry scenario injects acknowledgement failures. -/
  injection : packing.scenarioId ≠ .sg03 → ∀ item ∈ observations.filterMap (·.customer?),
    item.acknowledgementFailure = none

/-- What a verified result must rest on besides. -/
structure CompletePacking (packing : Packing) (observations : List ScenarioObservation) :
    Prop where
  capability : packing.authority.runtimeCapabilityFingerprint.isSome
  session : packing.authority.runtimeSessionId.isSome
  transcript : packing.authority.transcriptFingerprint.isSome
  input : packing.inputReference.isSome
  /-- Every dispatched request is observed. -/
  complete : observations.map (·.requestId) = packing.authority.runtimeRequestIds

/-- A packing that meets the rules is accepted exactly when its scenario accepts it. -/
theorem makeResult_eq_ok {fingerprint : ScenarioResultPayload → Sha256Digest}
    {packing : Packing} {verdict : Verdict} {observations : List ScenarioObservation}
    (rules : PackingRules packing observations) (tiered : verdict.Tiered)
    (complete : verdict.state.verified = true → CompletePacking packing observations) :
    (∃ r, makeResult fingerprint packing verdict observations = .ok r) ↔
      (packing.payload verdict observations).validateScenario = .ok () := by
  have common : (packing.payload verdict observations).validateCommon = .ok () := by
    simp only [ScenarioResultPayload.validateCommon, bind_eq_ok, exists_unit, raiseIf_eq_ok]
    refine ⟨?_, ?_, ?_, ?_, ?_, ?_, ?_⟩
    · rw [not_not, show (packing.payload verdict observations).evidenceTier = verdict.tier from rfl,
        tiered, show (packing.payload verdict observations).verified =
          verdict.state.verified from rfl]
      cases verdict.state.verified <;> simp
    · rw [show (packing.payload verdict observations).evidenceTier = verdict.tier from rfl, tiered]
      cases verdict.state.verified <;> simp
    · rintro ⟨⟨input, given, isGrounded⟩, elsewhere⟩
      rcases elsewhere with version | scenario
      · exact version rfl
      · exact scenario (rules.grounded input given isGrounded)
    · rw [not_not]
      simpa [ScenarioResultPayload.observationIds, Packing.payload] using rules.ordered
    · rintro ⟨observed, missing⟩
      have given := rules.input observed
      simp [Packing.payload] at missing
      simp [missing] at given
    · rintro ⟨verified, incomplete⟩
      have authority := complete verified
      exact incomplete ⟨authority.capability, authority.session, authority.transcript,
        authority.input, authority.complete⟩
    · rintro ⟨scenario, item, observed, injected⟩
      exact injected (rules.injection scenario item observed)
  simp [makeResult, ScenarioExecutionResult.validateResult, common, exists_unit]

/-- A result states the verdict and the observations it was packed with. -/
theorem payload_of_makeResult {fingerprint : ScenarioResultPayload → Sha256Digest}
    {packing : Packing} {verdict : Verdict} {observations : List ScenarioObservation}
    {r : ScenarioExecutionResult}
    (packed : makeResult fingerprint packing verdict observations = .ok r) :
    r.toScenarioResultPayload = packing.payload verdict observations := by
  simp only [makeResult, bind_eq_ok, pure_eq_ok] at packed
  obtain ⟨-, -, rfl⟩ := packed
  rfl

/-- A result that is not verified is accepted by every scenario's validator, provided its
observations, if it has any, are of its customer control where the scenario asks for one. -/
theorem validateScenario_of_unverified (r : ScenarioResultPayload)
    (unverified : r.verified = false)
    (observed : r.scenarioId ∈ [ScenarioId.sg01, .sg02, .sg03, .sg08] →
      r.requestObservations = [] ∨ r.authority.normalControlId.isSome ∧ r.AllCustomer) :
    r.validateScenario = .ok () := by
  have notPass : r.result ≠ .verifiedPass := fun passed => by
    simp [ScenarioResultPayload.verified, passed, VerificationResultState.verified] at unverified
  have notFail : r.result ≠ .verifiedFail := fun failed => by
    simp [ScenarioResultPayload.verified, failed, VerificationResultState.verified] at unverified
  have control (messages : r.scenarioId ∈ [ScenarioId.sg01, .sg02, .sg03, .sg08])
      (a b : String) : r.requireCustomerControl a b = .ok () := by
    simp only [ScenarioResultPayload.requireCustomerControl, bind_eq_ok, exists_unit,
      raiseIf_eq_ok, unverified]
    rcases observed messages with none | ⟨authority, customer⟩
    · simp [none, ScenarioResultPayload.AllCustomer]
    · rw [Option.isSome_iff_ne_none] at authority
      simp [authority, customer]
  unfold ScenarioResultPayload.validateScenario
  cases scenario : r.scenarioId with
  | sg01 =>
    have required := control (by simp [scenario])
    simp [ScenarioResultPayload.validateSg01, required, unverified, notPass, notFail]
  | sg02 =>
    have required := control (by simp [scenario])
    simp only [ScenarioResultPayload.validateSg02, required, ok_bind, unverified]
    split <;> simp [notPass, notFail]
  | sg03 =>
    have required := control (by simp [scenario])
    simp [ScenarioResultPayload.validateSg03, required, unverified]
  | sg04 => simp [ScenarioResultPayload.validateSg04, unverified]
  | sg05 => simp [ScenarioResultPayload.validateSg05, unverified]
  | sg06 => simp [ScenarioResultPayload.validateSg06, unverified]
  | sg07 => simp [ScenarioResultPayload.validateSg07, unverified]
  | sg08 =>
    have required := control (by simp [scenario])
    simp [ScenarioResultPayload.validateSg08, required, unverified]

/-- A verdict without observations that is not verified is always accepted. -/
theorem makeResult_unobserved {fingerprint : ScenarioResultPayload → Sha256Digest}
    {packing : Packing} {verdict : Verdict} (tiered : verdict.Tiered)
    (unverified : verdict.state.verified = false)
    (grounded : ∀ input ∈ packing.inputReference, input.isGrounded = true →
      packing.scenarioId = .sg01) :
    ∃ r, makeResult fingerprint packing verdict [] = .ok r := by
  have rules : PackingRules packing [] :=
    ⟨grounded, by simp, fun observed => absurd rfl observed, by simp⟩
  rw [makeResult_eq_ok rules tiered fun verified => absurd verified (by simp [unverified])]
  exact validateScenario_of_unverified _ unverified fun _ => .inl rfl

end StateGuard
