import StateGuard.FailureLab.Results

/-!
# Admission and observation

What happens between a closed session and a verdict.  `Admitted` is what an executor checks
of the transcript, `observeCustomers` builds the observations it hands to the reducers, and
`Observes` says what an observation records of its request.  Observations are built on every
admitted transcript unless a status is out of range (`observeCustomers_ok`).

`SealedPacking` is the authority and the input an executor packs a verdict with.
-/

namespace StateGuard

open Checks

/-! ## Building the observations -/

theorem optionalStatusInRange_some (code : Nat) :
    OptionalStatusInRange (some code) ↔ StatusInRange code := by
  simp [OptionalStatusInRange]

/-- A summary fails to build only on a status out of range. -/
theorem summarizeObservations_ok (events : List RuntimeObservationEvent)
    (requestId : RuntimeRequestId) (controlId : NormalControlId) {httpStatusCode : Nat}
    (inRange : StatusInRange httpStatusCode) :
    ∃ summary, summarizeObservations events requestId controlId httpStatusCode = .ok summary := by
  rw [← optionalStatusInRange_some] at inRange
  exact ⟨_, dif_pos inRange⟩

/-- A summary is built of a status in range only. -/
theorem summarizeObservations_inRange {events : List RuntimeObservationEvent}
    {requestId : RuntimeRequestId} {controlId : NormalControlId} {httpStatusCode : Nat}
    {summary : CustomerTargetObservationSummary}
    (built : summarizeObservations events requestId controlId httpStatusCode = .ok summary) :
    StatusInRange httpStatusCode := by
  unfold summarizeObservations at built
  split at built
  next inRange => exact (optionalStatusInRange_some _).mp inRange
  next => cases built

/-- What a built summary records of the transcript. -/
theorem summarizeObservations_eq_ok {events : List RuntimeObservationEvent}
    {requestId : RuntimeRequestId} {controlId : NormalControlId} {httpStatusCode : Nat}
    {summary : CustomerTargetObservationSummary}
    (built : summarizeObservations events requestId controlId httpStatusCode = .ok summary) :
    summary.enteredSequences = controlSequences events requestId controlId .customerValueEntered ∧
      summary.returnedNormallySequences =
        controlSequences events requestId controlId .customerValueReturnedNormally ∧
      summary.exceptionEscapedSequences =
        controlSequences events requestId controlId .customerValueExceptionEscaped ∧
      summary.requestReceivedSequences = sequencesOfKind events requestId .requestReceived := by
  unfold summarizeObservations at built
  split at built
  next =>
    cases built
    exact ⟨rfl, rfl, rfl, rfl⟩
  next => cases built

/-- A valid event with an injected failure gives an observation of it. -/
theorem acknowledgementObservation_ok {event : RuntimeObservationEvent}
    (valid : event.validateTarget = .ok ())
    (injected : event.kind = .acknowledgementFailureInjected)
    (acknowledgementNodeId : GraphNodeId) :
    ∃ observation, acknowledgementObservation acknowledgementNodeId event = .ok observation := by
  simp only [RuntimeObservationEvent.validateTarget, bind_eq_ok, exists_unit, raiseIf_eq_ok,
    not_and, not_not] at valid
  obtain ⟨positive, -, -, -, -, -, -, -, exact, -⟩ := valid
  obtain ⟨-, ⟨code, original, success⟩, -⟩ := exact injected
  have positive : 1 ≤ event.sequence := by omega
  rw [Option.mem_def] at original
  refine ⟨⟨acknowledgementNodeId, code, event.sequence, success, positive⟩, ?_⟩
  simp only [acknowledgementObservation, original, dif_pos success, dif_pos positive]

/-- On a valid transcript the acknowledgement of a request always summarises. -/
theorem summarizeAcknowledgementFailure_ok (transcript : RuntimeObservationTranscript)
    (requestId : RuntimeRequestId) (acknowledgementNodeId : GraphNodeId) :
    ∃ observation, summarizeAcknowledgementFailure transcript.events requestId
      acknowledgementNodeId = .ok observation := by
  unfold summarizeAcknowledgementFailure
  split
  next event single =>
    have selected : event ∈ injectionMatches transcript.events requestId acknowledgementNodeId := by
      simp [single]
    obtain ⟨membership, chosen⟩ := List.mem_filter.mp selected
    rw [decide_eq_true_iff] at chosen
    obtain ⟨observation, built⟩ := acknowledgementObservation_ok
      (transcript.eventsValid event membership) chosen.2.1 acknowledgementNodeId
    exact ⟨some observation, by rw [built]; rfl⟩
  next => exact ⟨none, rfl⟩

/-- The customer-value observation of one dispatched request. -/
def observeCustomer (transcript : RuntimeObservationTranscript) (controlId : NormalControlId)
    (request : RuntimeRequestResult) : Except String ScenarioRequestObservation := do
  let observations ←
    summarizeObservations transcript.events request.requestId controlId request.statusCode
  pure
    { requestId := request.requestId
      observations := observations
      acknowledgementFailure := none }

/-- The initial delivery of the retry scenario, with the acknowledgement failure injected
into it. -/
def observeInjected (transcript : RuntimeObservationTranscript) (controlId : NormalControlId)
    (acknowledgementNodeId : GraphNodeId) (request : RuntimeRequestResult) :
    Except String ScenarioRequestObservation := do
  let acknowledgement ←
    summarizeAcknowledgementFailure transcript.events request.requestId acknowledgementNodeId
  let observation ← observeCustomer transcript controlId request
  pure { observation with acknowledgementFailure := acknowledgement }

/-- The first request of a scenario: the retry scenario injects its failure there. -/
def observeFirst (scenario : ScenarioId) (transcript : RuntimeObservationTranscript)
    (controlId : NormalControlId) (acknowledgementNodeId : GraphNodeId)
    (request : RuntimeRequestResult) : Except String ScenarioRequestObservation :=
  match scenario with
  | .sg03 => observeInjected transcript controlId acknowledgementNodeId request
  | _ => observeCustomer transcript controlId request

/-- The observations an executor hands to its customer-value reducer. -/
def observeCustomers (scenario : ScenarioId) (transcript : RuntimeObservationTranscript)
    (controlId : NormalControlId) (acknowledgementNodeId : GraphNodeId) :
    List RuntimeRequestResult → Except String (List ScenarioRequestObservation)
  | [] => .ok []
  | first :: rest => do
    let initial ← observeFirst scenario transcript controlId acknowledgementNodeId first
    let later ← collect (observeCustomer transcript controlId) rest
    pure (initial :: later)

/-! ## Admission -/

/-- What an executor checks of the requests it dispatched: the first scenario sends one and
asks that the transcript knows no other; every other scenario asks for an exact sequence. -/
def RequestAuthority (scenario : ScenarioId) (transcript : RuntimeObservationTranscript)
    (requests : List RuntimeRequestResult) : Prop :=
  match scenario with
  | .sg01 => ∃ request, requests = [request] ∧ SingleRequestAuthority transcript request
  | _ => SequenceAuthorityIsExact transcript requests

/-- The transcripts an executor hands on to its reducers. -/
structure Admitted (scenario : ScenarioId) (artifact : RuntimeCapabilityArtifact)
    (transcript : RuntimeObservationTranscript) (requests : List RuntimeRequestResult)
    (controlId : NormalControlId) : Prop where
  valid : validateObservationTranscript artifact transcript = .ok ()
  exact : RequestAuthority scenario transcript requests
  /-- No customer-value event of a dispatched request belongs to another control. -/
  sameControl : ¬ CrossControl (eventsOf transcript requests) controlId

/-- The input reference an executor packs for each scenario. -/
def InputMatches (scenario : ScenarioId) (input : ScenarioSafeInputReference)
    (requestCount : Nat) : Prop :=
  match scenario with
  | .sg01 => input.isScenarioInput = true
  | .sg02 | .sg03 | .sg05 | .sg07 => ∃ reference, input = .scenarioInput reference
  | .sg04 => ∃ reference, input = .webhookSequenceInput reference
  | .sg06 => ∃ reference, input = .checkoutSequenceInput reference
  | .sg08 => ∃ reference, input = .lateAuthorisationInput reference ∧
      reference.policy.fulfilment = .captureRequired ∧ reference.eventCount = requestCount

/-- Only the first scenario packs a grounded input. -/
theorem InputMatches.scenario_of_grounded {scenario : ScenarioId}
    {input : ScenarioSafeInputReference} {requestCount : Nat}
    (matching : InputMatches scenario input requestCount) (grounded : input.isGrounded = true) :
    scenario = .sg01 := by
  cases scenario with
  | sg01 => rfl
  | sg02 | sg03 | sg04 | sg05 | sg06 | sg07 =>
    obtain ⟨reference, rfl⟩ := matching
    simp [ScenarioSafeInputReference.isGrounded] at grounded
  | sg08 =>
    obtain ⟨reference, rfl, -⟩ := matching
    simp [ScenarioSafeInputReference.isGrounded] at grounded

/-- The complete authority of a sealed result. -/
structure SealedPacking (scenario : ScenarioId) (packing : Packing)
    (requests : List RuntimeRequestResult) (controlId : NormalControlId) : Prop where
  sameScenario : packing.scenarioId = scenario
  control : packing.authority.normalControlId = some controlId
  requestIds : packing.authority.runtimeRequestIds = requests.map (·.requestId)
  capability : packing.authority.runtimeCapabilityFingerprint.isSome
  session : packing.authority.runtimeSessionId.isSome
  transcript : packing.authority.transcriptFingerprint.isSome
  input : ∃ input, packing.inputReference = some input ∧
    InputMatches scenario input requests.length

/-- What a built observation records. -/
theorem observeCustomer_eq_ok {transcript : RuntimeObservationTranscript}
    {controlId : NormalControlId} {request : RuntimeRequestResult}
    {observation : ScenarioRequestObservation}
    (built : observeCustomer transcript controlId request = .ok observation) :
    observation.requestId = request.requestId ∧ observation.acknowledgementFailure = none ∧
      summarizeObservations transcript.events request.requestId controlId request.statusCode =
        .ok observation.observations := by
  simp only [observeCustomer, bind_eq_ok, pure_eq_ok] at built
  obtain ⟨summary, summarized, rfl⟩ := built
  exact ⟨rfl, rfl, summarized⟩

/-- An observation stands for one request of the transcript. -/
structure Observes (scenario : ScenarioId) (transcript : RuntimeObservationTranscript)
    (controlId : NormalControlId) (request : RuntimeRequestResult)
    (observation : ScenarioRequestObservation) : Prop where
  requestId : observation.requestId = request.requestId
  summarized : summarizeObservations transcript.events request.requestId controlId
    request.statusCode = .ok observation.observations
  injection : scenario ≠ .sg03 → observation.acknowledgementFailure = none

theorem observeCustomers_eq_ok {scenario : ScenarioId}
    {transcript : RuntimeObservationTranscript} {controlId : NormalControlId}
    {acknowledgementNodeId : GraphNodeId} {requests : List RuntimeRequestResult}
    {observations : List ScenarioRequestObservation}
    (built : observeCustomers scenario transcript controlId acknowledgementNodeId requests =
      .ok observations) :
    List.Forall₂ (Observes scenario transcript controlId) requests observations := by
  cases requests with
  | nil =>
    cases built
    exact .nil
  | cons first rest =>
    simp only [observeCustomers, bind_eq_ok, pure_eq_ok] at built
    obtain ⟨initial, builtInitial, later, builtLater, rfl⟩ := built
    refine .cons ?_ ((collect_eq_ok builtLater).imp fun request observation built => ?_)
    · unfold observeFirst at builtInitial
      split at builtInitial
      next =>
        simp only [observeInjected, bind_eq_ok, pure_eq_ok] at builtInitial
        obtain ⟨acknowledgement, -, observation, builtObservation, rfl⟩ := builtInitial
        obtain ⟨requestId, -, summarized⟩ := observeCustomer_eq_ok builtObservation
        exact ⟨requestId, summarized, fun other => absurd rfl other⟩
      next =>
        obtain ⟨requestId, uninjected, summarized⟩ := observeCustomer_eq_ok builtInitial
        exact ⟨requestId, summarized, fun _ => uninjected⟩
    · obtain ⟨requestId, uninjected, summarized⟩ := observeCustomer_eq_ok built
      exact ⟨requestId, summarized, fun _ => uninjected⟩

/-- The observations are built whenever every status is in range. -/
theorem observeCustomers_ok (scenario : ScenarioId) (transcript : RuntimeObservationTranscript)
    (controlId : NormalControlId) (acknowledgementNodeId : GraphNodeId)
    {requests : List RuntimeRequestResult}
    (inRange : ∀ request ∈ requests, StatusInRange request.statusCode) :
    ∃ observations, observeCustomers scenario transcript controlId acknowledgementNodeId requests =
      .ok observations := by
  have each : ∀ request ∈ requests,
      ∃ observation, observeCustomer transcript controlId request = .ok observation := by
    intro request membership
    obtain ⟨summary, summarized⟩ := summarizeObservations_ok transcript.events request.requestId
      controlId (inRange request membership)
    exact ⟨_, by rw [observeCustomer, summarized]; rfl⟩
  cases requests with
  | nil => exact ⟨[], rfl⟩
  | cons first rest =>
    obtain ⟨initial, builtInitial⟩ := each first (by simp)
    obtain ⟨later, builtLater⟩ := collect_ok fun request membership =>
      each request (List.mem_cons_of_mem _ membership)
    obtain ⟨acknowledgement, summarized⟩ :=
      summarizeAcknowledgementFailure_ok transcript first.requestId acknowledgementNodeId
    obtain ⟨opening, builtOpening⟩ : ∃ opening, observeFirst scenario transcript controlId
        acknowledgementNodeId first = .ok opening := by
      unfold observeFirst
      split
      next => exact ⟨_, by simp only [observeInjected, summarized, builtInitial, ok_bind]; rfl⟩
      next => exact ⟨initial, builtInitial⟩
    exact ⟨opening :: later, by simp [observeCustomers, builtOpening, builtLater]⟩

/-- The observations are built exactly when every status is in range. -/
theorem observeCustomers_ok_iff (scenario : ScenarioId) (transcript : RuntimeObservationTranscript)
    (controlId : NormalControlId) (acknowledgementNodeId : GraphNodeId)
    (requests : List RuntimeRequestResult) :
    (∃ observations, observeCustomers scenario transcript controlId acknowledgementNodeId requests =
        .ok observations) ↔ ∀ request ∈ requests, StatusInRange request.statusCode := by
  constructor
  · rintro ⟨observations, built⟩ request membership
    have observes := observeCustomers_eq_ok built
    clear built
    induction observes with
    | nil => cases membership
    | cons head _ ih =>
      rcases List.mem_cons.mp membership with rfl | membership
      · exact summarizeObservations_inRange head.summarized
      · exact ih membership
  · exact observeCustomers_ok scenario transcript controlId acknowledgementNodeId

theorem Observes.requestIds {scenario : ScenarioId} {transcript : RuntimeObservationTranscript}
    {controlId : NormalControlId} {requests : List RuntimeRequestResult}
    {observations : List ScenarioRequestObservation}
    (observes : List.Forall₂ (Observes scenario transcript controlId) requests observations) :
    observations.map (·.requestId) = requests.map (·.requestId) := by
  induction observes with
  | nil => rfl
  | cons head _ ih => rw [List.map_cons, List.map_cons, head.requestId, ih]

theorem Observes.uninjected {scenario : ScenarioId} {transcript : RuntimeObservationTranscript}
    {controlId : NormalControlId} {requests : List RuntimeRequestResult}
    {observations : List ScenarioRequestObservation}
    (observes : List.Forall₂ (Observes scenario transcript controlId) requests observations)
    (other : scenario ≠ .sg03) :
    ∀ observation ∈ observations, observation.acknowledgementFailure = none := by
  induction observes with
  | nil => simp
  | cons head _ ih =>
    intro observation membership
    rcases List.mem_cons.mp membership with rfl | membership
    · exact head.injection other
    · exact ih observation membership

/-- In an exact sequence every observed request was received once. -/
theorem Observes.receivedOnce {scenario : ScenarioId} {transcript : RuntimeObservationTranscript}
    {controlId : NormalControlId} {requests : List RuntimeRequestResult}
    (exact : SequenceAuthorityIsExact transcript requests) {request : RuntimeRequestResult}
    (dispatched : request ∈ requests) {observation : ScenarioRequestObservation}
    (observes : Observes scenario transcript controlId request observation) :
    observation.observations.ReceivedOnce := by
  obtain ⟨-, -, -, received⟩ := summarizeObservations_eq_ok observes.summarized
  rw [CustomerTargetObservationSummary.ReceivedOnce, received]
  exact length_received_of_exact exact (List.mem_map_of_mem dispatched)

/-! ## A duplicate delivery -/

/-- One ingress that is addressed and correlated. -/
def sampleBinding : IngressRuntimeBinding :=
  { ingressNodeId := "ingress"
    routeRegistrationId := "route"
    method := "POST"
    effectivePath := "/webhook"
    checkoutRequestBinding := none }

/-- An assignment of the sample ingress that is observed completely. -/
def sampleMutation (nodeId : GraphNodeId) : MutationRuntimeCapability :=
  { target := { ingress := sampleBinding, mutationNodeId := nodeId }
    assignment := .complete
    strength := some .pythonAssignmentInstructionCompletion
    strengthMatches := by decide }

/-- A managed session with one control and three assignments. -/
def sampleArtifact : RuntimeCapabilityArtifact :=
  { runtimeConfigFingerprint := "config"
    assessmentSessionId := "session"
    mode := .managed
    lifecycle := .ready
    ingresses :=
      [{ binding := sampleBinding, addressability := .complete, requestCorrelation := .complete }]
    customerValues :=
      [{ target :=
          { ingress := sampleBinding
            normalControlId := "control"
            customerValueNodeId := "value"
            customerValueSymbolId := "fulfil" }
         lifecycle := .complete
         strength := some .entryAndTerminal
         strengthMatches := by decide }]
    mutations := ["captured", "authorized", "earlier"].map sampleMutation
    acknowledgements := []
    isolation := { freshProcess := .complete, observationReset := .complete }
    diagnostics := []
    capabilityFingerprint := "capability"
    ingressesUnique := by decide
    exactBindings := by decide
    controlsUnique := by decide
    mutationsUnique := by decide
    acknowledgementsUnique := by decide }

/-- An event of one sample request that carries no target. -/
def sampleEvent (sequence : Nat) (requestId : RuntimeRequestId) (kind : RuntimeObservationKind)
    (statusCode : Option Nat) : RuntimeObservationEvent :=
  { sessionId := "session"
    requestId := requestId
    sequence := sequence
    kind := kind
    ingressNodeId := "ingress"
    routeRegistrationId := "route"
    statusCode := statusCode }

/-- An event of the sample control. -/
def sampleControlEvent (sequence : Nat) (requestId : RuntimeRequestId)
    (kind : RuntimeObservationKind) : RuntimeObservationEvent :=
  { sampleEvent sequence requestId kind none with
    normalControlId := some "control"
    customerValueNodeId := some "value"
    customerValueSymbolId := some "fulfil" }

/-- The first delivery enters the control and the second one does not. -/
def sampleDuplicate : RuntimeObservationTranscript :=
  { sessionId := "session"
    capabilityFingerprint := "capability"
    complete := true
    events :=
      [sampleEvent 1 "first" .requestReceived none,
        sampleControlEvent 2 "first" .customerValueEntered,
        sampleControlEvent 3 "first" .customerValueReturnedNormally,
        sampleEvent 4 "first" .responseCompleted (some 200),
        sampleEvent 5 "second" .requestReceived none,
        sampleEvent 6 "second" .responseCompleted (some 200)]
    diagnostics := []
    transcriptFingerprint := "transcript"
    eventsValid := by decide
    oneSession := by decide
    contiguous := by decide }

/-- The two dispatched requests of the sample sequences. -/
def sampleRequests : List RuntimeRequestResult :=
  [{ requestId := "first", binding := sampleBinding, statusCode := 200 },
    { requestId := "second", binding := sampleBinding, statusCode := 200 }]

theorem sampleDuplicate_admitted :
    Admitted .sg02 sampleArtifact sampleDuplicate sampleRequests "control" where
  valid := by decide
  exact := by
    show SequenceAuthorityIsExact sampleDuplicate sampleRequests
    decide
  sameControl := by decide

theorem statusInRange_ok : OptionalStatusInRange (some 200) := by decide

/-- The observations of the duplicate delivery. -/
def sampleObservations : List ScenarioRequestObservation :=
  [{ requestId := "first"
     observations :=
      { enteredSequences := [2]
        returnedNormallySequences := [3]
        exceptionEscapedSequences := []
        requestReceivedSequences := [1]
        responseCompletedSequences := [4]
        requestAbortedSequences := []
        httpStatusCode := some 200
        statusInRange := statusInRange_ok }
     acknowledgementFailure := none },
    { requestId := "second"
      observations :=
      { enteredSequences := []
        returnedNormallySequences := []
        exceptionEscapedSequences := []
        requestReceivedSequences := [5]
        responseCompletedSequences := [6]
        requestAbortedSequences := []
        httpStatusCode := some 200
        statusInRange := statusInRange_ok }
      acknowledgementFailure := none }]

/-- The complete authority of the sample sequences. -/
def sampleAuthority : ScenarioAuthorityReference :=
  { applicabilityFingerprint := "applicability"
    scenarioInstanceId := "instance"
    normalControlId := some "control"
    runtimeCapabilityFingerprint := some "capability"
    runtimeSessionId := some "session"
    runtimeRequestIds := ["first", "second"]
    transcriptFingerprint := some "transcript"
    requestsNeedSession := by decide
    requestsUnique := by decide
    transcriptNeedsAuthority := by decide }

/-- The packing of the duplicate delivery. -/
def samplePacking : Packing :=
  { executionId := "execution"
    scenarioId := .sg02
    scenarioDefinitionFingerprint := "definition"
    assertionId := "assertion"
    authority := sampleAuthority
    inputReference := some (.scenarioInput
      { fixtureFingerprint := "fixture"
        rawBodyFingerprint := "body"
        syntheticEventId := "event"
        path := "/webhook" })
    runtimeDiagnostics := [] }

theorem samplePacking_sealed : SealedPacking .sg02 samplePacking sampleRequests "control" where
  sameScenario := rfl
  control := rfl
  requestIds := rfl
  capability := rfl
  session := rfl
  transcript := rfl
  input := ⟨_, rfl, _, rfl⟩

end StateGuard
