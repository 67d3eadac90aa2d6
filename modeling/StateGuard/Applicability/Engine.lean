import StateGuard.Library.Dict
import StateGuard.Applicability.Policy

/-!
# The applicability engine

From a projected graph, its controls and the merchant policy to the eight scenarios of the
catalog.  Each scenario is a list of instances, one for each control or ingress it applies
to; a scenario that finds none has the one instance `catalogInstance`, whose state
`fallbackState` decides.  `evaluateApplicability` assembles the artifact and runs its
validator.

The tests of one scenario stay in the order of the source.  Where the source looks a node up
by its identity the graph is asked; the controls of a graph name nodes it has
(`ControlOf.node?`).
-/

namespace StateGuard

open Checks KeyOrder

/-- A state with its reasons. -/
abbrev Assessed := ApplicabilityState × List ApplicabilityReason

/-- `_reason` of a state. -/
def assessed (state : ApplicabilityState) (code : ApplicabilityReasonCode)
    (evidence : List EvidenceReference) : Assessed :=
  (state, [{ code := code, evidence := evidence }])

def nodeEvidence (nodeId : GraphNodeId) : EvidenceReference := ⟨.graphNode, nodeId⟩

def edgeEvidence (edgeId : GraphEdgeId) : EvidenceReference := ⟨.graphEdge, edgeId⟩

def controlEvidence (control : NormalControlInstance) : EvidenceReference :=
  ⟨.normalControl, control.controlId⟩

/-! ## Assertions and instances -/

/-- `_assertion`. -/
def assertionOf (hashing : Hashing) (instanceId : ScenarioInstanceId) (key : AssertionKey)
    (role : AssertionRole) (item : Assessed) (control : Option NormalControlInstance) :
    AssertionApplicability :=
  { assertionId := hashing.assertionId instanceId key
    key := key
    role := role
    state := item.1
    reasons := item.2
    normalControlId := control.map (·.controlId) }

/-- `_instance`. -/
def instanceOf (hashing : Hashing) (scenario : ScenarioId) (discriminator : String)
    (ingress : Option GraphNode) (control : Option NormalControlInstance)
    (assertions : List AssertionApplicability) (hasCore : HasCore assertions) :
    ScenarioInstance :=
  { instanceId := hashing.scenarioInstanceId scenario discriminator
    ingressNodeId := ingress.map (·.nodeId)
    normalControlId := control.map (·.controlId)
    routeRegistrationId := control.map (·.routeRegistrationId)
    customerValueNodeId := control.map (·.customerValueNodeId)
    customerValueSymbolId := control.map (·.customerValueSymbolId)
    assertions := assertions
    hasCore := hasCore }

/-- The instance of a control with one core assertion. -/
def controlInstance (hashing : Hashing) (graph : PaymentSafetyGraphArtifact)
    (scenario : ScenarioId) (key : AssertionKey) (control : NormalControlInstance)
    (item : Assessed) : ScenarioInstance :=
  instanceOf hashing scenario control.controlId (graph.node? control.ingressNodeId)
    (some control)
    [assertionOf hashing (hashing.scenarioInstanceId scenario control.controlId) key .core item
      (some control)]
    ⟨_, List.mem_singleton_self _, rfl⟩

/-- The instance a scenario has when nothing in the project calls for it. -/
def catalogInstance (hashing : Hashing) (scenario : ScenarioId) (key : AssertionKey)
    (item : Assessed) : ScenarioInstance :=
  instanceOf hashing scenario "catalog" none none
    [assertionOf hashing (hashing.scenarioInstanceId scenario "catalog") key .core item none]
    ⟨_, List.mem_singleton_self _, rfl⟩

/-- The instances of a scenario, or the catalog one in their place. -/
def orCatalog (instances : List ScenarioInstance) (catalog : ScenarioInstance) :
    List ScenarioInstance :=
  match instances with
  | [] => [catalog]
  | _ => instances

theorem orCatalog_ne_nil (instances : List ScenarioInstance) (catalog : ScenarioInstance) :
    orCatalog instances catalog ≠ [] := by
  cases instances with
  | nil => simp [orCatalog]
  | cons head rest => simp [orCatalog]

theorem mem_orCatalog {instances : List ScenarioInstance} {catalog item : ScenarioInstance} :
    item ∈ orCatalog instances catalog ↔ item ∈ instances ∨ instances = [] ∧ item = catalog := by
  cases instances with
  | nil => simp [orCatalog]
  | cons head rest => simp [orCatalog]

/-! ## Ingresses -/

/-- The ingresses of a kind, in graph order. -/
def ingressesOf (graph : PaymentSafetyGraphArtifact) (kind : PaymentIngressKind) :
    List GraphNode :=
  graph.nodes.filter fun node => node.ingress?.map (·.ingressKind) = some kind

/-- Every ingress, in graph order. -/
def ingresses (graph : PaymentSafetyGraphArtifact) : List GraphNode :=
  graph.nodes.filter (·.ingress?.isSome)

/-- `_fallback_state`. -/
def fallbackState (graph : PaymentSafetyGraphArtifact)
    (resolution : Option CustomerValueResolution) (available : List GraphNode) : Assessed :=
  if available = [] then
    if graph.completeness = .partialGraph then
      assessed .indeterminate .graphCoverageInsufficient []
    else
      assessed .notApplicable .ingressAbsent []
  else if resolution.map (·.state) ≠ some .unique then
    assessed .needsInput .customerValueUnresolved []
  else if graph.completeness = .partialGraph then
    assessed .indeterminate .graphCoverageInsufficient []
  else
    assessed .notApplicable .customerValuePathAbsent []

/-! ## Control evidence -/

/-- `_policy_state`. -/
def policyState (policy : MerchantPolicyAssessment) (control : NormalControlInstance) :
    Assessed :=
  if policy.fulfilment.confirmedPolicy = none then
    assessed .needsInput .fulfilmentPolicyRequired []
  else if policy.fulfilment.evidenceCurrent ≠ some true then
    assessed .needsInput .fulfilmentPolicyStale []
  else
    assessed .applicable .exactControlAvailable [controlEvidence control]

/-- `_control_state_edges`. -/
def controlStateEdges (graph : PaymentSafetyGraphArtifact) (control : NormalControlInstance) :
    List GraphEdge :=
  graph.edges.filter fun edge =>
    edge.targetNodeId = control.customerValueNodeId ∧
      MatchedBranchOf graph [control.routeRegistrationId] edge

/-- The states of an edge's arm, without the event family. -/
def branchStates (edge : GraphEdge) : List String :=
  ((edge.branch.map (·.states)).getD []).map paymentState

/-- The branches of a control that admit a captured payment. -/
def capturedControlEdges (graph : PaymentSafetyGraphArtifact) (control : NormalControlInstance) :
    List GraphEdge :=
  (controlStateEdges graph control).filter fun edge => "captured" ∈ branchStates edge

/-- The node is an ingress a captured webhook can be posted to. -/
def PostsWebhooks (node : GraphNode) : Prop :=
  ∃ details ∈ node.ingress?.toList,
    details.ingressKind = .webhook ∧ details.registration.method = "POST"

instance (node : GraphNode) : Decidable (PostsWebhooks node) :=
  inferInstanceAs (Decidable (∃ _ ∈ _, _ ∧ _))

/-- `_captured_webhook_control_evidence`. -/
def capturedWebhookControlEvidence (graph : PaymentSafetyGraphArtifact)
    (control : NormalControlInstance) : Option (List EvidenceReference) :=
  match graph.node? control.ingressNodeId with
  | none => none
  | some ingress =>
    if ¬ PostsWebhooks ingress ∨ relevantDiagnostics graph [control] ≠ [] then
      none
    else if capturedControlEdges graph control = [] then
      none
    else
      some (controlEvidence control :: (capturedControlEdges graph control).flatMap fun edge =>
        [nodeEvidence edge.sourceNodeId, edgeEvidence edge.edgeId])

/-- `_route_payment_states`. -/
def routePaymentStates (graph : PaymentSafetyGraphArtifact) (control : NormalControlInstance) :
    List String :=
  (graph.nodes.filterMap (·.stateGate?)).flatMap fun details =>
    if details.routeRegistrationId = control.routeRegistrationId then
      details.states.map paymentState
    else []

/-- `_normal_capture_state`. -/
def normalCaptureState (graph : PaymentSafetyGraphArtifact) (policy : MerchantPolicyAssessment)
    (control : NormalControlInstance) : Assessed :=
  let item := policyState policy control
  if item.1 ≠ .applicable then
    item
  else if policy.fulfilment.confirmedPolicy ≠ some .captureRequired then
    assessed .indeterminate .normalCaptureThresholdUnproven []
  else
    match capturedWebhookControlEvidence graph control with
    | none => assessed .indeterminate .normalCaptureThresholdUnproven []
    | some evidence => assessed .applicable .normalCaptureThresholdAvailable evidence

/-- `_duplicate_capture_state`. -/
def duplicateCaptureState (graph : PaymentSafetyGraphArtifact)
    (policy : MerchantPolicyAssessment) (control : NormalControlInstance) : Assessed :=
  let item := policyState policy control
  if item.1 ≠ .applicable then
    item
  else
    match capturedWebhookControlEvidence graph control with
    | none => assessed .indeterminate .capturedEventTargetUnproven []
    | some evidence => assessed .applicable .capturedEventTargetAvailable evidence

/-! ## Mutations -/

/-- The assignment that a matched branch of a control's route stands for: its carrier, the
state it assigns under a branch of that very state, and the mutation. -/
def regressionAssignment (graph : PaymentSafetyGraphArtifact) (control : NormalControlInstance)
    (edge : GraphEdge) : Option (MerchantStateCarrierId × AssignedPaymentState × GraphNode) := do
  let states ← edge.matchedStates?
  let gate ← graph.node? edge.sourceNodeId
  let gateDetails ← gate.stateGate?
  let mutation ← graph.node? edge.targetNodeId
  let details ← mutation.mutation?
  let assigned ← details.assignedPaymentState
  if details.routeRegistrationId = control.routeRegistrationId ∧
      gateDetails.routeRegistrationId = control.routeRegistrationId ∧
      assigned.value ∈ states.map paymentState then
    some (details.carrierReference, assigned, mutation)
  else none

/-- The mutations of each carrier by the state they assign.  A later assignment of the same
state to the same carrier replaces an earlier one. -/
def mutationsByCarrier (graph : PaymentSafetyGraphArtifact) (control : NormalControlInstance) :
    Dict MerchantStateCarrierId (Dict AssignedPaymentState GraphNode) :=
  Dict.group (graph.edges.filterMap (regressionAssignment graph control))

/-- Both states are assigned to the carrier. -/
def AssignsBoth (values : Dict AssignedPaymentState GraphNode) : Prop :=
  .authorized ∈ values.keys ∧ .captured ∈ values.keys

instance (values : Dict AssignedPaymentState GraphNode) : Decidable (AssignsBoth values) :=
  inferInstanceAs (Decidable (_ ∧ _))

/-- `_regression_mutations_for_control`. -/
def regressionMutationsForControl (hashing : Hashing) (graph : PaymentSafetyGraphArtifact)
    (control : NormalControlInstance) : List GraphNode :=
  let complete := (mutationsByCarrier graph control).values.filter (AssignsBoth ·)
  let selected : Dict GraphNodeId GraphNode :=
    Dict.ofList (complete.flatMap fun values => values.values.map fun node => (node.nodeId, node))
  sortedByKey hashing.nodeJson selected.values

/-- The mutations of a route. -/
def routeMutations (graph : PaymentSafetyGraphArtifact) (routeId : Option RouteRegistrationId) :
    List GraphNode :=
  graph.nodes.filter fun node => ∃ details ∈ node.mutation?.toList,
    some details.routeRegistrationId = routeId

/-- The trust gates of a checkout callback. -/
def checkoutTrustIds (graph : PaymentSafetyGraphArtifact) (routeId : RouteRegistrationId) :
    List GraphNodeId :=
  (graph.nodes.filter fun node => ∃ details ∈ node.trustGate?.toList,
    details.routeRegistrationId = routeId ∧
      details.trustKind ∈ [TrustGateKind.checkoutSignatureVerification,
        .serverOrderIdentityBinding]).map (·.nodeId)

/-- `_checkout_protected_mutations`. -/
def checkoutProtectedMutations (hashing : Hashing) (graph : PaymentSafetyGraphArtifact)
    (ingress : GraphNode) : List GraphNode :=
  match ingress.ingress? with
  | none => []
  | some details =>
    let routeId := details.registration.routeRegistrationId
    let guarded := (graph.edges.filter fun edge =>
      edge.kind = .guards ∧ edge.sourceNodeId ∈ checkoutTrustIds graph routeId).map (·.targetNodeId)
    sortedByKey hashing.nodeJson (graph.nodes.filter fun node =>
      ∃ mutation ∈ node.mutation?.toList, mutation.routeRegistrationId = routeId ∧
        (node.nodeId ∈ guarded ∨ mutation.assignedPaymentState ≠ none))

/-- The gates a captured payment passes on the way of the valid control, or on the whole
route where no control is known. -/
def capturedGateIds (graph : PaymentSafetyGraphArtifact) (routeId : RouteRegistrationId)
    (control : Option NormalControlInstance) : List GraphNodeId :=
  match control with
  | some control => (capturedControlEdges graph control).map (·.sourceNodeId)
  | none => (graph.nodes.filter fun node => ∃ details ∈ node.stateGate?.toList,
      details.routeRegistrationId = routeId ∧
        "captured" ∈ details.states.map paymentState).map (·.nodeId)

/-- `_captured_path_mutations`. -/
def capturedPathMutations (hashing : Hashing) (graph : PaymentSafetyGraphArtifact)
    (ingress : GraphNode) (control : Option NormalControlInstance) : List GraphNode :=
  match ingress.ingress? with
  | none => []
  | some details =>
    if ¬ PostsWebhooks ingress then
      []
    else
      let routeId := details.registration.routeRegistrationId
      let gateIds := capturedGateIds graph routeId control
      let mutationIds := (graph.edges.filter fun edge =>
        edge.matchedStates?.isSome ∧ edge.sourceNodeId ∈ gateIds ∧
          "captured" ∈ branchStates edge ∧
          ∃ mutation ∈ (graph.node? edge.targetNodeId).toList,
            ∃ details ∈ mutation.mutation?.toList,
              details.routeRegistrationId = routeId).map (·.targetNodeId)
      sortedByKey hashing.nodeJson (mutationIds.dedup.filterMap graph.node?)

/-! ## The catalog -/

section Catalog

variable (hashing : Hashing) (graph : PaymentSafetyGraphArtifact)
  (resolution : Option CustomerValueResolution) (controls : List NormalControlInstance)
  (policy : MerchantPolicyAssessment)

/-- The instances of a scenario with one core assertion for each webhook control, and the
catalog instance of its fallback state where there is none. -/
def webhookInstances (scenario : ScenarioId) (key : AssertionKey) (available : List GraphNode)
    (state : NormalControlInstance → Assessed) : List ScenarioInstance :=
  orCatalog
    ((webhookControls controls).map fun control =>
      controlInstance hashing graph scenario key control (state control))
    (catalogInstance hashing scenario key (fallbackState graph resolution available))

/-- The first scenario proves the captured-webhook path. -/
def sg01Instances : List ScenarioInstance :=
  webhookInstances hashing graph resolution controls .sg01 .sg01 (ingresses graph)
    (normalCaptureState graph policy)

def sg02Instances : List ScenarioInstance :=
  webhookInstances hashing graph resolution controls .sg02 .sg02 (ingressesOf graph .webhook)
    (duplicateCaptureState graph policy)

/-- The successful acknowledgements that follow the customer value on the control's route. -/
def acknowledgementEdges (control : NormalControlInstance) : List GraphEdge :=
  graph.edges.filter fun edge =>
    edge.kind = .acknowledgesAfter ∧ edge.targetNodeId = control.customerValueNodeId ∧
      ∃ acknowledgement ∈ (graph.node? edge.sourceNodeId).toList,
        acknowledgement.routeId? = some control.routeRegistrationId ∧
          ∃ details ∈ acknowledgement.acknowledgement?.toList,
            details.outcome = .success2xx ∧ details.statusCode.isSome = true

/-- The retry scenario needs one acknowledgement that follows the value. -/
def retryState (control : NormalControlInstance) : Assessed :=
  let item := duplicateCaptureState graph policy control
  if item.1 ≠ .applicable then
    item
  else
    match acknowledgementEdges graph control with
    | [edge] => assessed .applicable .valueBeforeAckProven
        (item.2.flatMap (·.evidence) ++ [nodeEvidence edge.sourceNodeId, edgeEvidence edge.edgeId])
    | _ => assessed .indeterminate .ackOrderUnresolved []

def sg03Instances : List ScenarioInstance :=
  webhookInstances hashing graph resolution controls .sg03 .sg03 (ingressesOf graph .webhook)
    (retryState graph policy)

/-- The optional assertion of the out-of-order scenario. -/
def regressionState (control : NormalControlInstance) : Assessed :=
  let mutations := regressionMutationsForControl hashing graph control
  let relevant := relevantDiagnostics graph [control]
  let state :=
    if mutations ≠ [] ∧ relevant = [] then ApplicabilityState.applicable
    else if relevant ≠ [] then .indeterminate
    else .notApplicable
  let code :=
    if mutations ≠ [] then ApplicabilityReasonCode.stateRegressionTargetAvailable
    else if state = .indeterminate then .stateRegressionTargetUnresolved
    else .stateRegressionTargetAbsent
  assessed state code (mutations.map fun node => nodeEvidence node.nodeId)

/-- The out-of-order instance of a control. -/
def sg04Instance (control : NormalControlInstance) : ScenarioInstance :=
  let instanceId := hashing.scenarioInstanceId .sg04 control.controlId
  instanceOf hashing .sg04 control.controlId (graph.node? control.ingressNodeId) (some control)
    [assertionOf hashing instanceId .sg04CustomerValue .core
        (duplicateCaptureState graph policy control) (some control),
      assertionOf hashing instanceId .sg04StateRegression .optional
        (regressionState hashing graph control) (some control)]
    ⟨_, List.mem_cons_self, rfl⟩

def sg04Instances : List ScenarioInstance :=
  orCatalog ((webhookControls controls).map (sg04Instance hashing graph policy))
    (catalogInstance hashing .sg04 .sg04CustomerValue
      (fallbackState graph resolution (ingressesOf graph .webhook)))

/-- The customer-value assertion of a forged webhook. -/
def forgedValueState (control : NormalControlInstance) : Assessed :=
  match capturedWebhookControlEvidence graph control with
  | none => assessed .indeterminate .capturedEventTargetUnproven []
  | some evidence => assessed .applicable .capturedEventTargetAvailable evidence

/-- The customer-value assertion of a tampered callback. -/
def tamperedValueState (ingress : GraphNode) (control : NormalControlInstance) : Assessed :=
  if ingress.ingress?.bind (·.checkoutRequestBinding) = none then
    assessed .indeterminate .checkoutRequestBindingUnresolved []
  else
    assessed .applicable .checkoutRequestBindingAvailable [controlEvidence control]

/-- The mutation assertion of an ingress, from the mutations a rejected request must not
complete and from whether the checkout request is understood. -/
def trustMutationState (ingress : GraphNode) (unbound : Prop) [Decidable unbound]
    (mutations : List GraphNode) : Assessed :=
  let state :=
    if unbound then ApplicabilityState.indeterminate
    else if mutations ≠ [] then .applicable
    else if graph.completeness = .partialGraph ∨ routeMutations graph ingress.routeId? ≠ [] then
      .indeterminate
    else .notApplicable
  let code :=
    if unbound then ApplicabilityReasonCode.checkoutRequestBindingUnresolved
    else if mutations ≠ [] then .mutationTargetAvailable
    else .mutationTargetAbsent
  assessed state code
    ((sortedByKey hashing.nodeJson mutations).map fun node => nodeEvidence node.nodeId)

/-- The instance of one ingress and one of its controls, or none. -/
def trustInstance (scenario : ScenarioId) (mutationKey valueKey : AssertionKey)
    (ingress : GraphNode) (control : Option NormalControlInstance)
    (mutationState valueState : Assessed) : ScenarioInstance :=
  let discriminator := (control.map (·.controlId)).getD ingress.nodeId
  let instanceId := hashing.scenarioInstanceId scenario discriminator
  instanceOf hashing scenario discriminator (some ingress) control
    [assertionOf hashing instanceId mutationKey .core mutationState none,
      assertionOf hashing instanceId valueKey .core valueState control]
    ⟨_, List.mem_cons_self, rfl⟩

/-- The controls of an ingress, or none. -/
def controlsOfIngress (ingress : GraphNode) : List (Option NormalControlInstance) :=
  match controls.filter (·.ingressNodeId = ingress.nodeId) with
  | [] => [none]
  | matched => matched.map some

/-- The forged-signature instance of a webhook ingress. -/
def sg05Instance (ingress : GraphNode) (control : Option NormalControlInstance) :
    ScenarioInstance :=
  trustInstance hashing .sg05 .sg05Mutation .sg05CustomerValue ingress control
    (trustMutationState hashing graph ingress False
      (capturedPathMutations hashing graph ingress control))
    (match control with
      | some control => forgedValueState graph control
      | none => fallbackState graph resolution [ingress])

/-- The tampered-callback instance of a checkout ingress. -/
def sg06Instance (ingress : GraphNode) (control : Option NormalControlInstance) :
    ScenarioInstance :=
  trustInstance hashing .sg06 .sg06Mutation .sg06CustomerValue ingress control
    (trustMutationState hashing graph ingress
      (ingress.ingress?.bind (·.checkoutRequestBinding) = none)
      (checkoutProtectedMutations hashing graph ingress))
    (match control with
      | some control => tamperedValueState ingress control
      | none => fallbackState graph resolution [ingress])

def sg05Instances : List ScenarioInstance :=
  orCatalog
    ((ingressesOf graph .webhook).flatMap fun ingress =>
      (controlsOfIngress controls ingress).map (sg05Instance hashing graph resolution ingress))
    (catalogInstance hashing .sg05 .sg05CustomerValue
      (fallbackState graph resolution (ingressesOf graph .webhook)))

def sg06Instances : List ScenarioInstance :=
  orCatalog
    ((ingressesOf graph .checkoutCallback).flatMap fun ingress =>
      (controlsOfIngress controls ingress).map (sg06Instance hashing graph resolution ingress))
    (catalogInstance hashing .sg06 .sg06CustomerValue
      (fallbackState graph resolution (ingressesOf graph .checkoutCallback)))

/-- The checkout controls that reach the same customer value. -/
def linkedCheckoutControls (control : NormalControlInstance) : List NormalControlInstance :=
  controls.filter fun item =>
    item.ingressKind = .checkoutCallback ∧
      item.customerValueNodeId = control.customerValueNodeId ∧
      item.customerValueSymbolId = control.customerValueSymbolId

/-- The webhook-only scenario needs a checkout control of the same customer value. -/
def webhookOnlyState (control : NormalControlInstance) : Assessed :=
  let item := duplicateCaptureState graph policy control
  let linked := linkedCheckoutControls controls control
  if item.1 ≠ .applicable then
    item
  else if linked = [] then
    assessed .indeterminate .checkoutTargetLinkUnresolved []
  else
    assessed .applicable .checkoutTargetLinkAvailable
      (linked.map controlEvidence ++ (item.2.head?.map (·.evidence)).getD [])

def sg07Instances : List ScenarioInstance :=
  let checkout := ingressesOf graph .checkoutCallback
  orCatalog
    (if checkout = [] then [] else
      (webhookControls controls).map fun control =>
        controlInstance hashing graph .sg07 .sg07CustomerValue control
          (webhookOnlyState graph controls policy control))
    (catalogInstance hashing .sg07 .sg07CustomerValue
      (if checkout ≠ [] ∧ webhookControls controls = [] then
        fallbackState graph resolution (ingressesOf graph .webhook)
      else
        assessed .notApplicable .checkoutSurfaceRequired []))

/-- The route of a control has payment states and does not handle a late authorisation. -/
def LateSequenceUnsupported (control : NormalControlInstance) : Prop :=
  "authorized" ∉ routePaymentStates graph control ∧ routePaymentStates graph control ≠ []

instance (control : NormalControlInstance) : Decidable (LateSequenceUnsupported graph control) :=
  inferInstanceAs (Decidable (_ ∧ _))

/-- The assertions of the late authorisation of a control: at least one. -/
def lateAssertions (control : NormalControlInstance) :
    (AssertionKey × Assessed) × List (AssertionKey × Assessed) :=
  if policy.fulfilment.confirmedPolicy = none then
    ((.sg08LatePolicy, assessed .needsInput .fulfilmentPolicyRequired []), [])
  else if policy.fulfilment.evidenceCurrent ≠ some true then
    ((.sg08LatePolicy, assessed .needsInput .fulfilmentPolicyStale []), [])
  else if policy.lateAuthorisation.confirmedPolicy = none then
    ((.sg08LatePolicy, assessed .needsInput .lateAuthorisationPolicyRequired []), [])
  else if policy.lateAuthorisation.evidenceCurrent ≠ some true then
    ((.sg08LatePolicy, assessed .needsInput .lateAuthorisationPolicyStale []), [])
  else if routePaymentStates graph control = [] ∨ relevantDiagnostics graph [control] ≠ [] then
    ((.sg08LatePolicy,
      assessed .indeterminate .lateSequenceUnresolved [controlEvidence control]), [])
  else if policy.fulfilment.confirmedPolicy = some .captureRequired then
    ((.sg08Precapture, assessed .applicable .policyMatrixSelected []),
      if policy.lateAuthorisation.confirmedPolicy = some .fulfilLater then
        [(.sg08Capture,
          match capturedWebhookControlEvidence graph control with
          | some evidence => assessed .applicable .policyMatrixSelected evidence
          | none => assessed .indeterminate .capturedEventTargetUnproven [])]
      else [])
  else
    ((.sg08LatePolicy, assessed .indeterminate .merchantLateContextUnproven []), [])

/-- The late-authorisation instance of a control. -/
def sg08Instance (control : NormalControlInstance) : ScenarioInstance :=
  let instanceId := hashing.scenarioInstanceId .sg08 control.controlId
  let assertions := lateAssertions graph policy control
  let build := fun item : AssertionKey × Assessed =>
    assertionOf hashing instanceId item.1 .core item.2 (some control)
  instanceOf hashing .sg08 control.controlId (graph.node? control.ingressNodeId) (some control)
    (build assertions.1 :: assertions.2.map build) ⟨_, List.mem_cons_self, rfl⟩

def sg08Instances : List ScenarioInstance :=
  let webhooks := webhookControls controls
  orCatalog
    ((webhooks.filter (¬ LateSequenceUnsupported graph ·)).map (sg08Instance hashing graph policy))
    (catalogInstance hashing .sg08 .sg08LatePolicy
      (if ∃ control ∈ webhooks, LateSequenceUnsupported graph control then
        assessed .notApplicable .lateSequenceNotSupported []
      else
        fallbackState graph resolution (ingressesOf graph .webhook)))

/-- The instances of each scenario of the catalog. -/
def instancesOf : ScenarioId → List ScenarioInstance
  | .sg01 => sg01Instances hashing graph resolution controls policy
  | .sg02 => sg02Instances hashing graph resolution controls policy
  | .sg03 => sg03Instances hashing graph resolution controls policy
  | .sg04 => sg04Instances hashing graph resolution controls policy
  | .sg05 => sg05Instances hashing graph resolution controls
  | .sg06 => sg06Instances hashing graph resolution controls
  | .sg07 => sg07Instances hashing graph resolution controls policy
  | .sg08 => sg08Instances hashing graph resolution controls policy

theorem instancesOf_ne_nil (scenario : ScenarioId) :
    instancesOf hashing graph resolution controls policy scenario ≠ [] := by
  cases scenario <;> exact orCatalog_ne_nil _ _

/-- `_scenario`: the record of one scenario, which refuses an instance identity that occurs
twice. -/
def scenarioOf (scenario : ScenarioId) : Except String ScenarioApplicability :=
  if instancesUnique : ((instancesOf hashing graph resolution controls policy scenario).map
      (·.instanceId)).Nodup then
    .ok
      { scenarioId := scenario
        instances := instancesOf hashing graph resolution controls policy scenario
        nonempty := instancesOf_ne_nil hashing graph resolution controls policy scenario
        instancesUnique := instancesUnique }
  else .error "scenario instance IDs must be unique"

theorem scenarioOf_eq_ok {scenario : ScenarioId} {built : ScenarioApplicability}
    (isBuilt : scenarioOf hashing graph resolution controls policy scenario = .ok built) :
    built.scenarioId = scenario ∧
      built.instances = instancesOf hashing graph resolution controls policy scenario := by
  unfold scenarioOf at isBuilt
  split at isBuilt
  next =>
    cases isBuilt
    exact ⟨rfl, rfl⟩
  next => cases isBuilt

/-- `_catalog_scenarios`. -/
def catalogScenarios : Except String (List ScenarioApplicability) :=
  collect (scenarioOf hashing graph resolution controls policy) ScenarioId.all

end Catalog

/-! ## The artifact -/

/-- The source index an analysis rests on. -/
structure SourceAuthority where
  projectId : ProjectId
  projectSourceFingerprint : Sha256Digest
  sourceIndexFingerprint : Sha256Digest
  structuralGraphFingerprint : Sha256Digest
  deriving DecidableEq, Repr

/-- `evaluate_applicability`. -/
def evaluateApplicability (hashing : Hashing) (config : Option MerchantPolicyConfig)
    (source : SourceAuthority) (graph : PaymentSafetyGraphArtifact)
    (resolution : Option CustomerValueResolution) (resolutionFingerprint : Option Sha256Digest) :
    Except String ScenarioApplicabilityArtifact := do
  let controls := normalControls hashing graph resolution resolutionFingerprint
  let policy := policyAssessment hashing config graph controls
  let scenarios ← catalogScenarios hashing graph resolution controls policy
  let payload : ScenarioApplicabilityPayload :=
    { projectId := source.projectId
      projectSourceFingerprint := source.projectSourceFingerprint
      sourceIndexFingerprint := source.sourceIndexFingerprint
      structuralGraphFingerprint := source.structuralGraphFingerprint
      projectedGraphFingerprint := graph.graphFingerprint
      semanticResolutionFingerprint := resolutionFingerprint
      policy := policy
      normalControls := controls
      scenarios := scenarios }
  payload.validateArtifact
  pure { payload with applicabilityFingerprint := hashing.applicability payload }

/-- What an evaluated artifact is made of. -/
structure Evaluated (hashing : Hashing) (config : Option MerchantPolicyConfig)
    (graph : PaymentSafetyGraphArtifact) (resolution : Option CustomerValueResolution)
    (resolutionFingerprint : Option Sha256Digest) (artifact : ScenarioApplicabilityArtifact) :
    Prop where
  controls : artifact.normalControls =
    normalControls hashing graph resolution resolutionFingerprint
  policy : artifact.policy = policyAssessment hashing config graph artifact.normalControls
  /-- The scenarios are those of the catalog, in order. -/
  scenarioIds : artifact.scenarios.map (·.scenarioId) = ScenarioId.all
  instances : ∀ scenario ∈ artifact.scenarios, scenario.instances =
    instancesOf hashing graph resolution artifact.normalControls artifact.policy scenario.scenarioId
  valid : artifact.validateArtifact = .ok ()
  graphFingerprint : artifact.projectedGraphFingerprint = graph.graphFingerprint

theorem evaluateApplicability_eq_ok {hashing : Hashing} {config : Option MerchantPolicyConfig}
    {source : SourceAuthority} {graph : PaymentSafetyGraphArtifact}
    {resolution : Option CustomerValueResolution} {resolutionFingerprint : Option Sha256Digest}
    {artifact : ScenarioApplicabilityArtifact}
    (evaluated : evaluateApplicability hashing config source graph resolution
      resolutionFingerprint = .ok artifact) :
    Evaluated hashing config graph resolution resolutionFingerprint artifact := by
  simp only [evaluateApplicability, bind_eq_ok, pure_eq_ok] at evaluated
  obtain ⟨scenarios, collected, valid, isValid, rfl⟩ := evaluated
  refine ⟨rfl, rfl, ?_, ?_, isValid, rfl⟩
  · exact map_of_collect (fun _ _ isBuilt => (scenarioOf_eq_ok _ _ _ _ _ isBuilt).1) collected
  · intro scenario membership
    obtain ⟨_, -, isBuilt⟩ := exists_of_mem_collect collected membership
    obtain ⟨rfl, same⟩ := scenarioOf_eq_ok _ _ _ _ _ isBuilt
    exact same

namespace Evaluated

variable {hashing : Hashing} {config : Option MerchantPolicyConfig}
  {graph : PaymentSafetyGraphArtifact} {resolution : Option CustomerValueResolution}
  {resolutionFingerprint : Option Sha256Digest} {artifact : ScenarioApplicabilityArtifact}

/-- The rows of the artifact are the assertions of the catalog's instances. -/
theorem mem_rows
    (evaluated : Evaluated hashing config graph resolution resolutionFingerprint artifact)
    (scenario : ScenarioId) (item : ScenarioInstance) (assertion : AssertionApplicability) :
    (scenario, item, assertion) ∈ artifact.rows ↔
      item ∈ instancesOf hashing graph resolution artifact.normalControls artifact.policy scenario ∧
        assertion ∈ item.assertions := by
  rw [ScenarioApplicabilityPayload.mem_rows]
  constructor
  · rintro ⟨built, membership, other, isItem, another, isAssertion, same⟩
    cases same
    rw [← evaluated.instances built membership]
    exact ⟨isItem, isAssertion⟩
  · rintro ⟨isItem, isAssertion⟩
    have known : scenario ∈ artifact.scenarios.map (·.scenarioId) := by
      rw [evaluated.scenarioIds]
      exact ScenarioId.mem_all scenario
    obtain ⟨built, membership, rfl⟩ := List.mem_map.mp known
    rw [← evaluated.instances built membership] at isItem
    exact ⟨built, membership, item, isItem, assertion, isAssertion, rfl⟩

/-- The controls of the artifact have distinct identities. -/
theorem controls_nodup
    (evaluated : Evaluated hashing config graph resolution resolutionFingerprint artifact) :
    (artifact.normalControls.map (·.controlId)).Nodup := by
  have valid := evaluated.valid
  simp only [ScenarioApplicabilityPayload.validateArtifact, bind_eq_ok, exists_unit,
    raiseIf_eq_ok, not_not] at valid
  exact valid.1

/-- The controls of the artifact are controls of the graph. -/
theorem controlOf
    (evaluated : Evaluated hashing config graph resolution resolutionFingerprint artifact)
    {control : NormalControlInstance} (membership : control ∈ artifact.normalControls) :
    ControlOf graph control := by
  rw [evaluated.controls] at membership
  exact normalControls_spec membership

end Evaluated

/-! ## The inputs of the sample analyses -/

/-- Hashing without collisions: the digest of a text is the text. -/
def sampleHashing : Hashing :=
  { digest := id
    controlJson := (·.controlId)
    nodeJson := (·.nodeId)
    captureRule := "capture rule"
    lateRule := "late rule"
    fulfilment := fun _ => "fulfilment evidence"
    lateAuthorisation := fun _ => "late evidence"
    applicability := fun _ => "applicability" }

/-- One ingress of a kind. -/
def sampleIngress (kind : PaymentIngressKind) : GraphNode :=
  { nodeId := "ingress"
    label := "POST /payments"
    backingSymbolId := "handler"
    details := .paymentIngress
      { ingressKind := kind
        registration :=
          { routeRegistrationId := "route"
            appInstanceId := "app"
            registrarInstanceId := "app"
            method := "POST"
            componentPath := "/payments"
            effectivePath := "/payments" }
        evidenceFamilies := []
        checkoutRequestBinding := none }
    provenance := [] }

/-- The source index of the sample analyses. -/
def sampleSource : SourceAuthority :=
  { projectId := "project"
    projectSourceFingerprint := "source"
    sourceIndexFingerprint := "index"
    structuralGraphFingerprint := "structural" }

end StateGuard
