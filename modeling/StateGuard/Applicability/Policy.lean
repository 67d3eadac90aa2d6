import StateGuard.Library.KeyOrder
import StateGuard.Python.Text
import StateGuard.Applicability.Contracts

/-!
# Normal controls and merchant policy

The controls of a projected graph, the diagnostics that bear on them, and the merchant
policy the graph suggests for them.  Hashing and serialisation are taken as given
(`Hashing`): identities are a digest of their components, and a list is put in order by the
text of its items.

A suggestion rests on the matched branches into the customer-value action
(`policyStateEdges`), and is withheld as soon as one diagnostic of a control's route reduces
coverage (`policySuggestion_of_relevant`).
-/

namespace StateGuard

open KeyOrder
open Python (removePrefix startsWith)

/-! ## Text -/

/-- A payment event's state: its name without the event family. -/
def paymentState (state : String) : String := removePrefix "payment." state

/-! ## Evidence and hashing -/

/-- `_policy_control_evidence`. -/
structure PolicyControlEvidence where
  ingressNodeId : GraphNodeId
  routeRegistrationId : RouteRegistrationId
  ingressKind : PaymentIngressKind
  customerValueNodeId : GraphNodeId
  customerValueSymbolId : SymbolId
  callPathReferences : List String
  deriving DecidableEq, Repr

/-- `_policy_state_edge_evidence`. -/
structure PolicyStateEdgeEvidence where
  sourceNodeId : GraphNodeId
  routeRegistrationId : Option RouteRegistrationId
  targetNodeId : GraphNodeId
  disposition : BranchDisposition
  states : List String
  provenance : List (ProvenanceKind × String)
  deriving DecidableEq, Repr

/-- `_policy_diagnostic_evidence`. -/
structure PolicyDiagnosticEvidence where
  code : GraphDiagnosticCode
  impact : GraphDiagnosticImpact
  candidateKind : Option GraphCandidateKind
  reason : Option GraphDiagnosticReason
  symbolId : Option SymbolId
  routeRegistrationId : Option RouteRegistrationId
  deriving DecidableEq, Repr

/-- `_policy_webhook_evidence`. -/
structure PolicyWebhookEvidence where
  nodeId : GraphNodeId
  routeRegistrationId : RouteRegistrationId
  method : String
  effectivePath : String
  ingressKind : PaymentIngressKind
  deriving DecidableEq, Repr

/-- The evidence behind the fulfilment policy. -/
structure FulfilmentEvidence where
  captureRule : Sha256Digest
  controls : List PolicyControlEvidence
  stateEdges : List PolicyStateEdgeEvidence
  diagnostics : List PolicyDiagnosticEvidence
  deriving DecidableEq, Repr

/-- The evidence behind the late-authorisation policy. -/
structure LateAuthorisationEvidence where
  lateRule : Sha256Digest
  webhookControls : List PolicyControlEvidence
  webhookNodes : List PolicyWebhookEvidence
  stateEdges : List PolicyStateEdgeEvidence
  diagnostics : List PolicyDiagnosticEvidence
  deriving DecidableEq, Repr

/-- The digests and the canonical JSON text the engine calls. -/
structure Hashing where
  /-- The first 32 hexadecimal digits of the SHA-256 digest of a text. -/
  digest : String → String
  /-- `canonical_json` of a control. -/
  controlJson : NormalControlInstance → String
  /-- `canonical_json` of a node. -/
  nodeJson : GraphNode → String
  /-- The fingerprints of the two Razorpay rules. -/
  captureRule : Sha256Digest
  lateRule : Sha256Digest
  /-- `fingerprint_json` of the policy evidence. -/
  fulfilment : FulfilmentEvidence → Sha256Digest
  lateAuthorisation : LateAuthorisationEvidence → Sha256Digest
  /-- `applicability_fingerprint`. -/
  applicability : ScenarioApplicabilityPayload → Sha256Digest

namespace Hashing

variable (hashing : Hashing)

/-- `_stable_id`. -/
def stableId (tag : String) (components : List String) : String :=
  tag ++ "_" ++ hashing.digest (String.intercalate "\x1f" components)

def normalControlId (components : List String) : NormalControlId :=
  hashing.stableId "sgcontrol" components

def scenarioInstanceId (scenario : ScenarioId) (discriminator : String) : ScenarioInstanceId :=
  hashing.stableId "sgscenario" [scenario.value, discriminator]

def assertionId (instanceId : ScenarioInstanceId) (key : AssertionKey) : AssertionId :=
  hashing.stableId "sgassert" [instanceId, key.value]

end Hashing

/-! ## Normal controls -/

inductive ResolutionState where
  | unique | ambiguous | unmapped
  deriving DecidableEq, Repr

/-- The resolution of the customer-value action; exactly a unique one selects a symbol. -/
structure CustomerValueResolution where
  state : ResolutionState
  selectedSymbolId : Option SymbolId
  /-- `validate_resolution`. -/
  selectionMatches : state = .unique ↔ selectedSymbolId.isSome
  deriving DecidableEq

/-- The control of one edge, when it is a proven call path from an ingress to the selected
customer-value action. -/
def controlOfEdge (hashing : Hashing) (graph : PaymentSafetyGraphArtifact)
    (selectedSymbolId : SymbolId) (resolutionFingerprint : Sha256Digest) (edge : GraphEdge) :
    Option NormalControlInstance := do
  let source ← graph.node? edge.sourceNodeId
  let target ← graph.node? edge.targetNodeId
  let ingress ← source.ingress?
  let callPath := (edge.provenance.filter (startsWith "call-site:" ·.reference)).map (·.reference)
  if callPathNonempty : callPath ≠ [] then
    if edge.kind = .calls ∧ target.details = .customerValueAction ∧
        target.backingSymbolId = selectedSymbolId then
      some
        { controlId := hashing.normalControlId
            ([source.nodeId, ingress.registration.routeRegistrationId, target.nodeId,
              selectedSymbolId, edge.edgeId] ++ callPath ++ [resolutionFingerprint])
          ingressNodeId := source.nodeId
          routeRegistrationId := ingress.registration.routeRegistrationId
          ingressKind := ingress.ingressKind
          customerValueNodeId := target.nodeId
          customerValueSymbolId := selectedSymbolId
          connectivityEdgeId := edge.edgeId
          callPathReferences := callPath
          semanticResolutionFingerprint := resolutionFingerprint
          callPathNonempty := callPathNonempty }
    else none
  else none

/-- `_normal_controls`. -/
def normalControls (hashing : Hashing) (graph : PaymentSafetyGraphArtifact)
    (resolution : Option CustomerValueResolution) (resolutionFingerprint : Option Sha256Digest) :
    List NormalControlInstance :=
  match resolution, resolutionFingerprint with
  | some resolution, some fingerprint =>
    match resolution.state, resolution.selectedSymbolId with
    | .unique, some selected =>
      sortedByKey hashing.controlJson
        (graph.edges.filterMap (controlOfEdge hashing graph selected fingerprint))
    | _, _ => []
  | _, _ => []

/-- What a control of a graph records. -/
structure ControlOf (graph : PaymentSafetyGraphArtifact) (control : NormalControlInstance) :
    Prop where
  ingress : ∃ source ∈ graph.nodes, source.nodeId = control.ingressNodeId ∧
    ∃ details ∈ source.ingress?, details.ingressKind = control.ingressKind ∧
      details.registration.routeRegistrationId = control.routeRegistrationId
  target : ∃ node ∈ graph.nodes, node.nodeId = control.customerValueNodeId ∧
    node.details = .customerValueAction

theorem controlOfEdge_spec {hashing : Hashing} {graph : PaymentSafetyGraphArtifact}
    {selected : SymbolId} {fingerprint : Sha256Digest} {edge : GraphEdge}
    {control : NormalControlInstance}
    (built : controlOfEdge hashing graph selected fingerprint edge = some control) :
    ControlOf graph control := by
  rw [controlOfEdge] at built
  simp only [Option.bind_eq_bind, Option.bind_eq_some_iff] at built
  obtain ⟨source, foundSource, target, foundTarget, ingress, isIngress, built⟩ := built
  split at built
  next =>
    split at built
    next proven =>
      cases built
      obtain ⟨memberSource, -⟩ := graph.node?_eq_some foundSource
      obtain ⟨memberTarget, -⟩ := graph.node?_eq_some foundTarget
      exact ⟨⟨source, memberSource, rfl, ingress, isIngress, rfl, rfl⟩,
        ⟨target, memberTarget, rfl, proven.2.1⟩⟩
    next => cases built
  next => cases built

theorem normalControls_spec {hashing : Hashing} {graph : PaymentSafetyGraphArtifact}
    {resolution : Option CustomerValueResolution} {fingerprint : Option Sha256Digest}
    {control : NormalControlInstance}
    (membership : control ∈ normalControls hashing graph resolution fingerprint) :
    ControlOf graph control := by
  unfold normalControls at membership
  split at membership
  next =>
    split at membership
    next =>
      rw [mem_sortedByKey] at membership
      obtain ⟨edge, -, built⟩ := List.mem_filterMap.mp membership
      exact controlOfEdge_spec built
    next => exact absurd membership (List.not_mem_nil)
  next => exact absurd membership (List.not_mem_nil)

/-- The ingress of a control is the node of the graph with its identity. -/
theorem ControlOf.node? {graph : PaymentSafetyGraphArtifact} {control : NormalControlInstance}
    (known : ControlOf graph control) :
    ∃ source, graph.node? control.ingressNodeId = some source ∧
      source.nodeId = control.ingressNodeId ∧ ∃ details ∈ source.ingress?,
        details.ingressKind = control.ingressKind ∧
          details.registration.routeRegistrationId = control.routeRegistrationId := by
  obtain ⟨source, membership, same, details, isIngress⟩ := known.ingress
  exact ⟨source, by rw [← same]; exact graph.node?_of_mem membership, same, details, isIngress⟩

/-! ## Diagnostics of a control -/

/-- `_relevant_diagnostics`. -/
def relevantDiagnostics (graph : PaymentSafetyGraphArtifact)
    (controls : List NormalControlInstance) : List GraphDiagnosticRecord :=
  graph.diagnostics.filter fun item =>
    item.impact = .coverageReduced ∧
      ∃ control ∈ controls, item.routeRegistrationId = some control.routeRegistrationId

theorem mem_relevantDiagnostics {graph : PaymentSafetyGraphArtifact}
    {controls : List NormalControlInstance} {diagnostic : GraphDiagnosticRecord} :
    diagnostic ∈ relevantDiagnostics graph controls ↔
      diagnostic ∈ graph.diagnostics ∧ diagnostic.impact = .coverageReduced ∧
        ∃ control ∈ controls, diagnostic.routeRegistrationId = some control.routeRegistrationId := by
  simp [relevantDiagnostics]

/-- A diagnostic that bears on one control bears on every list the control is in. -/
theorem relevantDiagnostics_mono {graph : PaymentSafetyGraphArtifact}
    {controls : List NormalControlInstance} {control : NormalControlInstance}
    (membership : control ∈ controls) {diagnostic : GraphDiagnosticRecord}
    (relevant : diagnostic ∈ relevantDiagnostics graph [control]) :
    diagnostic ∈ relevantDiagnostics graph controls := by
  rw [mem_relevantDiagnostics] at relevant ⊢
  obtain ⟨recorded, reduced, other, isOther, same⟩ := relevant
  rw [List.mem_singleton] at isOther
  subst isOther
  exact ⟨recorded, reduced, other, membership, same⟩

/-! ## The policy the graph suggests -/

/-- The states of one matched branch that are thresholds of a policy. -/
def thresholdStates (edge : GraphEdge) : List String :=
  ((edge.branch.map (·.states)).getD []).map paymentState |>.filter (· ∈ ["authorized", "captured"])

/-- The edge is a matched branch of a node of one of the routes. -/
def MatchedBranchOf (graph : PaymentSafetyGraphArtifact) (routeIds : List RouteRegistrationId)
    (edge : GraphEdge) : Prop :=
  edge.matchedStates?.isSome ∧ ∃ source ∈ (graph.node? edge.sourceNodeId).toList,
    ∃ routeId ∈ routeIds, source.routeId? = some routeId

instance (graph : PaymentSafetyGraphArtifact) (routeIds : List RouteRegistrationId)
    (edge : GraphEdge) : Decidable (MatchedBranchOf graph routeIds edge) :=
  inferInstanceAs (Decidable (_ ∧ ∃ _ ∈ _, ∃ _ ∈ _, _))

/-- The matched branches into the customer-value action of a control. -/
def policyStateEdges (graph : PaymentSafetyGraphArtifact)
    (controls : List NormalControlInstance) : List GraphEdge :=
  graph.edges.filter fun edge =>
    edge.targetNodeId ∈ controls.map (·.customerValueNodeId) ∧
      MatchedBranchOf graph (controls.map (·.routeRegistrationId)) edge

/-- The thresholds one route restricts the customer-value action to. -/
def statesOfRoute (graph : PaymentSafetyGraphArtifact) (stateEdges : List GraphEdge)
    (routeId : RouteRegistrationId) : List String :=
  (stateEdges.filter fun edge =>
    (graph.node? edge.sourceNodeId).bind (·.routeId?) = some routeId).flatMap thresholdStates

/-- The sorted thresholds that occur on any route. -/
def observedStates (stateEdges : List GraphEdge) : List String :=
  ["authorized", "captured"].filter (· ∈ stateEdges.flatMap thresholdStates)

/-- The evidence status of the fulfilment policy and the policy it suggests. -/
def policySuggestion (graph : PaymentSafetyGraphArtifact)
    (controls : List NormalControlInstance) : PolicyEvidenceStatus × Option FulfilmentPolicy :=
  let stateEdges := policyStateEdges graph controls
  let observed := observedStates stateEdges
  if relevantDiagnostics graph controls ≠ [] ∨ controls = [] ∨ observed = [] ∨
      ∃ control ∈ controls, statesOfRoute graph stateEdges control.routeRegistrationId = [] then
    (.insufficientEvidence, none)
  else if observed = ["captured"] then
    (.consistentSuggestion, some .captureRequired)
  else if observed = ["authorized"] then
    (.consistentSuggestion, some .authorizedAllowed)
  else
    (.conflictingEvidence, none)

/-- A suggestion accompanies consistent evidence and no other. -/
theorem policySuggestion_matches (graph : PaymentSafetyGraphArtifact)
    (controls : List NormalControlInstance) :
    (policySuggestion graph controls).1 = .consistentSuggestion ↔
      (policySuggestion graph controls).2.isSome := by
  rw [policySuggestion]
  split
  next => simp
  next =>
    split
    next => simp
    next => split <;> simp

/-- One relevant diagnostic withholds the suggestion. -/
theorem policySuggestion_of_relevant {graph : PaymentSafetyGraphArtifact}
    {controls : List NormalControlInstance} (relevant : relevantDiagnostics graph controls ≠ []) :
    policySuggestion graph controls = (.insufficientEvidence, none) := by
  rw [policySuggestion, if_pos (.inl relevant)]

def policyControlEvidence (control : NormalControlInstance) : PolicyControlEvidence :=
  { ingressNodeId := control.ingressNodeId
    routeRegistrationId := control.routeRegistrationId
    ingressKind := control.ingressKind
    customerValueNodeId := control.customerValueNodeId
    customerValueSymbolId := control.customerValueSymbolId
    callPathReferences := control.callPathReferences }

def policyStateEdgeEvidence (graph : PaymentSafetyGraphArtifact) (edge : GraphEdge) :
    PolicyStateEdgeEvidence :=
  { sourceNodeId := edge.sourceNodeId
    routeRegistrationId := (graph.node? edge.sourceNodeId).bind (·.routeId?)
    targetNodeId := edge.targetNodeId
    disposition := (edge.branch.map (·.disposition)).getD .matched
    states := sortedByKey id ((edge.branch.map (·.states)).getD [])
    provenance := edge.provenance.map fun record => (record.kind, record.reference) }

def policyDiagnosticEvidence (diagnostic : GraphDiagnosticRecord) : PolicyDiagnosticEvidence :=
  { code := diagnostic.code
    impact := diagnostic.impact
    candidateKind := diagnostic.candidateKind
    reason := diagnostic.reason
    symbolId := diagnostic.symbolId
    routeRegistrationId := diagnostic.routeRegistrationId }

def policyWebhookEvidence (nodeId : GraphNodeId) (details : PaymentIngressDetails) :
    PolicyWebhookEvidence :=
  { nodeId := nodeId
    routeRegistrationId := details.registration.routeRegistrationId
    method := details.registration.method
    effectivePath := details.registration.effectivePath
    ingressKind := details.ingressKind }

/-- The evidence that the fulfilment policy's fingerprint is taken of. -/
def fulfilmentEvidence (hashing : Hashing) (graph : PaymentSafetyGraphArtifact)
    (controls : List NormalControlInstance) : FulfilmentEvidence :=
  { captureRule := hashing.captureRule
    controls := controls.map policyControlEvidence
    stateEdges := (policyStateEdges graph controls).map (policyStateEdgeEvidence graph)
    diagnostics := (relevantDiagnostics graph controls).map policyDiagnosticEvidence }

/-- The controls of a webhook ingress. -/
def webhookControls (controls : List NormalControlInstance) : List NormalControlInstance :=
  controls.filter (·.ingressKind = .webhook)

/-- The evidence that the late-authorisation policy's fingerprint is taken of. -/
def lateAuthorisationEvidence (hashing : Hashing) (graph : PaymentSafetyGraphArtifact)
    (controls : List NormalControlInstance) : LateAuthorisationEvidence :=
  let webhooks := webhookControls controls
  { lateRule := hashing.lateRule
    webhookControls := webhooks.map policyControlEvidence
    webhookNodes := graph.nodes.filterMap fun node =>
      node.ingress?.bind fun details =>
        if details.ingressKind = .webhook ∧ node.nodeId ∈ webhooks.map (·.ingressNodeId) then
          some (policyWebhookEvidence node.nodeId details)
        else none
    stateEdges := ((policyStateEdges graph controls).filter fun edge =>
        ∃ control ∈ webhooks, (graph.node? edge.sourceNodeId).bind (·.routeId?) =
          some control.routeRegistrationId).map
      (policyStateEdgeEvidence graph)
    diagnostics := (relevantDiagnostics graph webhooks).map policyDiagnosticEvidence }

/-- A confirmed policy with the evidence it was confirmed on. -/
structure ConfirmedPolicyConfig (π : Type) where
  value : π
  evidenceFingerprint : Sha256Digest
  deriving DecidableEq, Repr

/-- The merchant's confirmed policies. -/
structure MerchantPolicyConfig where
  fulfilment : Option (ConfirmedPolicyConfig FulfilmentPolicy)
  lateAuthorisation : Option (ConfirmedPolicyConfig LateAuthorisationPolicy)
  deriving DecidableEq, Repr

/-- `_policy_assessment`. -/
def policyAssessment (hashing : Hashing) (config : Option MerchantPolicyConfig)
    (graph : PaymentSafetyGraphArtifact) (controls : List NormalControlInstance) :
    MerchantPolicyAssessment :=
  let fulfilmentFingerprint := hashing.fulfilment (fulfilmentEvidence hashing graph controls)
  let lateFingerprint :=
    hashing.lateAuthorisation (lateAuthorisationEvidence hashing graph controls)
  let fulfilmentConfig := config.bind (·.fulfilment)
  let lateConfig := config.bind (·.lateAuthorisation)
  { fulfilment :=
      { evidenceStatus := (policySuggestion graph controls).1
        evidenceFingerprint := fulfilmentFingerprint
        observedStates := observedStates (policyStateEdges graph controls)
        suggestedPolicy := (policySuggestion graph controls).2
        confirmedPolicy := fulfilmentConfig.map (·.value)
        evidenceCurrent :=
          fulfilmentConfig.map fun confirmed => confirmed.evidenceFingerprint = fulfilmentFingerprint
        suggestionMatches := policySuggestion_matches graph controls
        currentMatches := by simp }
    lateAuthorisation :=
      { evidenceFingerprint := lateFingerprint
        confirmedPolicy := lateConfig.map (·.value)
        evidenceCurrent :=
          lateConfig.map fun confirmed => confirmed.evidenceFingerprint = lateFingerprint
        currentMatches := by simp } }

end StateGuard
