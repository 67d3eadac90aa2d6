import StateGuard.Applicability.Engine
import StateGuard.Graph.Construction
import StateGuard.Runtime.Contracts

/-!
# The runtime plan

The ingresses, controls, mutations and acknowledgements of a graph as the runtime tracks them
(`buildRuntimeTargetPlan`).  The plan recomputes from the graph which mutations a trust scenario
has to watch (`expectedMutations`) and refuses an artifact whose evidence differs.
-/

namespace StateGuard

open Checks KeyOrder

/-! ## Bindings -/

structure RuntimeTargetPlan where
  appTarget : Option AppTargetRecord
  ingresses : List IngressRuntimeBinding
  customerValues : List CustomerValueRuntimeTarget
  mutations : List MutationRuntimeTarget
  acknowledgements : List AcknowledgementRuntimeTarget

/-- `_selected_app_target`. -/
def selectedAppTarget (index : SourceIndexArtifact) : Option AppTargetRecord :=
  match selectedTargets index with
  | [target] => some target
  | _ => none

/-- `_binding` of an ingress with some details. -/
def bindingOf (node : GraphNode) (details : PaymentIngressDetails) : IngressRuntimeBinding where
  ingressNodeId := node.nodeId
  routeRegistrationId := details.registration.routeRegistrationId
  method := details.registration.method
  effectivePath := details.registration.effectivePath
  checkoutRequestBinding := details.checkoutRequestBinding

/-- The bindings of the ingresses, by route. -/
def ingressBindings (graph : PaymentSafetyGraphArtifact) : List IngressRuntimeBinding :=
  sortedByKey (fun binding => toLex (binding.routeRegistrationId, binding.ingressNodeId))
    (graph.nodes.filterMap fun node => node.ingress?.map (bindingOf node))

/-- `binding_by_node.get`. -/
def bindingByNode (graph : PaymentSafetyGraphArtifact) (nodeId : GraphNodeId) :
    Option IngressRuntimeBinding :=
  (ingressBindings graph).find? (·.ingressNodeId = nodeId)

/-- `binding_by_route.get`. -/
def bindingByRoute (graph : PaymentSafetyGraphArtifact) (routeId : RouteRegistrationId) :
    Option IngressRuntimeBinding :=
  (ingressBindings graph).find? (·.routeRegistrationId = routeId)

/-! ## Targets -/

/-- The customer-value target of a control, where the control still matches the graph. -/
def customerValueTarget (graph : PaymentSafetyGraphArtifact) (control : NormalControlInstance) :
    Except String CustomerValueRuntimeTarget :=
  match bindingByNode graph control.ingressNodeId, graph.node? control.customerValueNodeId,
      graph.edges.find? (·.edgeId = control.connectivityEdgeId) with
  | some ingress, some node, some edge =>
    if ingress.routeRegistrationId = control.routeRegistrationId ∧
        node.details = .customerValueAction ∧ node.backingSymbolId = control.customerValueSymbolId ∧
        edge.sourceNodeId = control.ingressNodeId ∧
        edge.targetNodeId = control.customerValueNodeId then
      .ok
        { ingress := ingress
          normalControlId := control.controlId
          customerValueNodeId := control.customerValueNodeId
          customerValueSymbolId := control.customerValueSymbolId }
    else .error "normal control no longer matches exact runtime identities"
  | _, _, _ => .error "normal control no longer matches exact runtime identities"

/-- The target of a mutation. -/
def mutationTarget (graph : PaymentSafetyGraphArtifact)
    (entry : GraphNode × MerchantStateMutationDetails) : Except String MutationRuntimeTarget :=
  match bindingByRoute graph entry.2.routeRegistrationId with
  | some ingress => .ok { ingress := ingress, mutationNodeId := entry.1.nodeId }
  | none => .error "mutation node has no exact ingress route"

/-- The target of an acknowledgement. -/
def acknowledgementTarget (graph : PaymentSafetyGraphArtifact)
    (entry : GraphNode × AcknowledgementBoundaryDetails) :
    Except String AcknowledgementRuntimeTarget :=
  match bindingByRoute graph entry.2.routeRegistrationId with
  | some ingress => .ok
      { ingress := ingress
        acknowledgementNodeId := entry.1.nodeId
        statusCode := entry.2.statusCode
        outcome := entry.2.outcome }
  | none => .error "acknowledgement node has no exact ingress route"

/-- The mutations of a graph with their details. -/
def mutationNodes (graph : PaymentSafetyGraphArtifact) :
    List (GraphNode × MerchantStateMutationDetails) :=
  graph.nodes.filterMap fun node => node.mutation?.map fun details => (node, details)

/-- The acknowledgements of a graph with their details. -/
def acknowledgementNodes (graph : PaymentSafetyGraphArtifact) :
    List (GraphNode × AcknowledgementBoundaryDetails) :=
  graph.nodes.filterMap fun node => node.acknowledgement?.map fun details => (node, details)

/-! ## Expected evidence -/

/-- `mutation_ids_by_route.get`: the mutations of a route. -/
def mutationIdsByRoute (graph : PaymentSafetyGraphArtifact) (routeId : RouteRegistrationId) :
    List GraphNodeId :=
  ((mutationNodes graph).filter (·.2.routeRegistrationId = routeId)).map (·.1.nodeId)

/-- A matched branch in which a payment is captured. -/
def CapturedBranch (edge : GraphEdge) : Prop :=
  edge.matchedStates?.isSome ∧ "captured" ∈ branchStates edge

instance (edge : GraphEdge) : Decidable (CapturedBranch edge) :=
  inferInstanceAs (Decidable (_ ∧ _))

/-- The gates of a route with a captured branch, into the action of a control if there is one. -/
def plannedGateIds (graph : PaymentSafetyGraphArtifact) (routeId : RouteRegistrationId)
    (control : Option NormalControlInstance) : List GraphNodeId :=
  (graph.edges.filter fun edge => CapturedBranch edge ∧
    (∃ source ∈ (graph.node? edge.sourceNodeId).toList, ∃ details ∈ source.stateGate?.toList,
      details.routeRegistrationId = routeId) ∧
    ∀ item ∈ control.toList, edge.targetNodeId = item.customerValueNodeId).map (·.sourceNodeId)

/-- The mutations a forged webhook must not complete. -/
def expectedCaptured (graph : PaymentSafetyGraphArtifact) (routeId : RouteRegistrationId)
    (control : Option NormalControlInstance) : List GraphNodeId :=
  (graph.edges.filter fun edge => CapturedBranch edge ∧
    edge.sourceNodeId ∈ plannedGateIds graph routeId control ∧
    edge.targetNodeId ∈ mutationIdsByRoute graph routeId).map (·.targetNodeId)

/-- The mutations a tampered callback must not complete. -/
def expectedProtected (graph : PaymentSafetyGraphArtifact) (routeId : RouteRegistrationId) :
    List GraphNodeId :=
  let guarded := (graph.edges.filter fun edge =>
    edge.kind = .guards ∧ edge.sourceNodeId ∈ checkoutTrustIds graph routeId).map (·.targetNodeId)
  (mutationIdsByRoute graph routeId).filter fun nodeId => nodeId ∈ guarded ∨
    ∃ node ∈ (graph.node? nodeId).toList, ∃ details ∈ node.mutation?.toList,
      details.assignedPaymentState ≠ none

/-- The mutations a trust scenario has to watch. -/
def expectedMutations (graph : PaymentSafetyGraphArtifact) (scenario : ScenarioId)
    (routeId : RouteRegistrationId) (control : Option NormalControlInstance) : List GraphNodeId :=
  if scenario = .sg05 then expectedCaptured graph routeId control
  else expectedProtected graph routeId

/-- The graph nodes an assertion refers to. -/
def observedNodes (assertion : AssertionApplicability) : List GraphNodeId :=
  ((assertion.reasons.flatMap (·.evidence)).filter (·.kind = .graphNode)).map (·.reference)

/-- An assertion says that it has mutations to watch. -/
def MutationAvailable (assertion : AssertionApplicability) : Prop :=
  ∃ reason ∈ assertion.reasons, reason.code = .mutationTargetAvailable

instance (assertion : AssertionApplicability) : Decidable (MutationAvailable assertion) :=
  inferInstanceAs (Decidable (∃ _ ∈ _, _))

/-- What `_validate_mutation_assertion_evidence` checks of one instance of a trust scenario. -/
def validateTrustInstance (applicability : ScenarioApplicabilityArtifact)
    (graph : PaymentSafetyGraphArtifact) (scenario : ScenarioId) (item : ScenarioInstance) :
    Except String Unit :=
  match item.ingressNodeId with
  | none => .ok ()
  | some ingressNodeId =>
    match bindingByNode graph ingressNodeId with
    | none => .error "trust scenario refers to an unknown ingress binding"
    | some binding =>
      let expected := expectedMutations graph scenario binding.routeRegistrationId
        (item.normalControlId.bind applicability.control?)
      forEach (fun assertion => raiseIf (MutationAvailable assertion ∧
          ¬ (observedNodes assertion ⊆ expected ∧ expected ⊆ observedNodes assertion))
        "mutation assertion evidence must match exact route mutation nodes") item.assertions

/-- `_validate_mutation_assertion_evidence`. -/
def validateMutationAssertionEvidence (applicability : ScenarioApplicabilityArtifact)
    (graph : PaymentSafetyGraphArtifact) : Except String Unit :=
  forEach (fun scenario : ScenarioApplicability =>
    if scenario.scenarioId = .sg05 ∨ scenario.scenarioId = .sg06 then
      forEach (validateTrustInstance applicability graph scenario.scenarioId) scenario.instances
    else .ok ()) applicability.scenarios

/-! ## The plan -/

/-- `build_runtime_target_plan`. -/
def buildRuntimeTargetPlan (index : SourceIndexArtifact) (graph : PaymentSafetyGraphArtifact)
    (applicability : ScenarioApplicabilityArtifact) : Except String RuntimeTargetPlan := do
  raiseIf (index.projectId ≠ applicability.projectId) "runtime inputs refer to different projects"
  raiseIf (index.sourceIndexFingerprint ≠ applicability.sourceIndexFingerprint)
    "runtime source-index fingerprint is stale"
  raiseIf (graph.graphFingerprint ≠ applicability.projectedGraphFingerprint)
    "runtime graph fingerprint is stale"
  raiseIf (¬ ((ingressBindings graph).map (·.routeRegistrationId)).Nodup)
    "one route registration produced multiple ingress nodes"
  let customers ← collect (customerValueTarget graph) applicability.normalControls
  let mutations ← collect (mutationTarget graph) (mutationNodes graph)
  let acknowledgements ← collect (acknowledgementTarget graph) (acknowledgementNodes graph)
  validateMutationAssertionEvidence applicability graph
  pure
    { appTarget := selectedAppTarget index
      ingresses := ingressBindings graph
      customerValues := sortedByKey (·.normalControlId) customers
      mutations := sortedByKey (·.mutationNodeId) mutations
      acknowledgements := sortedByKey (·.acknowledgementNodeId) acknowledgements }

end StateGuard
