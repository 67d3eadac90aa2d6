import StateGuard.Library.Checks
import StateGuard.Library.Dict
import StateGuard.Contracts.Vocabulary

/-!
# The payment-safety graph

The persisted graph: nodes with kind-specific details, edges with branch details, and the
diagnostics of the build.  The records carry the rules of their own validators where a later
proof reads them, as fields: an edge carries branch details exactly when it is a
`BRANCHES_TO` edge, and a graph has distinct node identities, no dangling edge, and the
completeness its diagnostics call for (`completenessFor`).

The fingerprint of a graph is data here; it is compared by what is modelled, and computed from the
contents of a graph by `graphFingerprint`.
-/

namespace StateGuard

/-! ## Diagnostics -/

inductive GraphCompleteness where
  | complete | partialGraph
  deriving DecidableEq, Repr

inductive GraphDiagnosticImpact where
  | coverageReduced | notice
  deriving DecidableEq, Repr

inductive GraphDiagnosticCode where
  | upstreamSourceIndexPartial
  | appTargetUnselected
  | routeCompositionUnresolved
  | routeCompositionCycle
  | unresolvedStructuralCandidate
  | controlFlowUnsupported
  | callPathUnresolved
  deriving DecidableEq, Repr

inductive GraphCandidateKind where
  | webhookIngress
  | checkoutCallbackIngress
  | webhookSignature
  | checkoutSignature
  | serverOrderIdentity
  | eventIdentity
  | paymentState
  | merchantMutation
  | acknowledgement
  | customerValueExecution
  deriving DecidableEq, Repr

inductive GraphDiagnosticReason where
  | insufficientConvergingEvidence
  | rawBodyUnresolved
  | parsedBodyUsed
  | validationNotControlEffective
  | validationAfterMutation
  | clientOrderIdUsed
  | orderIdentityUnknown
  | eventIdObservedOnly
  | persistenceUnresolved
  | dynamicResponse
  | recursiveCallPath
  | unsupportedAst
  | sdkBindingUnresolved
  | executionSemanticsUnproven
  deriving DecidableEq, Repr

/-- One diagnostic of the graph build. -/
structure GraphDiagnosticRecord where
  code : GraphDiagnosticCode
  impact : GraphDiagnosticImpact
  candidateKind : Option GraphCandidateKind := none
  reason : Option GraphDiagnosticReason := none
  symbolId : Option SymbolId := none
  routeRegistrationId : Option RouteRegistrationId := none
  sourceLocation : Option SourceLocation := none
  deriving DecidableEq, Repr

/-- `graph_completeness_for`. -/
def completenessFor (diagnostics : List GraphDiagnosticRecord) : GraphCompleteness :=
  if diagnostics.any (·.impact = .coverageReduced) then .partialGraph else .complete

/-! ## Node details -/

inductive PaymentIngressKind where
  | webhook | checkoutCallback
  deriving DecidableEq, Repr

inductive CheckoutRequestTransport where
  | json | formUrlencoded | query
  deriving DecidableEq, Repr

/-- Where one canonical checkout field is read from. -/
structure CheckoutFieldBinding where
  canonicalName : String
  requestName : String
  deriving DecidableEq, Repr

/-- How a checkout callback receives its three fields. -/
structure CheckoutRequestBinding where
  transport : CheckoutRequestTransport
  fields : List CheckoutFieldBinding
  deriving DecidableEq, Repr

inductive TrustGateKind where
  | webhookSignatureVerification | checkoutSignatureVerification | serverOrderIdentityBinding
  deriving DecidableEq, Repr

inductive OrderIdentityOrigin where
  | clientReturned | serverStateConfirmed | unknown
  deriving DecidableEq, Repr

inductive WebhookBodyOrigin where
  | rawPreserved | parsed | unknown
  deriving DecidableEq, Repr

inductive EventIdentityStrategy where
  | lookupAndRecord | atomicClaim
  deriving DecidableEq, Repr

inductive PaymentStateOperator where
  | equals | notEquals | isIn | notIn | matchCase | compound
  deriving DecidableEq, Repr

inductive MerchantMutationKind where
  | attributeWrite | subscriptWrite | merchantHelper
  deriving DecidableEq, Repr

inductive AcknowledgementExitKind where
  | explicitReturn | implicitReturn | response | httpException
  deriving DecidableEq, Repr

inductive AcknowledgementOutcome where
  | success2xx | nonSuccess | unknown
  deriving DecidableEq, Repr

/-- One effective route of the selected application. -/
structure EffectiveRouteRegistration where
  routeRegistrationId : RouteRegistrationId
  appInstanceId : FrameworkInstanceId
  registrarInstanceId : FrameworkInstanceId
  method : String
  componentPath : String
  effectivePath : String
  deriving DecidableEq, Repr

structure PaymentIngressDetails where
  ingressKind : PaymentIngressKind
  registration : EffectiveRouteRegistration
  evidenceFamilies : List String
  checkoutRequestBinding : Option CheckoutRequestBinding
  deriving DecidableEq, Repr

structure TrustGateDetails where
  trustKind : TrustGateKind
  routeRegistrationId : RouteRegistrationId
  structuralAnchor : String
  webhookBodyOrigin : Option WebhookBodyOrigin
  orderIdentityOrigin : Option OrderIdentityOrigin
  deriving DecidableEq, Repr

structure EventIdentityGuardDetails where
  routeRegistrationId : RouteRegistrationId
  structuralAnchor : String
  strategy : EventIdentityStrategy
  deriving DecidableEq, Repr

structure PaymentStateGateDetails where
  routeRegistrationId : RouteRegistrationId
  structuralAnchor : String
  operator : PaymentStateOperator
  states : List String
  deriving DecidableEq, Repr

/-- The states a recognised mutation may assign. -/
inductive AssignedPaymentState where
  | authorized | captured
  deriving DecidableEq, Repr

/-- The spelling of an assigned state. -/
def AssignedPaymentState.value : AssignedPaymentState → String
  | .authorized => "authorized"
  | .captured => "captured"

structure MerchantStateMutationDetails where
  routeRegistrationId : RouteRegistrationId
  structuralAnchor : String
  mutationKind : MerchantMutationKind
  carrierReference : MerchantStateCarrierId
  assignedPaymentState : Option AssignedPaymentState
  deriving DecidableEq, Repr

structure AcknowledgementBoundaryDetails where
  routeRegistrationId : RouteRegistrationId
  structuralAnchor : String
  exitKind : AcknowledgementExitKind
  statusCode : Option Nat
  outcome : AcknowledgementOutcome
  deriving DecidableEq, Repr

/-- The details a node carries; a customer-value action carries none. -/
inductive GraphNodeDetails where
  | paymentIngress (details : PaymentIngressDetails)
  | trustGate (details : TrustGateDetails)
  | eventIdentityGuard (details : EventIdentityGuardDetails)
  | paymentStateGate (details : PaymentStateGateDetails)
  | merchantStateMutation (details : MerchantStateMutationDetails)
  | acknowledgementBoundary (details : AcknowledgementBoundaryDetails)
  | customerValueAction
  deriving DecidableEq, Repr

/-! ## Nodes and edges -/

/-- A node.  Its kind is the constructor of its details, so the two always agree. -/
structure GraphNode where
  nodeId : GraphNodeId
  label : String
  backingSymbolId : SymbolId
  details : GraphNodeDetails
  provenance : List ProvenanceRecord
  deriving DecidableEq, Repr

namespace GraphNode

/-- The ingress details of an ingress node. -/
def ingress? (node : GraphNode) : Option PaymentIngressDetails :=
  match node.details with
  | .paymentIngress details => some details
  | _ => none

/-- The state-gate details of a state gate. -/
def stateGate? (node : GraphNode) : Option PaymentStateGateDetails :=
  match node.details with
  | .paymentStateGate details => some details
  | _ => none

/-- The mutation details of a mutation. -/
def mutation? (node : GraphNode) : Option MerchantStateMutationDetails :=
  match node.details with
  | .merchantStateMutation details => some details
  | _ => none

/-- The trust details of a trust gate. -/
def trustGate? (node : GraphNode) : Option TrustGateDetails :=
  match node.details with
  | .trustGate details => some details
  | _ => none

/-- The acknowledgement details of an acknowledgement boundary. -/
def acknowledgement? (node : GraphNode) : Option AcknowledgementBoundaryDetails :=
  match node.details with
  | .acknowledgementBoundary details => some details
  | _ => none

/-- `_route_id_for_node`: the route a node belongs to. -/
def routeId? (node : GraphNode) : Option RouteRegistrationId :=
  match node.details with
  | .paymentIngress details => some details.registration.routeRegistrationId
  | .trustGate details => some details.routeRegistrationId
  | .eventIdentityGuard details => some details.routeRegistrationId
  | .paymentStateGate details => some details.routeRegistrationId
  | .merchantStateMutation details => some details.routeRegistrationId
  | .acknowledgementBoundary details => some details.routeRegistrationId
  | .customerValueAction => none

end GraphNode

inductive GraphEdgeKind where
  | calls | guards | branchesTo | mutates | triggers | acknowledgesAfter
  deriving DecidableEq, Repr

inductive BranchDisposition where
  | matched | notMatched | defaultArm
  deriving DecidableEq, Repr

/-- The arm of a state gate that an edge stands for. -/
structure GraphBranchDetails where
  disposition : BranchDisposition
  states : List String
  deriving DecidableEq, Repr

/-- An edge.  Branch details stand on `BRANCHES_TO` edges and on no others. -/
structure GraphEdge where
  edgeId : GraphEdgeId
  sourceNodeId : GraphNodeId
  targetNodeId : GraphNodeId
  kind : GraphEdgeKind
  branch : Option GraphBranchDetails
  provenance : List ProvenanceRecord
  /-- The validator of the edge. -/
  branchOnlyOnBranches : kind = .branchesTo ↔ branch.isSome
  deriving DecidableEq

theorem GraphEdgeKind.calls_unbranched :
    GraphEdgeKind.calls = .branchesTo ↔ (none : Option GraphBranchDetails).isSome := by decide

theorem GraphEdgeKind.acknowledgesAfter_unbranched :
    GraphEdgeKind.acknowledgesAfter = .branchesTo ↔ (none : Option GraphBranchDetails).isSome := by
  decide

/-- The arm of a matched branch, for a `BRANCHES_TO` edge whose disposition is `MATCHED`. -/
def GraphEdge.matchedStates? (edge : GraphEdge) : Option (List String) :=
  match edge.kind, edge.branch with
  | .branchesTo, some branch => if branch.disposition = .matched then some branch.states else none
  | _, _ => none

/-- The persisted graph with the rules of its validator. -/
structure PaymentSafetyGraphArtifact where
  projectId : ProjectId
  sourceIndexFingerprint : Sha256Digest
  graphFingerprint : Sha256Digest
  completeness : GraphCompleteness
  diagnostics : List GraphDiagnosticRecord
  nodes : List GraphNode
  edges : List GraphEdge
  /-- No two nodes share an identity. -/
  nodesUnique : (nodes.map (·.nodeId)).Nodup
  /-- No two edges share an identity. -/
  edgesUnique : (edges.map (·.edgeId)).Nodup
  /-- Every edge joins two nodes of the graph. -/
  endpoints : ∀ edge ∈ edges,
    edge.sourceNodeId ∈ nodes.map (·.nodeId) ∧ edge.targetNodeId ∈ nodes.map (·.nodeId)
  /-- A reduced coverage makes the graph partial, and nothing else does. -/
  completenessMatches : completeness = completenessFor diagnostics
  deriving DecidableEq

/-- `nodes.get`: the node with an identity.  Identities are unique in a graph, so the
dictionary of the source holds the one node found here. -/
def PaymentSafetyGraphArtifact.node? (graph : PaymentSafetyGraphArtifact)
    (nodeId : GraphNodeId) : Option GraphNode :=
  graph.nodes.find? (·.nodeId = nodeId)

namespace PaymentSafetyGraphArtifact

variable (graph : PaymentSafetyGraphArtifact)

theorem node?_eq_some {nodeId : GraphNodeId} {node : GraphNode}
    (found : graph.node? nodeId = some node) : node ∈ graph.nodes ∧ node.nodeId = nodeId :=
  ⟨List.mem_of_find?_eq_some found, by simpa using List.find?_some found⟩

/-- A node of the graph is found under its identity. -/
theorem node?_of_mem {node : GraphNode} (membership : node ∈ graph.nodes) :
    graph.node? node.nodeId = some node :=
  find?_of_distinct graph.nodesUnique membership

end PaymentSafetyGraphArtifact

end StateGuard
