import StateGuard.Graph.Reachability
import StateGuard.Graph.Service

/-!
# The payment-safety graph of a project

The graph of a source index: the graphs of the effective routes of the selected application,
put in order, with the diagnostics of the route composition and of the index.  The record that
holds it checks itself (`graphArtifact`); what it checks of the identities is a theorem about the
recognised facts, not an assumption.

Where no application is selected, the routes of the index are only looked at
(`unselectedRouteCandidateDiagnostics`).
-/

namespace StateGuard

open Checks

/-! ## The record -/

namespace GraphNodeDetails

/-- The kinds of nodes that call. -/
def caller : GraphNodeDetails → Bool
  | .paymentIngress _ | .trustGate _ | .eventIdentityGuard _ | .paymentStateGate _
  | .merchantStateMutation _ => true
  | _ => false

/-- The kinds of nodes that are called, guarded and acknowledged. -/
def called : GraphNodeDetails → Bool
  | .paymentIngress _ | .acknowledgementBoundary _ => false
  | _ => true

/-- The kinds of nodes that guard. -/
def guard : GraphNodeDetails → Bool
  | .trustGate _ | .eventIdentityGuard _ => true
  | _ => false

def stateGate : GraphNodeDetails → Bool
  | .paymentStateGate _ => true
  | _ => false

def mutation : GraphNodeDetails → Bool
  | .merchantStateMutation _ => true
  | _ => false

def acknowledgement : GraphNodeDetails → Bool
  | .acknowledgementBoundary _ => true
  | _ => false

def customerValue : GraphNodeDetails → Bool
  | .customerValueAction => true
  | _ => false

end GraphNodeDetails

/-- Whether an edge may join two kinds of nodes. -/
def GraphEdgeKind.joins (source target : GraphNodeDetails) : GraphEdgeKind → Bool
  | .calls => source.caller && target.called
  | .guards => source.guard && target.called
  | .branchesTo => source.stateGate && (target.called || target.acknowledgement)
  | .acknowledgesAfter => source.acknowledgement && target.called
  | .mutates => source.customerValue && target.mutation
  | .triggers => (source.stateGate || source.mutation) && target.customerValue

/-- The message of a wrong kind of edge. -/
def orientationMessage (kind : GraphEdgeKind) : String :=
  kind.value ++ " edge has invalid node-kind orientation"

/-- The node with an identity among some nodes. -/
def nodeById (nodes : List GraphNode) (nodeId : GraphNodeId) : Option GraphNode :=
  nodes.find? (·.nodeId = nodeId)

/-- What `validate_graph` checks of one edge. -/
def validateEdge (nodes : List GraphNode) (edge : GraphEdge) : Except String Unit :=
  match nodeById nodes edge.sourceNodeId, nodeById nodes edge.targetNodeId with
  | some source, some target =>
    raiseIf (edge.kind.joins source.details target.details = false) (orientationMessage edge.kind)
  | _, _ => .error "graph edge endpoints must refer to existing nodes"

theorem mem_of_nodeById {nodes : List GraphNode} {nodeId : GraphNodeId} {node : GraphNode}
    (found : nodeById nodes nodeId = some node) : nodeId ∈ nodes.map (·.nodeId) := by
  have same : node.nodeId = nodeId := by simpa using List.find?_some found
  rw [← same]
  exact List.mem_map_of_mem (List.mem_of_find?_eq_some found)

/-- A valid edge joins two nodes. -/
theorem endpoints_of_validateEdge {nodes : List GraphNode} {edge : GraphEdge}
    (valid : validateEdge nodes edge = .ok ()) :
    edge.sourceNodeId ∈ nodes.map (·.nodeId) ∧ edge.targetNodeId ∈ nodes.map (·.nodeId) := by
  rw [validateEdge] at valid
  split at valid
  next source target atSource atTarget =>
    exact ⟨mem_of_nodeById atSource, mem_of_nodeById atTarget⟩
  next => cases valid

/-- The fingerprint of the contents of a graph. -/
abbrev GraphFingerprint :=
  ProjectId → Sha256Digest → GraphCompleteness → List GraphDiagnosticRecord → List GraphNode →
    List GraphEdge → Sha256Digest

/-- The record of a graph, as its validator admits it. -/
def graphArtifact (fingerprint : GraphFingerprint) (projectId : ProjectId)
    (sourceIndexFingerprint : Sha256Digest) (diagnostics : List GraphDiagnosticRecord)
    (nodes : List GraphNode) (edges : List GraphEdge) : Except String PaymentSafetyGraphArtifact :=
  let completeness := completenessFor diagnostics
  if nodesUnique : (nodes.map (·.nodeId)).Nodup then
    if edgesUnique : (edges.map (·.edgeId)).Nodup then
      match valid : forEach (validateEdge nodes) edges with
      | .ok () => .ok
          { projectId := projectId
            sourceIndexFingerprint := sourceIndexFingerprint
            graphFingerprint := fingerprint projectId sourceIndexFingerprint completeness
              diagnostics nodes edges
            completeness := completeness
            diagnostics := diagnostics
            nodes := nodes
            edges := edges
            nodesUnique := nodesUnique
            edgesUnique := edgesUnique
            endpoints := fun edge membership =>
              endpoints_of_validateEdge ((forEach_eq_ok _ _ _).mp valid edge membership)
            completenessMatches := rfl }
      | .error message => .error message
    else .error "graph edge IDs must be unique"
  else .error "graph node IDs must be unique"

/-- A graph record has the contents it is made of. -/
theorem graphArtifact_eq_ok {fingerprint : GraphFingerprint} {projectId : ProjectId}
    {sourceIndexFingerprint : Sha256Digest} {diagnostics : List GraphDiagnosticRecord}
    {nodes : List GraphNode} {edges : List GraphEdge} {graph : PaymentSafetyGraphArtifact}
    (built : graphArtifact fingerprint projectId sourceIndexFingerprint diagnostics nodes edges =
      .ok graph) :
    graph.diagnostics = diagnostics ∧ graph.nodes = nodes ∧ graph.edges = edges := by
  rw [graphArtifact] at built
  split at built
  next =>
    split at built
    next =>
      split at built
      next =>
        cases built
        exact ⟨rfl, rfl, rfl⟩
      next => cases built
    next => cases built
  next => cases built

/-! ## The functions that are parsed -/

/-- One step of `_reachable_symbol_ids`: the callees of the symbol on top of the stack. -/
def reachSymbols (index : SourceIndexArtifact) :
    Nat → List SymbolId → List SymbolId → List SymbolId
  | 0, result, _ => result
  | _ + 1, result, [] => result
  | fuel + 1, result, current :: pending =>
    let step := (resolvedCalls index current).foldl
      (fun state call => if call.callee ∈ state.1 then state
        else (state.1 ++ [call.callee], call.callee :: state.2)) (result, pending)
    reachSymbols index fuel step.1 step.2

/-- `_reachable_symbol_ids`. -/
def reachableSymbolIds (index : SourceIndexArtifact) (roots : List SymbolId) : List SymbolId :=
  reachSymbols index (roots.length + index.symbols.length) roots.dedup roots.dedup.reverse

section

variable (text : BuildText)

/-! ## Unselected applications -/

/-- The origins that make a handler look like a webhook. -/
def webhookOrigins : List ValueOrigin := [.webhookSignature, .webhookEventId, .paymentEventSelector]

/-- The origins that make a handler look like a checkout callback. -/
def checkoutReturnOrigins : List ValueOrigin :=
  [.checkoutPaymentId, .clientReturnedOrderId, .checkoutSignature]

/-- What a handler of no selected application looks like. -/
def unselectedRouteCandidate (index : SourceIndexArtifact) (project : ParsedProject)
    (route : RouteRecord) : Option GraphDiagnosticRecord :=
  let models := routeModels text (resolvedCallPaths index route.ownerSymbolId project) project
  let strings := models.flatMap fun entry => allStrings text (.stmt entry.2.function.stmt)
  let origins := models.flatMap fun entry => entry.2.nameOrigins.values
  let webhook := strings.any (fun value => value = "x-razorpay-signature" ||
    value = "x-razorpay-event-id" || value ∈ paymentEvents) || origins.any (· ∈ webhookOrigins)
  let checkout := strings.any (· ∈ checkoutIdentifiers) || origins.any (· ∈ checkoutReturnOrigins)
  if webhook = true ∨ checkout = true then
    some
      { code := .unresolvedStructuralCandidate
        impact := .notice
        candidateKind := some (if webhook then .webhookIngress else .checkoutCallbackIngress)
        reason := some .insufficientConvergingEvidence
        symbolId := some route.ownerSymbolId
        sourceLocation := some route.sourceLocation }
  else none

/-- The first route of every parsed handler. -/
def firstRoutes (project : ParsedProject) : List SymbolId → List RouteRecord → List RouteRecord
  | _, [] => []
  | seen, route :: rest =>
    if route.ownerSymbolId ∈ seen ∨ (project.function? route.ownerSymbolId).isNone then
      firstRoutes project seen rest
    else route :: firstRoutes project (route.ownerSymbolId :: seen) rest

/-- `unselected_route_candidate_diagnostics`. -/
def unselectedRouteCandidateDiagnostics (index : SourceIndexArtifact) (project : ParsedProject) :
    List GraphDiagnosticRecord :=
  (firstRoutes project [] index.routes).filterMap (unselectedRouteCandidate text index project)

/-! ## The graph -/

variable (checkoutBinding : FunctionControlModel → Option CheckoutRequestBinding)

/-- What one effective route adds to the graph. -/
def routeGraph (index : SourceIndexArtifact) (project : ParsedProject) (route : ReachableRoute) :
    RouteGraph :=
  constructRouteGraph text index route
    (analyzeRouteConcepts text checkoutBinding route index project)

/-- The index left something out. -/
def indexDiagnostics (index : SourceIndexArtifact) : List GraphDiagnosticRecord :=
  if index.completeness = .partialIndex then
    [{ code := .upstreamSourceIndexPartial, impact := .coverageReduced }]
  else []

/-- Whether no application is selected. -/
def appUnselected (reachability : ReachabilityResult) : Bool :=
  reachability.diagnostics.any (·.code = .appTargetUnselected)

/-- The functions the graph build parses. -/
def parsedFunctions (index : SourceIndexArtifact) (project : ParsedProject) : ParsedProject :=
  let reachability := composeEffectiveRoutes text index
  let roots := reachability.routes.map (·.ownerSymbolId)
  let candidateRoots :=
    if appUnselected reachability then index.routes.map (·.ownerSymbolId) else []
  project.restrict index (· ∈ reachableSymbolIds index (roots ++ candidateRoots))

/-- The graphs of the effective routes. -/
def routeGraphs (index : SourceIndexArtifact) (project : ParsedProject) : List RouteGraph :=
  (composeEffectiveRoutes text index).routes.map
    (routeGraph text checkoutBinding index (parsedFunctions text index project))

/-- The diagnostics of the graph build. -/
def graphDiagnostics (index : SourceIndexArtifact) (project : ParsedProject) :
    List GraphDiagnosticRecord :=
  let reachability := composeEffectiveRoutes text index
  reachability.diagnostics ++ indexDiagnostics index ++
    (routeGraphs text checkoutBinding index project).flatMap (·.diagnostics) ++
    (if appUnselected reachability then
      unselectedRouteCandidateDiagnostics text index (parsedFunctions text index project)
    else [])

/-- `construct_payment_safety_graph`. -/
def constructPaymentSafetyGraph (fingerprint : GraphFingerprint) (index : SourceIndexArtifact)
    (project : ParsedProject) : Except String PaymentSafetyGraphArtifact :=
  let graphs := routeGraphs text checkoutBinding index project
  graphArtifact fingerprint index.projectId index.sourceIndexFingerprint
    (KeyOrder.sortedByKey text.diagnosticJson (graphDiagnostics text checkoutBinding index project))
    (KeyOrder.sortedByKey text.nodeJson (graphs.flatMap (·.nodes)))
    (KeyOrder.sortedByKey text.edgeJson (graphs.flatMap (·.edges)))

/-- A constructed graph holds the diagnostics of the build. -/
theorem mem_diagnostics_of_construct {fingerprint : GraphFingerprint} {index : SourceIndexArtifact}
    {project : ParsedProject} {graph : PaymentSafetyGraphArtifact}
    (built : constructPaymentSafetyGraph text checkoutBinding fingerprint index project = .ok graph)
    (diagnostic : GraphDiagnosticRecord) :
    diagnostic ∈ graph.diagnostics ↔
      diagnostic ∈ graphDiagnostics text checkoutBinding index project := by
  rw [(graphArtifact_eq_ok built).1, KeyOrder.mem_sortedByKey]

end

end StateGuard
