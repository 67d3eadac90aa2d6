import StateGuard.Applicability.Policy
import StateGuard.Graph.Construction

/-!
# Projection of the customer-value action

The selected customer-value action becomes a node of the graph, with an edge from every ingress
that reaches it by resolved calls.  What is known of the way to it comes from one chain of calls,
the recorded call path of the ingress: a gate whose matched arm holds a call of the chain gets a
branch edge to the action (`valueBranchEdge`), an acknowledgement that the call of the handler
dominates gets an edge too (`valueAckEdge`).  Where a call of the chain may not run its callee,
nothing is said but a diagnostic (`executionGapDiagnostic`).
-/

namespace StateGuard

open Python

inductive ResolutionBasis where
  | modelUnique | humanConfirmed | manualSelection | unresolved
  deriving DecidableEq, Repr

def ResolutionBasis.value : ResolutionBasis → String
  | .modelUnique => "MODEL_UNIQUE"
  | .humanConfirmed => "HUMAN_CONFIRMED"
  | .manualSelection => "MANUAL_SELECTION"
  | .unresolved => "UNRESOLVED"

/-- The indexed symbol with an identity. -/
def symbol? (index : SourceIndexArtifact) (symbolId : SymbolId) : Option SymbolRecord :=
  index.symbols.find? (·.symbolId = symbolId)

/-! ## Calls that run -/

/-- The parent of a node. -/
def parentOf (model : FunctionControlModel) (info : NodeInfo) : Option Node :=
  model.nodes.find? fun parent =>
    parent.children.any fun child => child.info?.any (·.identity = info.identity)

/-- A statement that evaluates an expression for its value, or for nothing. -/
def directOwner (info : NodeInfo) : Node → Bool
  | .stmt (.expr _ value) | .stmt (.assign _ _ value) => value.info.identity = info.identity
  | .stmt (.annAssign _ _ _ value) | .stmt (.return _ value) =>
    value.any (·.info.identity = info.identity)
  | _ => false

/-- `_direct_execution_proven`: a call of a function, or an awaited call of a coroutine, that
stands on its own in a statement. -/
def directExecutionProven (index : SourceIndexArtifact) (project : ParsedProject)
    (callSite : CallSiteRecord) : Bool :=
  match callSite.calleeSymbolId.bind (symbol? index), project.function? callSite.callerSymbolId with
  | some symbol, some model =>
    match callNode model callSite with
    | none => false
    | some call =>
      match symbol.kind with
      | .asyncFunction | .asyncMethod =>
        match parentOf model call.info with
        | some (.expr (.await info value)) =>
          value.isSame call && (parentOf model info).any (directOwner info)
        | _ => false
      | .function | .method => (parentOf model call.info).any (directOwner call.info)
      | .classDef | .module => false
  | _, _ => false

/-- `_path_execution_gap`. -/
def pathExecutionGap (index : SourceIndexArtifact) (project : ParsedProject)
    (path : List CallSiteRecord) : Option CallSiteRecord :=
  path.find? fun callSite => !directExecutionProven index project callSite

section

variable (text : BuildText) (index : SourceIndexArtifact) (project : ParsedProject)

/-! ## The way to the action -/

/-- `_call_context`, in the parsed project. -/
def projectCallContext (callSite : CallSiteRecord) : Option StatementContext :=
  (project.function? callSite.callerSymbolId).bind (callContext text · callSite)

/-- `_controlled_path_context`: the first call of a chain that is in an arm of a gate. -/
def controlledPathContext (fact : StateGateFact) :
    List CallSiteRecord → Option (StatementContext × BranchDisposition)
  | [] => none
  | callSite :: rest =>
    if callSite.callerSymbolId ≠ fact.symbolId then controlledPathContext fact rest
    else
      match projectCallContext text project callSite with
      | none => none
      | some context =>
        match branchControls fact.context context with
        | some branch => some (context, branch.disposition)
        | none => controlledPathContext fact rest

/-- `_route_call_context`. -/
def routeCallContext (routeOwner : SymbolId) (path : List CallSiteRecord) :
    Option StatementContext :=
  (path.find? (·.callerSymbolId = routeOwner)).bind (projectCallContext text project)

/-- `_work_precedes_ack`. -/
def workPrecedesAck (work : StatementContext) (ack : AcknowledgementFact) (routeOwner : SymbolId) :
    Bool :=
  match ack.context with
  | some context => contextDominates work context
  | none => work.symbolId = routeOwner && work.ancestors.isEmpty

/-- `_static_relationship_provenance`. -/
def relationshipProvenance (reference : String) (context : StatementContext)
    (path : List CallSiteRecord) : List ProvenanceRecord :=
  orderedProvenance text
    (provenance index reference ((symbol? index context.symbolId).map fun symbol =>
        sourceLocation symbol.sourceLocation.path (some context.node.info)) ::
      pathProvenance text index path)

/-! ## Edges to the action -/

/-- The node of a gate among some nodes. -/
def stateNode? (nodes : List GraphNode) (routeId : RouteRegistrationId) (anchor : String) :
    Option GraphNode :=
  (nodes.filter fun node => node.stateGate?.any fun details =>
    details.routeRegistrationId = routeId && details.structuralAnchor = anchor).getLast?

/-- The node of an acknowledgement among some nodes. -/
def ackNode? (nodes : List GraphNode) (routeId : RouteRegistrationId) (anchor : String) :
    Option GraphNode :=
  (nodes.filter fun node => node.acknowledgement?.any fun details =>
    details.routeRegistrationId = routeId && details.structuralAnchor = anchor).getLast?

variable (nodes : List GraphNode) (customerNode : GraphNode) (routeId : RouteRegistrationId)
  (path : List CallSiteRecord)

/-- The branch edge of a gate to the action. -/
def valueBranchEdge (fact : StateGateFact) : Option GraphEdge :=
  match controlledPathContext text project fact path with
  | some (context, .matched) =>
    (stateNode? nodes routeId fact.context.anchor).map fun source =>
      let branch : GraphBranchDetails := { disposition := .matched, states := fact.states }
      { edgeId := text.graphEdgeId GraphEdgeKind.branchesTo.value source.nodeId customerNode.nodeId
          (text.branchJson branch)
        sourceNodeId := source.nodeId
        targetNodeId := customerNode.nodeId
        kind := .branchesTo
        branch := some branch
        provenance := relationshipProvenance text index
          ("ast-fact:PAYMENT_STATE_BRANCH_CONTROL:customer-value:" ++ fact.context.anchor)
          context path
        branchOnlyOnBranches := by simp }
  | _ => none

/-- The edge of an acknowledgement that comes after the action. -/
def valueAckEdge (routeOwner : SymbolId) (work : StatementContext) (fact : AcknowledgementFact) :
    Option GraphEdge :=
  if workPrecedesAck work fact routeOwner then
    (ackNode? nodes routeId fact.anchor).map fun source =>
      { edgeId := text.graphEdgeId GraphEdgeKind.acknowledgesAfter.value source.nodeId
          customerNode.nodeId ""
        sourceNodeId := source.nodeId
        targetNodeId := customerNode.nodeId
        kind := .acknowledgesAfter
        branch := none
        provenance := relationshipProvenance text index
          ("ast-fact:EXIT_DOMINANCE:customer-value:" ++ fact.anchor) work path
        branchOnlyOnBranches := GraphEdgeKind.acknowledgesAfter_unbranched }
  else none

/-- A call of the chain that may not run its callee. -/
def executionGapDiagnostic (selected : SymbolId) (gap : CallSiteRecord) : GraphDiagnosticRecord :=
  { code := .unresolvedStructuralCandidate
    impact := .coverageReduced
    candidateKind := some .customerValueExecution
    reason := some .executionSemanticsUnproven
    symbolId := some selected
    routeRegistrationId := some routeId
    sourceLocation := some gap.sourceLocation }

end

section

variable (text : BuildText) (checkoutBinding : FunctionControlModel → Option CheckoutRequestBinding)
  (index : SourceIndexArtifact) (project : ParsedProject)

/-! ## The projection -/

/-- The edges and the diagnostics of a projection. -/
structure Projection where
  edges : List GraphEdge
  diagnostics : List GraphDiagnosticRecord

/-- The effective route with a registration. -/
def routeOf (routes : List ReachableRoute) (routeId : RouteRegistrationId) :
    Option ReachableRoute :=
  (routes.filter (·.registration.routeRegistrationId = routeId)).getLast?

/-- What one chain says about an ingress. -/
def projectPath (nodes : List GraphNode) (customerNode : GraphNode) (selected : SymbolId)
    (routeId : RouteRegistrationId) (route : ReachableRoute) (analysis : RouteConceptAnalysis)
    (path : List CallSiteRecord) (state : Projection) : Projection :=
  match pathExecutionGap index project path with
  | some gap =>
    let diagnostic := executionGapDiagnostic routeId selected gap
    if diagnostic ∈ state.diagnostics then state
    else { state with diagnostics := state.diagnostics ++ [diagnostic] }
  | none =>
    let branched := (analysis.stateGates.filterMap
      (valueBranchEdge text index project nodes customerNode routeId path)).foldl appendEdge
        state.edges
    match routeCallContext text project route.ownerSymbolId path with
    | none => { state with edges := branched }
    | some work =>
      { state with
        edges := (analysis.acknowledgements.filterMap (valueAckEdge text index nodes customerNode
          routeId path route.ownerSymbolId work)).foldl appendEdge branched }

/-- What one ingress adds to the projection. -/
def projectIngress (nodes : List GraphNode) (customerNode : GraphNode) (selected : SymbolId)
    (state : Projection) (ingress : GraphNode) : Projection :=
  match ingress.ingress? with
  | none => state
  | some details =>
    let routeId := details.registration.routeRegistrationId
    match routeOf (composeEffectiveRoutes text index).routes routeId with
    | none => state
    | some route =>
      let analysis := analyzeRouteConcepts text checkoutBinding route index project
      match analysis.callPaths.get? selected with
      | none | some [] => state
      | some path =>
        projectPath text index project nodes customerNode selected routeId route analysis path state

/-- The ingresses with a call edge to the action. -/
def connectedIngresses (nodes : List GraphNode) (edges : List GraphEdge)
    (customerNode : GraphNode) : List GraphNode :=
  nodes.filter fun node => node.ingress?.isSome ∧ ∃ edge ∈ edges,
    edge.kind = .calls ∧ edge.sourceNodeId = node.nodeId ∧ edge.targetNodeId = customerNode.nodeId

/-- `_project_control_relationships`, before the records are put in order. -/
def projectControlRelationships (nodes : List GraphNode) (edges : List GraphEdge)
    (diagnostics : List GraphDiagnosticRecord) (customerNode : GraphNode) (selected : SymbolId) :
    Projection :=
  (connectedIngresses nodes edges customerNode).foldl
    (projectIngress text checkoutBinding index (project.restrict index fun _ => true) nodes
      customerNode selected)
    ⟨edges, diagnostics⟩

/-- The node of the customer-value action. -/
def customerValueNode (symbol : SymbolRecord) (basis : ResolutionBasis)
    (resolutionFingerprint : Sha256Digest) : GraphNode where
  nodeId := text.graphNodeId "CUSTOMER_VALUE_ACTION" symbol.symbolId ""
  label := symbol.qualifiedName
  backingSymbolId := symbol.symbolId
  details := .customerValueAction
  provenance :=
    [{ kind := if basis = .modelUnique then .aiInferred else .humanConfirmed
       reference := "customer-value-resolution:" ++ basis.value
       sourceLocation := some symbol.sourceLocation
       supportingFingerprint := some resolutionFingerprint }]

/-- `_semantic_call_edge_discriminator`. -/
def semanticCallEdgeDiscriminator (records : List ProvenanceRecord) : String :=
  "[" ++ String.intercalate "," (records.map (text.quote ·.reference)) ++ "]"

/-- The call edge of an ingress to the action. -/
def valueCallEdge (customerNode : GraphNode) (selected : SymbolId) (ingress : GraphNode) :
    Option GraphEdge :=
  match resolvedPath text index ingress.backingSymbolId selected with
  | none | some [] => none
  | some path =>
    let records := pathProvenance text index path
    some
      { edgeId := text.graphEdgeId GraphEdgeKind.calls.value ingress.nodeId customerNode.nodeId
          (semanticCallEdgeDiscriminator text records)
        sourceNodeId := ingress.nodeId
        targetNodeId := customerNode.nodeId
        kind := .calls
        branch := none
        provenance := records
        branchOnlyOnBranches := GraphEdgeKind.calls_unbranched }

/-- The nodes of the projected graph. -/
def projectedNodes (structural : PaymentSafetyGraphArtifact) (customerNode : GraphNode) :
    List GraphNode :=
  structural.nodes.filter (·.details ≠ .customerValueAction) ++ [customerNode]

/-- The edges of the structural graph that are kept, and the call edges to the action. -/
def projectedEdges (structural : PaymentSafetyGraphArtifact) (customerNode : GraphNode)
    (selected : SymbolId) : List GraphEdge :=
  let nodes := projectedNodes structural customerNode
  let kept := structural.edges.filter fun edge =>
    edge.sourceNodeId ∈ nodes.map (·.nodeId) ∧ edge.targetNodeId ∈ nodes.map (·.nodeId)
  kept ++ (KeyOrder.sortedByKey (·.nodeId) (nodes.filter (·.ingress?.isSome))).filterMap
    (valueCallEdge text index customerNode selected)

/-- What the control relationships are projected on. -/
def projectionOf (structural : PaymentSafetyGraphArtifact) (customerNode : GraphNode)
    (selected : SymbolId) : Projection :=
  projectControlRelationships text checkoutBinding index project
    (KeyOrder.sortedByKey text.nodeJson (projectedNodes structural customerNode))
    (KeyOrder.sortedByKey text.edgeJson (projectedEdges text index structural customerNode selected))
    structural.diagnostics customerNode selected

/-- `project_customer_value`, with a repository. -/
def projectCustomerValue (fingerprint : GraphFingerprint) (structural : PaymentSafetyGraphArtifact)
    (resolution : CustomerValueResolution) (basis : ResolutionBasis)
    (resolutionFingerprint : Sha256Digest) : Except String PaymentSafetyGraphArtifact :=
  match resolution.state, resolution.selectedSymbolId with
  | .unique, some selected =>
    match symbol? index selected with
    | none => .error "semantic target does not exist in the current Source Index"
    | some symbol =>
      if selected ∈ index.routes.map (·.ownerSymbolId) ∨ symbol.kind.callable = false then
        .error "semantic target must be a non-route function or method"
      else
        let customerNode := customerValueNode text symbol basis resolutionFingerprint
        let projection := projectionOf text checkoutBinding index project structural customerNode
          selected
        graphArtifact fingerprint structural.projectId structural.sourceIndexFingerprint
          (KeyOrder.sortedByKey text.diagnosticJson projection.diagnostics)
          (KeyOrder.sortedByKey text.nodeJson (projectedNodes structural customerNode))
          (KeyOrder.sortedByKey text.edgeJson projection.edges)
  | _, _ => .ok structural

end

/-! ## What leads to the action -/

section

variable {text : BuildText} {index : SourceIndexArtifact} {project : ParsedProject}
  {nodes : List GraphNode} {customerNode : GraphNode} {routeId : RouteRegistrationId}
  {path : List CallSiteRecord} {edge : GraphEdge}

/-- An edge from a node to the action, with the identity of such an edge. -/
structure LeadsTo (text : BuildText) (customerNode node : GraphNode) (edgeKind : GraphEdgeKind)
    (edge : GraphEdge) : Prop where
  kind : edge.kind = edgeKind
  source : edge.sourceNodeId = node.nodeId
  target : edge.targetNodeId = customerNode.nodeId
  identity : ∃ discriminator, edge.edgeId = text.graphEdgeId edgeKind.value node.nodeId
    customerNode.nodeId discriminator

theorem valueBranchEdge_eq_some {fact : StateGateFact}
    (made : valueBranchEdge text index project nodes customerNode routeId path fact = some edge) :
    ∃ source, stateNode? nodes routeId fact.context.anchor = some source ∧
      LeadsTo text customerNode source .branchesTo edge := by
  rw [valueBranchEdge] at made
  split at made
  next =>
    obtain ⟨source, found, rfl⟩ := Option.map_eq_some_iff.mp made
    exact ⟨source, found, rfl, rfl, rfl, _, rfl⟩
  next => cases made

theorem valueAckEdge_eq_some {routeOwner : SymbolId} {work : StatementContext}
    {fact : AcknowledgementFact}
    (made : valueAckEdge text index nodes customerNode routeId path routeOwner work fact =
      some edge) :
    workPrecedesAck work fact routeOwner = true ∧
      ∃ source, ackNode? nodes routeId fact.anchor = some source ∧
        LeadsTo text customerNode source .acknowledgesAfter edge := by
  rw [valueAckEdge] at made
  split at made
  next precedes =>
    obtain ⟨source, found, rfl⟩ := Option.map_eq_some_iff.mp made
    exact ⟨precedes, source, found, rfl, rfl, rfl, _, rfl⟩
  next => cases made

theorem leadsTo_of_valueCallEdge {selected : SymbolId} {ingress : GraphNode}
    (made : valueCallEdge text index customerNode selected ingress = some edge) :
    LeadsTo text customerNode ingress .calls edge := by
  rw [valueCallEdge] at made
  split at made
  next => cases made
  next => cases made
  next =>
    cases made
    exact ⟨rfl, rfl, rfl, _, rfl⟩

end

end StateGuard
