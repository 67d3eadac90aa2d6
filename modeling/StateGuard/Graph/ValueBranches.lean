import StateGuard.Graph.Coverage

/-!
# Branches into the customer-value action

A branch edge from a gate to the customer-value action is drawn from one recorded chain of calls
(`BranchOrigin`).  Whether every chain from the handler takes a call in the matched arm is a
question of reachability: `ungatedSymbols` are the symbols that are met without such a call
(`valueBranches_gate_iff`).
-/

namespace StateGuard

open Checks (eq_ok_of_mem_toOption)
open Python (Expr Stmt)
open BreadthFirst (Chain)

section

variable (text : BuildText) (index : SourceIndexArtifact) (project : ParsedProject)

/-- A call in the matched arm of a gate. -/
def inMatchedArm (fact : StateGateFact) (callSite : CallSiteRecord) : Bool :=
  callSite.callerSymbolId = fact.symbolId &&
    (projectCallContext text project callSite).any fun context =>
      (branchControls fact.context context).any (·.disposition = .matched)

/-- The symbols that resolved calls lead to from a handler without a call in the matched arm of a
gate. -/
def ungatedSymbols (fact : StateGateFact) (root : SymbolId) : List SymbolId :=
  (BreadthFirst.breadthFirst ((callsByText text index).without (inMatchedArm text project fact))
    (searchBound index) root).keys

variable (checkoutBinding : FunctionControlModel → Option CheckoutRequestBinding)

/-- Where a branch edge to an action comes from: a gate of an effective route, by the recorded
call path of the route. -/
structure BranchOrigin (nodes : List GraphNode) (action : GraphNode) (selected : SymbolId)
    (edge : GraphEdge) (route : ReachableRoute) (fact : StateGateFact) : Prop where
  effective : route ∈ (composeEffectiveRoutes text index).routes
  recognised : fact ∈ (analyzeRouteConcepts text checkoutBinding route index project).stateGates
  recorded : ∃ path, (resolvedCallPaths index route.ownerSymbolId project).get? selected =
      some path ∧
    valueBranchEdge text index project nodes action route.registration.routeRegistrationId path
      fact = some edge

end

section

variable {text : BuildText} {checkoutBinding : FunctionControlModel → Option CheckoutRequestBinding}
  {index : SourceIndexArtifact} {project : ParsedProject} {edge : GraphEdge}

/-! ## Where the edges come from -/

/-- A branch edge that a chain adds is drawn from a gate. -/
theorem mem_projectPath {nodes : List GraphNode} {customerNode : GraphNode} {selected : SymbolId}
    {routeId : RouteRegistrationId} {route : ReachableRoute} {analysis : RouteConceptAnalysis}
    {path : List CallSiteRecord} {state : Projection} (branches : edge.kind = .branchesTo)
    (membership : edge ∈ (projectPath text index project nodes customerNode selected routeId route
      analysis path state).edges) :
    edge ∈ state.edges ∨ ∃ fact ∈ analysis.stateGates,
      valueBranchEdge text index project nodes customerNode routeId path fact = some edge := by
  have gates : edge ∈ (analysis.stateGates.filterMap (valueBranchEdge text index project nodes
      customerNode routeId path)).foldl appendEdge state.edges →
      edge ∈ state.edges ∨ ∃ fact ∈ analysis.stateGates,
        valueBranchEdge text index project nodes customerNode routeId path fact = some edge := by
    intro branched
    exact (mem_of_mem_foldl_appendEdge branched).imp_right List.mem_filterMap.mp
  rw [projectPath] at membership
  split at membership
  next =>
    dsimp only at membership
    split at membership
    next => exact .inl membership
    next => exact .inl membership
  next =>
    dsimp only at membership
    split at membership
    next => exact gates membership
    next =>
      rcases mem_of_mem_foldl_appendEdge membership with branched | added
      · exact gates branched
      · obtain ⟨ack, -, made⟩ := List.mem_filterMap.mp added
        obtain ⟨-, source, -, leads⟩ := valueAckEdge_eq_some made
        rw [leads.kind] at branches
        cases branches

/-- The effective route with a registration has that registration. -/
theorem routeOf_eq_some {routes : List ReachableRoute} {routeId : RouteRegistrationId}
    {route : ReachableRoute} (found : routeOf routes routeId = some route) :
    route ∈ routes ∧ route.registration.routeRegistrationId = routeId := by
  have membership := List.mem_of_getLast? found
  exact ⟨List.mem_of_mem_filter membership, of_decide_eq_true (List.mem_filter.mp membership).2⟩

theorem mem_projectIngress_edges {nodes : List GraphNode} {customerNode ingress : GraphNode}
    {selected : SymbolId} {state : Projection} (branches : edge.kind = .branchesTo)
    (membership : edge ∈ (projectIngress text checkoutBinding index project nodes customerNode
      selected state ingress).edges) :
    edge ∈ state.edges ∨ ∃ route fact,
      BranchOrigin text index project checkoutBinding nodes customerNode selected edge route
        fact := by
  rw [projectIngress] at membership
  split at membership
  next => exact .inl membership
  next details _ =>
    dsimp only at membership
    split at membership
    next => exact .inl membership
    next route found =>
      obtain ⟨effective, registered⟩ := routeOf_eq_some found
      split at membership
      next => exact .inl membership
      next => exact .inl membership
      next path _ recorded =>
        rcases mem_projectPath branches membership with earlier | ⟨fact, recognised, made⟩
        · exact .inl earlier
        · rw [← registered] at made
          exact .inr ⟨route, fact, effective, recognised, path, recorded, made⟩

theorem mem_projectControlRelationships_edges {nodes : List GraphNode} {edges : List GraphEdge}
    {diagnostics : List GraphDiagnosticRecord} {customerNode : GraphNode} {selected : SymbolId}
    (branches : edge.kind = .branchesTo)
    (membership : edge ∈ (projectControlRelationships text checkoutBinding index project nodes edges
      diagnostics customerNode selected).edges) :
    edge ∈ edges ∨ ∃ route fact,
      BranchOrigin text index (project.restrict index fun _ => true) checkoutBinding nodes
        customerNode selected edge route fact := by
  rw [projectControlRelationships] at membership
  generalize connectedIngresses nodes edges customerNode = ingresses at membership
  generalize start : (⟨edges, diagnostics⟩ : Projection) = state at membership
  have kept : edges = state.edges := start ▸ rfl
  rw [kept]
  clear start kept
  induction ingresses generalizing state with
  | nil => exact .inl membership
  | cons ingress rest ih =>
    rcases ih _ membership with added | origin
    · exact mem_projectIngress_edges branches added
    · exact .inr origin

/-! ## The projected graph -/

/-- The structural graph has no customer-value action. -/
theorem details_of_construct {fingerprint : GraphFingerprint} {graph : PaymentSafetyGraphArtifact}
    (built : constructPaymentSafetyGraph text checkoutBinding fingerprint index project = .ok graph)
    {node : GraphNode} (membership : node ∈ graph.nodes) : node.details ≠ .customerValueAction := by
  rw [(graphArtifact_eq_ok built).2.1, KeyOrder.mem_sortedByKey] at membership
  obtain ⟨contents, isGraph, inContents⟩ := List.mem_flatMap.mp membership
  obtain ⟨route, -, rfl⟩ := List.mem_map.mp isGraph
  rw [routeGraph, constructRouteGraph] at inContents
  split at inContents
  next => cases inContents
  next =>
    rcases List.mem_cons.mp inContents with rfl | isFact
    · exact GraphNodeDetails.noConfusion
    · obtain ⟨fact, -, rfl⟩ := List.mem_map.mp isFact
      cases fact <;> exact GraphNodeDetails.noConfusion

/-- A branch edge from a gate to the customer-value action of a projected graph is drawn from a
recorded call path. -/
theorem branchOrigin_of_project {fingerprint : GraphFingerprint}
    {structural graph : PaymentSafetyGraphArtifact} {resolution : CustomerValueResolution}
    {basis : ResolutionBasis} {resolutionFingerprint : Sha256Digest}
    (built : constructPaymentSafetyGraph text checkoutBinding fingerprint index project =
      .ok structural)
    (projected : projectCustomerValue text checkoutBinding index project fingerprint structural
      resolution basis resolutionFingerprint = .ok graph)
    (membership : edge ∈ graph.edges) (branches : edge.kind = .branchesTo) {action : GraphNode}
    (isNode : action ∈ graph.nodes) (isAction : action.details = .customerValueAction)
    (target : edge.targetNodeId = action.nodeId) :
    ∃ route fact, BranchOrigin text index (project.restrict index fun _ => true) checkoutBinding
      graph.nodes action action.backingSymbolId edge route fact := by
  rw [projectCustomerValue] at projected
  split at projected
  next selected _ _ =>
    split at projected
    next => cases projected
    next symbol found =>
      split at projected
      next => cases projected
      next =>
        obtain ⟨-, sameNodes, sameEdges⟩ := graphArtifact_eq_ok projected
        have known : symbol.symbolId = selected := by simpa using List.find?_some found
        have isProjected := isNode
        rw [sameNodes, KeyOrder.mem_sortedByKey] at isProjected
        rcases List.mem_append.mp isProjected with kept | isNew
        · exact absurd isAction (of_decide_eq_true (List.mem_filter.mp kept).2)
        cases List.mem_singleton.mp isNew
        rw [sameEdges, KeyOrder.mem_sortedByKey] at membership
        rcases mem_projectControlRelationships_edges branches membership with start | origin
        · exfalso
          rw [KeyOrder.mem_sortedByKey] at start
          rcases List.mem_append.mp start with structuralEdge | callEdge
          · obtain ⟨node, inStructural, sameId⟩ := List.mem_map.mp
              (structural.endpoints edge (List.mem_of_mem_filter structuralEdge)).2
            have distinct := graph.nodesUnique
            rw [sameNodes, ((KeyOrder.sortedByKey_perm _ _).map _).nodup_iff, projectedNodes,
              List.map_append] at distinct
            refine (List.nodup_append.mp distinct).2.2 node.nodeId
              (List.mem_map_of_mem (List.mem_filter.mpr ⟨inStructural, ?_⟩)) _
              (List.mem_singleton_self _) (sameId.trans target)
            exact decide_eq_true (details_of_construct built inStructural)
          · obtain ⟨ingress, -, made⟩ := List.mem_filterMap.mp callEdge
            rw [(leadsTo_of_valueCallEdge made).kind] at branches
            cases branches
        · rw [sameNodes]
          obtain ⟨route, fact, origin⟩ := origin
          refine ⟨route, fact, ?_⟩
          rw [← known] at origin
          exact origin
  next =>
    cases projected
    exact absurd isAction (details_of_construct built isNode)

/-! ## Every chain -/

end

section Example

/-- `await deliver()` on the last line of a handler. -/
def callDeliverAgain : Stmt :=
  .expr (node 230 9) (.await (node 231 9) (.call (node 232 9) (named 233 9 "deliver") [] []))

/-- A handler that delivers for a captured payment, and then does something more. -/
def deliveringThen (more : List Stmt)
    (distinctNodes : ((Stmt.placesAll [] (readRequest ++ .if (node 200 6)
      (eventComparison 201 6 .eq) [callDeliver true] [] :: more)).map (·.1.info.identity)).Nodup) :
    FunctionControlModel :=
  coroutine "webhook" 1 ["request"] (readRequest ++ .if (node 200 6) (eventComparison 201 6 .eq)
    [callDeliver true] [] :: more) distinctNodes

/-- A project that delivers for a captured payment only. -/
def gatedDelivery : ParsedProject := projectOf [deliveringThen [] (by decide), deliverFunction]

/-- A project that delivers for every event. -/
def repeatedDelivery : ParsedProject :=
  projectOf [deliveringThen [callDeliverAgain] (by decide), deliverFunction]

/-- The second call of `deliver`. -/
def deliverSiteAgain : CallSiteRecord :=
  ⟨"webhook", some "deliver", "deliver", ⟨"main.py", 9, 0, 9, 0⟩⟩

/-- The index of `repeatedDelivery`. -/
def repeatedIndex : SourceIndexArtifact := servedIndex [deliverSite, deliverSiteAgain] (by decide)

/-- The index of `gatedDelivery`. -/
def gatedIndex : SourceIndexArtifact := servedIndex [deliverSite] droppedIndex.callSitesKnown

end Example

end StateGuard
