import StateGuard.Runtime.Planning

/-!
# The plan agrees with the engine

The plan looks at the graph again and finds what the engine found: the mutations of a trust
scenario (`mem_expectedCaptured`, `mem_expectedProtected`).  It does so on the graphs in which no
route has two ingresses (`RoutesCovered`) and a branch that admits a captured payment leaves a gate
that names the state (`CapturedGates`).
-/

namespace StateGuard

open Checks KeyOrder

/-! ## The graphs -/

/-- What `validate_graph` checks of the edges. -/
def StructurallyValid (graph : PaymentSafetyGraphArtifact) : Prop :=
  ∀ edge ∈ graph.edges, validateEdge graph.nodes edge = .ok ()

instance (graph : PaymentSafetyGraphArtifact) : Decidable (StructurallyValid graph) :=
  inferInstanceAs (Decidable (∀ _ ∈ _, _))

/-- The routes of the ingresses. -/
def ingressRoutes (graph : PaymentSafetyGraphArtifact) : List RouteRegistrationId :=
  (graph.nodes.filterMap (·.ingress?)).map (·.registration.routeRegistrationId)

/-- The routes of the mutations and acknowledgements. -/
def trackedRoutes (graph : PaymentSafetyGraphArtifact) : List RouteRegistrationId :=
  (mutationNodes graph).map (·.2.routeRegistrationId) ++
    (acknowledgementNodes graph).map (·.2.routeRegistrationId)

/-- No route has two ingresses, and the route of a mutation or an acknowledgement has one. -/
structure RoutesCovered (graph : PaymentSafetyGraphArtifact) : Prop where
  distinct : (ingressRoutes graph).Nodup
  covered : ∀ routeId ∈ trackedRoutes graph, routeId ∈ ingressRoutes graph

/-- A branch that admits a captured payment leaves a gate that names the state. -/
def CapturedGates (graph : PaymentSafetyGraphArtifact) : Prop :=
  ∀ edge ∈ graph.edges, CapturedBranch edge → ∀ gate ∈ (graph.node? edge.sourceNodeId).toList,
    ∀ details ∈ gate.stateGate?.toList, "captured" ∈ details.states.map paymentState

instance (graph : PaymentSafetyGraphArtifact) : Decidable (CapturedGates graph) :=
  inferInstanceAs (Decidable (∀ _ ∈ _, _ → ∀ _ ∈ _, ∀ _ ∈ _, _))

section

variable {graph : PaymentSafetyGraphArtifact}

/-! ## Bindings -/

theorem mem_ingressBindings {binding : IngressRuntimeBinding} :
    binding ∈ ingressBindings graph ↔
      ∃ node ∈ graph.nodes, ∃ details, node.ingress? = some details ∧
        bindingOf node details = binding := by
  rw [ingressBindings, mem_sortedByKey, List.mem_filterMap]
  simp only [Option.map_eq_some_iff]

/-- The routes of the bindings are the routes of the ingresses. -/
theorem ingressBindings_routes :
    ((ingressBindings graph).map (·.routeRegistrationId)).Perm (ingressRoutes graph) := by
  refine ((sortedByKey_perm _ _).map _).trans (List.Perm.of_eq ?_)
  rw [ingressRoutes, List.map_filterMap, List.map_filterMap]
  refine List.filterMap_congr fun node _ => ?_
  cases node.ingress? <;> rfl

/-- An ingress is bound under its identity. -/
theorem bindingByNode_of_ingress {node : GraphNode} (membership : node ∈ graph.nodes)
    {details : PaymentIngressDetails} (isIngress : node.ingress? = some details) :
    bindingByNode graph node.nodeId = some (bindingOf node details) := by
  have bound : bindingOf node details ∈ ingressBindings graph :=
    mem_ingressBindings.mpr ⟨node, membership, details, isIngress, rfl⟩
  cases found : bindingByNode graph node.nodeId with
  | none =>
    have missing := List.find?_eq_none.mp found _ bound
    simp [bindingOf] at missing
  | some binding =>
    rw [bindingByNode] at found
    obtain ⟨other, isNode, otherDetails, otherIngress, rfl⟩ :=
      mem_ingressBindings.mp (List.mem_of_find?_eq_some found)
    have key := List.find?_some found
    have same : other.nodeId = node.nodeId := of_decide_eq_true key
    have unique : other = node := by
      have there := graph.node?_of_mem isNode
      rw [same, graph.node?_of_mem membership] at there
      exact (Option.some.inj there).symm
    subst unique
    rw [isIngress] at otherIngress
    cases otherIngress
    rfl

/-- A route with an ingress is bound to it. -/
theorem bindingByRoute_of_ingress (covered : RoutesCovered graph) {node : GraphNode}
    (membership : node ∈ graph.nodes) {details : PaymentIngressDetails}
    (isIngress : node.ingress? = some details) :
    bindingByRoute graph details.registration.routeRegistrationId =
      some (bindingOf node details) := by
  have distinct := ingressBindings_routes.nodup_iff.mpr covered.distinct
  exact find?_of_distinct distinct
    (mem_ingressBindings.mpr ⟨node, membership, details, isIngress, rfl⟩)

/-- A route that is tracked is bound. -/
theorem exists_bindingByRoute (covered : RoutesCovered graph) {routeId : RouteRegistrationId}
    (tracked : routeId ∈ trackedRoutes graph) :
    ∃ node ∈ graph.nodes, ∃ details, node.ingress? = some details ∧
      details.registration.routeRegistrationId = routeId ∧
      bindingByRoute graph routeId = some (bindingOf node details) := by
  obtain ⟨details, listed, rfl⟩ := List.mem_map.mp (covered.covered routeId tracked)
  obtain ⟨node, membership, isIngress⟩ := List.mem_filterMap.mp listed
  exact ⟨node, membership, details, isIngress, rfl,
    bindingByRoute_of_ingress covered membership isIngress⟩

/-! ## Mutations and acknowledgements -/

theorem mem_mutationNodes {entry : GraphNode × MerchantStateMutationDetails} :
    entry ∈ mutationNodes graph ↔ entry.1 ∈ graph.nodes ∧ entry.1.mutation? = some entry.2 := by
  rw [mutationNodes, List.mem_filterMap]
  constructor
  · rintro ⟨node, membership, made⟩
    obtain ⟨details, isMutation, rfl⟩ := Option.map_eq_some_iff.mp made
    exact ⟨membership, isMutation⟩
  · rintro ⟨membership, isMutation⟩
    exact ⟨entry.1, membership, by rw [isMutation]; rfl⟩

theorem mem_acknowledgementNodes {entry : GraphNode × AcknowledgementBoundaryDetails} :
    entry ∈ acknowledgementNodes graph ↔
      entry.1 ∈ graph.nodes ∧ entry.1.acknowledgement? = some entry.2 := by
  rw [acknowledgementNodes, List.mem_filterMap]
  constructor
  · rintro ⟨node, membership, made⟩
    obtain ⟨details, isAcknowledgement, rfl⟩ := Option.map_eq_some_iff.mp made
    exact ⟨membership, isAcknowledgement⟩
  · rintro ⟨membership, isAcknowledgement⟩
    exact ⟨entry.1, membership, by rw [isAcknowledgement]; rfl⟩

/-- The mutations of a route, looked up by their identity. -/
theorem mem_mutationIdsByRoute {routeId : RouteRegistrationId} {nodeId : GraphNodeId} :
    nodeId ∈ mutationIdsByRoute graph routeId ↔
      ∃ node, graph.node? nodeId = some node ∧ ∃ details, node.mutation? = some details ∧
        details.routeRegistrationId = routeId := by
  rw [mutationIdsByRoute, List.mem_map]
  constructor
  · rintro ⟨⟨node, details⟩, listed, rfl⟩
    obtain ⟨isEntry, sameRoute⟩ := List.mem_filter.mp listed
    obtain ⟨membership, isMutation⟩ := mem_mutationNodes.mp isEntry
    exact ⟨node, graph.node?_of_mem membership, details, isMutation, of_decide_eq_true sameRoute⟩
  · rintro ⟨node, found, details, isMutation, rfl⟩
    obtain ⟨membership, sameId⟩ := graph.node?_eq_some found
    refine ⟨(node, details), List.mem_filter.mpr ⟨?_, by simp⟩, sameId⟩
    exact mem_mutationNodes.mpr ⟨membership, isMutation⟩

/-! ## Captured branches -/

/-- The source of a captured branch is a state gate. -/
theorem stateGate_of_capturedBranch (valid : StructurallyValid graph) {edge : GraphEdge}
    (membership : edge ∈ graph.edges) (captured : CapturedBranch edge) {source : GraphNode}
    (found : graph.node? edge.sourceNodeId = some source) :
    ∃ details, source.stateGate? = some details := by
  have kind : edge.kind = .branchesTo := by
    have matched := captured.1
    rw [GraphEdge.matchedStates?] at matched
    split at matched
    next isBranch _ => exact isBranch
    next => cases matched
  have oriented := valid edge membership
  rw [validateEdge] at oriented
  split at oriented
  next source' target atSource _ =>
    have same : source' = source := by
      have there : graph.node? edge.sourceNodeId = some source' := atSource
      rw [found] at there
      exact (Option.some.inj there).symm
    subst same
    have joins := (raiseIf_eq_ok _ _ _).mp oriented
    rw [kind] at joins
    cases details : source'.details with
    | paymentStateGate gate => exact ⟨gate, by rw [GraphNode.stateGate?, details]⟩
    | _ => simp [GraphEdgeKind.joins, details, GraphNodeDetails.stateGate] at joins
  next => cases oriented

theorem routeId_of_stateGate {node : GraphNode} {details : PaymentStateGateDetails}
    (isGate : node.stateGate? = some details) :
    node.routeId? = some details.routeRegistrationId := by
  rw [GraphNode.stateGate?] at isGate
  rw [GraphNode.routeId?]
  split at isGate
  next here =>
    cases isGate
    rw [here]
  next => cases isGate

/-- The route of the gate a branch leaves, as the engine asks for it and as the plan does. -/
theorem matchedBranchOf_iff (valid : StructurallyValid graph) {edge : GraphEdge}
    (membership : edge ∈ graph.edges) (captured : CapturedBranch edge)
    {routeId : RouteRegistrationId} :
    MatchedBranchOf graph [routeId] edge ↔
      ∃ source, graph.node? edge.sourceNodeId = some source ∧
        ∃ details, source.stateGate? = some details ∧ details.routeRegistrationId = routeId := by
  constructor
  · rintro ⟨-, source, found, other, onRoute, sameRoute⟩
    rw [List.mem_singleton] at onRoute
    subst onRoute
    have found := Option.mem_toList.mp found
    obtain ⟨details, isGate⟩ := stateGate_of_capturedBranch valid membership captured found
    rw [routeId_of_stateGate isGate] at sameRoute
    exact ⟨source, found, details, isGate, Option.some.inj sameRoute⟩
  · rintro ⟨source, found, details, isGate, rfl⟩
    exact ⟨captured.1, source, Option.mem_toList.mpr found, _, List.mem_singleton_self _,
      routeId_of_stateGate isGate⟩

theorem mem_plannedGateIds {routeId : RouteRegistrationId} {control : Option NormalControlInstance}
    {nodeId : GraphNodeId} :
    nodeId ∈ plannedGateIds graph routeId control ↔
      ∃ edge ∈ graph.edges, CapturedBranch edge ∧
        (∃ source, graph.node? edge.sourceNodeId = some source ∧
          ∃ details, source.stateGate? = some details ∧ details.routeRegistrationId = routeId) ∧
        (∀ item ∈ control, edge.targetNodeId = item.customerValueNodeId) ∧
        edge.sourceNodeId = nodeId := by
  simp [plannedGateIds, and_assoc]

/-- The plan and the engine agree on the gates a captured payment passes. -/
theorem mem_plannedGateIds_iff (valid : StructurallyValid graph) (gates : CapturedGates graph)
    {routeId : RouteRegistrationId} {control : Option NormalControlInstance}
    (onRoute : ∀ item ∈ control, item.routeRegistrationId = routeId) {edge : GraphEdge}
    (membership : edge ∈ graph.edges) (captured : CapturedBranch edge) :
    edge.sourceNodeId ∈ plannedGateIds graph routeId control ↔
      edge.sourceNodeId ∈ capturedGateIds graph routeId control := by
  rw [mem_plannedGateIds]
  cases control with
  | none =>
    simp only [capturedGateIds, List.mem_map, List.mem_filter]
    constructor
    · rintro ⟨other, isEdge, isCaptured, ⟨source, found, details, isGate, sameRoute⟩, -, same⟩
      obtain ⟨isNode, sameId⟩ := graph.node?_eq_some found
      refine ⟨source, ⟨isNode, ?_⟩, sameId.trans same⟩
      have names := gates other isEdge isCaptured source (by simp [found]) details (by simp [isGate])
      exact decide_eq_true ⟨details, by simp [isGate], sameRoute, List.mem_map.mp names⟩
    · rintro ⟨gate, ⟨isNode, named⟩, same⟩
      obtain ⟨details, isGate, sameRoute, -⟩ := of_decide_eq_true named
      refine ⟨edge, membership, captured, ⟨gate, ?_, details, Option.mem_toList.mp isGate,
        sameRoute⟩, ?_, rfl⟩
      · rw [← same]
        exact graph.node?_of_mem isNode
      · intro item impossible
        cases impossible
  | some item =>
    have route := onRoute item rfl
    simp only [capturedGateIds, capturedControlEdges, controlStateEdges, List.mem_map,
      List.mem_filter, route]
    constructor
    · rintro ⟨other, isEdge, isCaptured, gate, toAction, same⟩
      have matched := (matchedBranchOf_iff valid isEdge isCaptured).mpr gate
      exact ⟨other, ⟨⟨isEdge, decide_eq_true ⟨toAction item rfl, matched⟩⟩,
        decide_eq_true isCaptured.2⟩, same⟩
    · rintro ⟨other, ⟨⟨isEdge, toAction⟩, isCaptured⟩, same⟩
      obtain ⟨target, matched⟩ := of_decide_eq_true toAction
      have whole : CapturedBranch other := ⟨matched.1, of_decide_eq_true isCaptured⟩
      refine ⟨other, isEdge, whole, (matchedBranchOf_iff valid isEdge whole).mp matched, ?_, same⟩
      intro known isItem
      cases isItem
      exact target

/-! ## The mutations of a trust scenario -/

/-- The mutations of the captured path of an ingress, as the engine finds them. -/
theorem mem_capturedPathMutations {hashing : Hashing} {ingress node : GraphNode}
    {details : PaymentIngressDetails} (isIngress : ingress.ingress? = some details)
    (posts : PostsWebhooks ingress) {control : Option NormalControlInstance} :
    node ∈ capturedPathMutations hashing graph ingress control ↔
      ∃ edge ∈ graph.edges, CapturedBranch edge ∧
        edge.sourceNodeId ∈ capturedGateIds graph details.registration.routeRegistrationId control ∧
        graph.node? edge.targetNodeId = some node ∧
        ∃ mutation, node.mutation? = some mutation ∧
          mutation.routeRegistrationId = details.registration.routeRegistrationId := by
  rw [capturedPathMutations, isIngress]
  dsimp only
  rw [if_neg (not_not.mpr posts), mem_sortedByKey]
  simp only [List.mem_filterMap, List.mem_dedup, List.mem_map, List.mem_filter]
  constructor
  · rintro ⟨nodeId, ⟨edge, ⟨membership, conditions⟩, rfl⟩, found⟩
    obtain ⟨matched, gate, captured, mutation, target, isMutation, inMutation, sameRoute⟩ :=
      of_decide_eq_true conditions
    have same : mutation = node := by
      have there := Option.mem_toList.mp target
      rw [found] at there
      exact (Option.some.inj there).symm
    subst same
    exact ⟨edge, membership, ⟨matched, captured⟩, gate, found, isMutation,
      Option.mem_toList.mp inMutation, sameRoute⟩
  · rintro ⟨edge, membership, captured, gate, found, mutation, isMutation, sameRoute⟩
    refine ⟨edge.targetNodeId, ⟨edge, ⟨membership, decide_eq_true ?_⟩, rfl⟩, found⟩
    exact ⟨captured.1, gate, captured.2, node, Option.mem_toList.mpr found, mutation,
      Option.mem_toList.mpr isMutation, sameRoute⟩

/-- The plan expects of a forged webhook the mutations the engine names. -/
theorem mem_expectedCaptured (valid : StructurallyValid graph) (gates : CapturedGates graph)
    {hashing : Hashing} {ingress : GraphNode} {details : PaymentIngressDetails}
    (isIngress : ingress.ingress? = some details) (posts : PostsWebhooks ingress)
    {control : Option NormalControlInstance}
    (onRoute : ∀ item ∈ control,
      item.routeRegistrationId = details.registration.routeRegistrationId) {nodeId : GraphNodeId} :
    nodeId ∈ expectedCaptured graph details.registration.routeRegistrationId control ↔
      nodeId ∈ (capturedPathMutations hashing graph ingress control).map (·.nodeId) := by
  simp only [expectedCaptured, List.mem_map, List.mem_filter,
    mem_capturedPathMutations isIngress posts]
  constructor
  · rintro ⟨edge, ⟨membership, conditions⟩, rfl⟩
    obtain ⟨captured, gate, target⟩ := of_decide_eq_true conditions
    obtain ⟨node, found, mutation, isMutation, sameRoute⟩ := mem_mutationIdsByRoute.mp target
    refine ⟨node, ⟨edge, membership, captured, ?_, found, mutation, isMutation, sameRoute⟩,
      (graph.node?_eq_some found).2⟩
    exact (mem_plannedGateIds_iff valid gates onRoute membership captured).mp gate
  · rintro ⟨node, ⟨edge, membership, captured, gate, found, mutation, isMutation, sameRoute⟩, rfl⟩
    have sameId := (graph.node?_eq_some found).2
    refine ⟨edge, ⟨membership, decide_eq_true ⟨captured, ?_, ?_⟩⟩, sameId.symm⟩
    · exact (mem_plannedGateIds_iff valid gates onRoute membership captured).mpr gate
    · exact mem_mutationIdsByRoute.mpr ⟨node, found, mutation, isMutation, sameRoute⟩

/-- The plan expects of a tampered callback the mutations the engine names. -/
theorem mem_expectedProtected {hashing : Hashing} {ingress : GraphNode}
    {details : PaymentIngressDetails} (isIngress : ingress.ingress? = some details)
    {nodeId : GraphNodeId} :
    nodeId ∈ expectedProtected graph details.registration.routeRegistrationId ↔
      nodeId ∈ (checkoutProtectedMutations hashing graph ingress).map (·.nodeId) := by
  rw [checkoutProtectedMutations, isIngress]
  dsimp only
  simp only [expectedProtected, List.mem_filter, List.mem_map, mem_sortedByKey]
  constructor
  · rintro ⟨target, conditions⟩
    obtain ⟨node, found, mutation, isMutation, sameRoute⟩ := mem_mutationIdsByRoute.mp target
    obtain ⟨membership, sameId⟩ := graph.node?_eq_some found
    refine ⟨node, ⟨membership, decide_eq_true ⟨mutation, Option.mem_toList.mpr isMutation, sameRoute,
      ?_⟩⟩, sameId⟩
    rw [sameId]
    refine (of_decide_eq_true conditions).imp_right ?_
    rintro ⟨other, there, otherDetails, otherMutation, assigned⟩
    have there := Option.mem_toList.mp there
    rw [found] at there
    cases there
    rw [isMutation] at otherMutation
    cases Option.mem_toList.mp otherMutation
    exact assigned
  · rintro ⟨node, ⟨membership, conditions⟩, rfl⟩
    obtain ⟨mutation, isMutation, sameRoute, watched⟩ := of_decide_eq_true conditions
    have isMutation := Option.mem_toList.mp isMutation
    have found := graph.node?_of_mem membership
    refine ⟨mem_mutationIdsByRoute.mpr ⟨node, found, mutation, isMutation, sameRoute⟩,
      decide_eq_true (watched.imp_right fun assigned => ?_)⟩
    exact ⟨node, Option.mem_toList.mpr found, mutation, Option.mem_toList.mpr isMutation, assigned⟩

end

end StateGuard
