import StateGuard.FailureLab.StateRegression
import StateGuard.Runtime.EvidenceRoutes

/-!
# The plan of an evaluated artifact

`runtimeTargetPlan_agrees`: the plan of an artifact that the engine evaluated is built, and the
targets it tracks at the ingress of an applicable assertion are the mutations and acknowledgements
the assertion refers to.
-/

namespace StateGuard

open Checks KeyOrder

section

variable {hashing : Hashing} {graph : PaymentSafetyGraphArtifact}

/-! ## Controls -/

/-- The edge and the action of a control. -/
structure ControlEdge (graph : PaymentSafetyGraphArtifact) (control : NormalControlInstance) :
    Prop where
  edge : ∃ edge ∈ graph.edges, edge.edgeId = control.connectivityEdgeId ∧
    edge.sourceNodeId = control.ingressNodeId ∧ edge.targetNodeId = control.customerValueNodeId
  action : ∃ node, graph.node? control.customerValueNodeId = some node ∧
    node.details = .customerValueAction ∧ node.backingSymbolId = control.customerValueSymbolId

theorem controlEdge_of_built {selected : SymbolId} {fingerprint : Sha256Digest} {edge : GraphEdge}
    (membership : edge ∈ graph.edges) {control : NormalControlInstance}
    (built : controlOfEdge hashing graph selected fingerprint edge = some control) :
    ControlEdge graph control := by
  rw [controlOfEdge] at built
  simp only [Option.bind_eq_bind, Option.bind_eq_some_iff] at built
  obtain ⟨source, foundSource, target, foundTarget, ingress, -, built⟩ := built
  split at built
  next =>
    split at built
    next proven =>
      cases built
      have sameSource := (graph.node?_eq_some foundSource).2
      have sameTarget := (graph.node?_eq_some foundTarget).2
      refine ⟨⟨edge, membership, rfl, sameSource.symm, sameTarget.symm⟩, target, ?_, proven.2⟩
      show graph.node? target.nodeId = some target
      rw [sameTarget]
      exact foundTarget
    next => cases built
  next => cases built

theorem controlEdge_of_mem {resolution : Option CustomerValueResolution}
    {fingerprint : Option Sha256Digest} {control : NormalControlInstance}
    (membership : control ∈ normalControls hashing graph resolution fingerprint) :
    ControlEdge graph control := by
  unfold normalControls at membership
  split at membership
  next =>
    split at membership
    next =>
      rw [mem_sortedByKey] at membership
      obtain ⟨edge, isEdge, built⟩ := List.mem_filterMap.mp membership
      exact controlEdge_of_built isEdge built
    next => cases membership
  next => cases membership

/-- A control of the graph has its target. -/
theorem customerValueTarget_ok {control : NormalControlInstance} (known : ControlOf graph control)
    (located : ControlEdge graph control) :
    ∃ target, customerValueTarget graph control = .ok target := by
  obtain ⟨source, found, sameId, details, isIngress, -, sameRoute⟩ := known.node?
  have bound := bindingByNode_of_ingress (graph.node?_eq_some found).1 isIngress
  rw [sameId] at bound
  obtain ⟨edge, isEdge, edgeId, fromIngress, toAction⟩ := located.edge
  obtain ⟨node, atAction, isAction, symbol⟩ := located.action
  have foundEdge := find?_of_distinct graph.edgesUnique isEdge
  rw [edgeId] at foundEdge
  rw [customerValueTarget, bound, atAction, foundEdge]
  exact ⟨_, if_pos ⟨sameRoute, isAction, symbol, fromIngress, toAction⟩⟩

/-! ## The evidence check -/

/-- A state does not claim mutations. -/
def ClaimsNoMutation (item : Assessed) : Prop :=
  ∀ reason ∈ item.2, reason.code ≠ .mutationTargetAvailable

theorem claimsNoMutation_assessed {state : ApplicabilityState} {code : ApplicabilityReasonCode}
    {evidence : List EvidenceReference} (other : code ≠ .mutationTargetAvailable) :
    ClaimsNoMutation (assessed state code evidence) := by
  intro reason membership
  rw [assessed, List.mem_singleton] at membership
  rw [membership]
  exact other

theorem claimsNoMutation_fallback (resolution : Option CustomerValueResolution)
    (available : List GraphNode) : ClaimsNoMutation (fallbackState graph resolution available) := by
  rw [fallbackState]
  split
  next => split <;> exact claimsNoMutation_assessed (by decide)
  next =>
    split
    next => exact claimsNoMutation_assessed (by decide)
    next => split <;> exact claimsNoMutation_assessed (by decide)

theorem claimsNoMutation_forged (control : NormalControlInstance) :
    ClaimsNoMutation (forgedValueState graph control) := by
  rw [forgedValueState]
  split <;> exact claimsNoMutation_assessed (by decide)

theorem claimsNoMutation_tampered (ingress : GraphNode) (control : NormalControlInstance) :
    ClaimsNoMutation (tamperedValueState ingress control) := by
  rw [tamperedValueState]
  split <;> exact claimsNoMutation_assessed (by decide)

/-- The nodes a mutation assertion refers to. -/
theorem mem_observedNodes_trust {ingress : GraphNode} {unbound : Prop} [Decidable unbound]
    {mutations : List GraphNode} {assertion : AssertionApplicability}
    (reasons : assertion.reasons = (trustMutationState hashing graph ingress unbound mutations).2)
    {nodeId : GraphNodeId} :
    nodeId ∈ observedNodes assertion ↔ nodeId ∈ mutations.map (·.nodeId) := by
  simp [observedNodes, reasons, trustMutationState, assessed, nodeEvidence, List.filter_map,
    Function.comp_def]

/-- A mutation assertion that claims mutations has some. -/
theorem mutations_of_available {ingress : GraphNode} {unbound : Prop} [Decidable unbound]
    {mutations : List GraphNode} {assertion : AssertionApplicability}
    (reasons : assertion.reasons = (trustMutationState hashing graph ingress unbound mutations).2)
    (available : MutationAvailable assertion) : mutations ≠ [] := by
  obtain ⟨reason, membership, code⟩ := available
  rw [reasons, trustMutationState] at membership
  rw [List.mem_singleton.mp membership] at code
  dsimp only at code
  split at code
  next => cases code
  next =>
    split at code
    next some => exact some
    next => cases code

/-- The check of an instance with an ingress that is bound. -/
theorem validateTrustInstance_eq {applicability : ScenarioApplicabilityArtifact}
    {scenario : ScenarioId} {item : ScenarioInstance} {nodeId : GraphNodeId}
    (ingress : item.ingressNodeId = some nodeId) {binding : IngressRuntimeBinding}
    (bound : bindingByNode graph nodeId = some binding) :
    validateTrustInstance applicability graph scenario item =
      let expected := expectedMutations graph scenario binding.routeRegistrationId
        (item.normalControlId.bind applicability.control?)
      forEach (fun assertion => raiseIf (MutationAvailable assertion ∧
          ¬ (observedNodes assertion ⊆ expected ∧ expected ⊆ observedNodes assertion))
        "mutation assertion evidence must match exact route mutation nodes") item.assertions := by
  rw [validateTrustInstance, ingress]
  dsimp only
  rw [bound]

/-- The instance of an ingress passes when its mutations are the expected ones. -/
theorem validateTrustInstance_ok {applicability : ScenarioApplicabilityArtifact}
    {scenario : ScenarioId} {mutationKey valueKey : AssertionKey} {ingress : GraphNode}
    (isNode : ingress ∈ graph.nodes) {details : PaymentIngressDetails}
    (isIngress : ingress.ingress? = some details) {control : Option NormalControlInstance}
    (known : (control.map (·.controlId)).bind applicability.control? = control)
    {unbound : Prop} [Decidable unbound] {mutations : List GraphNode} {valueState : Assessed}
    (value : ClaimsNoMutation valueState)
    (expected : mutations ≠ [] → ∀ nodeId,
      nodeId ∈ expectedMutations graph scenario details.registration.routeRegistrationId control ↔
        nodeId ∈ mutations.map (·.nodeId)) :
    validateTrustInstance applicability graph scenario
      (trustInstance hashing scenario mutationKey valueKey ingress control
        (trustMutationState hashing graph ingress unbound mutations) valueState) = .ok () := by
  have bound := bindingByNode_of_ingress isNode isIngress
  refine (validateTrustInstance_eq rfl bound).trans
    ((forEach_eq_ok _ _ _).mpr fun assertion membership => raiseIf_of_not ?_ _)
  rintro ⟨available, differs⟩
  rcases List.mem_cons.mp membership with rfl | isValue
  · refine differs ?_
    have reasons : (assertionOf hashing (hashing.scenarioInstanceId scenario
        ((control.map (·.controlId)).getD ingress.nodeId)) mutationKey .core
        (trustMutationState hashing graph ingress unbound mutations) none).reasons =
      (trustMutationState hashing graph ingress unbound mutations).2 := rfl
    have some := mutations_of_available reasons available
    have same : ∀ nodeId, nodeId ∈ expectedMutations graph scenario
        details.registration.routeRegistrationId control ↔ nodeId ∈ mutations.map (·.nodeId) :=
      expected some
    show _ ⊆ expectedMutations graph scenario details.registration.routeRegistrationId
        ((control.map (·.controlId)).bind applicability.control?) ∧
      expectedMutations graph scenario details.registration.routeRegistrationId
        ((control.map (·.controlId)).bind applicability.control?) ⊆ _
    rw [known]
    constructor
    · intro nodeId observed
      exact (same nodeId).mpr ((mem_observedNodes_trust reasons).mp observed)
    · intro nodeId isExpected
      exact (mem_observedNodes_trust reasons).mpr ((same nodeId).mp isExpected)
  · obtain ⟨reason, isReason, code⟩ := available
    rw [List.mem_singleton.mp isValue] at isReason
    exact value reason isReason code

/-- The controls of an artifact are looked up by their identities. -/
theorem control?_of_mem {applicability : ScenarioApplicabilityArtifact}
    (distinct : (applicability.normalControls.map (·.controlId)).Nodup)
    {control : NormalControlInstance} (membership : control ∈ applicability.normalControls) :
    applicability.control? control.controlId = some control :=
  find?_of_distinct distinct membership

section Artifact

variable {config : Option MerchantPolicyConfig} {resolution : Option CustomerValueResolution}
  {resolutionFingerprint : Option Sha256Digest} {artifact : ScenarioApplicabilityArtifact}
  (evaluated : Evaluated hashing config graph resolution resolutionFingerprint artifact)

include evaluated

/-- The control of an instance is found again. -/
theorem control_known {ingress : GraphNode} (isNode : ingress ∈ graph.nodes)
    {details : PaymentIngressDetails} (isIngress : ingress.ingress? = some details)
    {control : Option NormalControlInstance}
    (isControl : control ∈ controlsOfIngress artifact.normalControls ingress) :
    (control.map (·.controlId)).bind artifact.control? = control := by
  cases control with
  | none => rfl
  | some item =>
    obtain ⟨membership, -⟩ := route_of_controlsOfIngress
      (fun control isControl => evaluated.controlOf isControl) isNode isIngress isControl rfl
    exact control?_of_mem evaluated.controls_nodup membership

theorem validate_sg05 (valid : StructurallyValid graph) (gates : CapturedGates graph)
    {item : ScenarioInstance}
    (membership : item ∈ sg05Instances hashing graph resolution artifact.normalControls) :
    validateTrustInstance artifact graph .sg05 item = .ok () := by
  rcases mem_orCatalog.mp membership with isInstance | ⟨-, rfl⟩
  · obtain ⟨ingress, isWebhook, isItem⟩ := List.mem_flatMap.mp isInstance
    obtain ⟨control, isControl, rfl⟩ := List.mem_map.mp isItem
    obtain ⟨isNode, details, isIngress, -⟩ := mem_ingressesOf isWebhook
    have known := control_known evaluated isNode isIngress isControl
    refine validateTrustInstance_ok isNode isIngress known ?_ ?_
    · cases control with
      | none => exact claimsNoMutation_fallback resolution [ingress]
      | some item => exact claimsNoMutation_forged item
    · intro some nodeId
      have posts : PostsWebhooks ingress := by
        by_contra silent
        rw [capturedPathMutations, isIngress] at some
        dsimp only at some
        rw [if_pos silent] at some
        exact some rfl
      refine mem_expectedCaptured valid gates isIngress posts fun item isItem => ?_
      exact (route_of_controlsOfIngress (fun control isControl => evaluated.controlOf isControl)
        isNode isIngress isControl (Option.mem_def.mp isItem)).2.2
  · rfl

theorem validate_sg06 {item : ScenarioInstance}
    (membership : item ∈ sg06Instances hashing graph resolution artifact.normalControls) :
    validateTrustInstance artifact graph .sg06 item = .ok () := by
  rcases mem_orCatalog.mp membership with isInstance | ⟨-, rfl⟩
  · obtain ⟨ingress, isCheckout, isItem⟩ := List.mem_flatMap.mp isInstance
    obtain ⟨control, isControl, rfl⟩ := List.mem_map.mp isItem
    obtain ⟨isNode, details, isIngress, -⟩ := mem_ingressesOf isCheckout
    have known := control_known evaluated isNode isIngress isControl
    refine validateTrustInstance_ok isNode isIngress known ?_ ?_
    · cases control with
      | none => exact claimsNoMutation_fallback resolution [ingress]
      | some item => exact claimsNoMutation_tampered ingress item
    · intro _ nodeId
      exact mem_expectedProtected isIngress
  · rfl

/-- The evidence of an evaluated artifact is the expected one. -/
theorem validateMutationAssertionEvidence_ok (valid : StructurallyValid graph)
    (gates : CapturedGates graph) : validateMutationAssertionEvidence artifact graph = .ok () := by
  refine (forEach_eq_ok _ _ _).mpr fun scenario isScenario => ?_
  have instances := evaluated.instances scenario isScenario
  split
  next trust =>
    refine (forEach_eq_ok _ _ _).mpr fun item membership => ?_
    rw [instances] at membership
    rcases trust with forged | tampered
    · rw [forged] at membership ⊢
      exact validate_sg05 evaluated valid gates membership
    · rw [tampered] at membership ⊢
      exact validate_sg06 evaluated membership
  next => rfl

end Artifact

/-! ## Tracked targets -/

/-- The targets a plan tracks for an assertion: those at the ingress of its instance that it
refers to. -/
def RuntimeTargetPlan.tracked (plan : RuntimeTargetPlan) (item : ScenarioInstance)
    (assertion : AssertionApplicability) : List GraphNodeId :=
  ((plan.mutations.filter (item.ingressNodeId = some ·.ingress.ingressNodeId)).map
      (·.mutationNodeId) ++
    (plan.acknowledgements.filter (item.ingressNodeId = some ·.ingress.ingressNodeId)).map
      (·.acknowledgementNodeId)).filter (· ∈ observedNodes assertion)

/-- The mutations and acknowledgements an assertion refers to. -/
def evidenceTargets (graph : PaymentSafetyGraphArtifact) (assertion : AssertionApplicability) :
    List GraphNodeId :=
  (observedNodes assertion).filter fun nodeId => ∃ node ∈ (graph.node? nodeId).toList,
    node.mutation?.isSome ∨ node.acknowledgement?.isSome

/-- The targets of a plan are the mutations and acknowledgements of the graph, each at the ingress
of its route. -/
structure TracksGraph (graph : PaymentSafetyGraphArtifact) (plan : RuntimeTargetPlan) : Prop where
  mutations : ∀ nodeId ingressNodeId, (∃ target ∈ plan.mutations,
      target.mutationNodeId = nodeId ∧ target.ingress.ingressNodeId = ingressNodeId) ↔
    ∃ node, graph.node? nodeId = some node ∧ ∃ details, node.mutation? = some details ∧
      (bindingByRoute graph details.routeRegistrationId).map (·.ingressNodeId) = some ingressNodeId
  acknowledgements : ∀ nodeId ingressNodeId, (∃ target ∈ plan.acknowledgements,
      target.acknowledgementNodeId = nodeId ∧ target.ingress.ingressNodeId = ingressNodeId) ↔
    ∃ node, graph.node? nodeId = some node ∧ ∃ details, node.acknowledgement? = some details ∧
      (bindingByRoute graph details.routeRegistrationId).map (·.ingressNodeId) = some ingressNodeId
  distinct : (plan.mutations.map (·.mutationNodeId) ++
    plan.acknowledgements.map (·.acknowledgementNodeId)).Nodup

theorem mutationTarget_eq_ok {entry : GraphNode × MerchantStateMutationDetails}
    {target : MutationRuntimeTarget} :
    mutationTarget graph entry = .ok target ↔
      ∃ ingress, bindingByRoute graph entry.2.routeRegistrationId = some ingress ∧
        target = { ingress := ingress, mutationNodeId := entry.1.nodeId } := by
  rw [mutationTarget]
  split
  next ingress bound => simp [bound, eq_comm]
  next unbound => simp [unbound]

theorem acknowledgementTarget_eq_ok {entry : GraphNode × AcknowledgementBoundaryDetails}
    {target : AcknowledgementRuntimeTarget} :
    acknowledgementTarget graph entry = .ok target ↔
      ∃ ingress, bindingByRoute graph entry.2.routeRegistrationId = some ingress ∧
        target =
          { ingress := ingress
            acknowledgementNodeId := entry.1.nodeId
            statusCode := entry.2.statusCode
            outcome := entry.2.outcome } := by
  rw [acknowledgementTarget]
  split
  next ingress bound => simp [bound, eq_comm]
  next unbound => simp [unbound]

theorem mutationNodes_ids : (mutationNodes graph).map (·.1.nodeId) =
    (graph.nodes.filter (·.mutation?.isSome)).map (·.nodeId) := by
  rw [mutationNodes]
  induction graph.nodes with
  | nil => rfl
  | cons node rest ih => cases isMutation : node.mutation? <;> simp [isMutation, ih]

theorem acknowledgementNodes_ids : (acknowledgementNodes graph).map (·.1.nodeId) =
    (graph.nodes.filter (·.acknowledgement?.isSome)).map (·.nodeId) := by
  rw [acknowledgementNodes]
  induction graph.nodes with
  | nil => rfl
  | cons node rest ih => cases isAck : node.acknowledgement? <;> simp [isAck, ih]

theorem acknowledgement?_of_mutation {node : GraphNode} (isMutation : node.mutation?.isSome) :
    node.acknowledgement? = none := by
  cases details : node.details <;>
    simp [GraphNode.mutation?, GraphNode.acknowledgement?, details] at isMutation ⊢

/-- The tracked nodes are distinct. -/
theorem trackedNodes_nodup : ((mutationNodes graph).map (·.1.nodeId) ++
    (acknowledgementNodes graph).map (·.1.nodeId)).Nodup := by
  rw [mutationNodes_ids, acknowledgementNodes_ids]
  have sub (p : GraphNode → Bool) : ((graph.nodes.filter p).map (·.nodeId)).Nodup :=
    graph.nodesUnique.sublist (List.filter_sublist.map _)
  refine (sub _).append (sub _) fun nodeId isMutation isAck => ?_
  obtain ⟨node, inMutations, rfl⟩ := List.mem_map.mp isMutation
  obtain ⟨other, inAcks, same⟩ := List.mem_map.mp isAck
  have unique := List.inj_on_of_nodup_map graph.nodesUnique (List.mem_of_mem_filter inAcks)
    (List.mem_of_mem_filter inMutations) same
  rw [unique] at inAcks
  have ack := (List.mem_filter.mp inAcks).2
  rw [acknowledgement?_of_mutation (List.mem_filter.mp inMutations).2] at ack
  cases ack

/-- The targets collected from a graph track it. -/
theorem tracksGraph_of_collected {index : SourceIndexArtifact}
    {customers : List CustomerValueRuntimeTarget} {mutations : List MutationRuntimeTarget}
    {acknowledgements : List AcknowledgementRuntimeTarget}
    (collectedMutations : collect (mutationTarget graph) (mutationNodes graph) = .ok mutations)
    (collectedAcks : collect (acknowledgementTarget graph) (acknowledgementNodes graph) =
      .ok acknowledgements) :
    TracksGraph graph
      { appTarget := selectedAppTarget index
        ingresses := ingressBindings graph
        customerValues := sortedByKey (·.normalControlId) customers
        mutations := sortedByKey (·.mutationNodeId) mutations
        acknowledgements := sortedByKey (·.acknowledgementNodeId) acknowledgements } := by
  refine ⟨?_, ?_, ?_⟩
  · intro nodeId ingressNodeId
    constructor
    · rintro ⟨target, membership, rfl, rfl⟩
      obtain ⟨entry, isEntry, isTarget⟩ :=
        exists_of_mem_collect collectedMutations ((mem_sortedByKey _ _ _).mp membership)
      obtain ⟨ingress, bound, rfl⟩ := mutationTarget_eq_ok.mp isTarget
      obtain ⟨isNode, isMutation⟩ := mem_mutationNodes.mp isEntry
      exact ⟨entry.1, graph.node?_of_mem isNode, entry.2, isMutation, by rw [bound]; rfl⟩
    · rintro ⟨node, found, details, isMutation, bound⟩
      obtain ⟨ingress, isBinding, rfl⟩ := Option.map_eq_some_iff.mp bound
      obtain ⟨isNode, sameId⟩ := graph.node?_eq_some found
      have isTarget := (@mutationTarget_eq_ok graph (node, details) _).mpr ⟨ingress, isBinding, rfl⟩
      refine ⟨_, (mem_sortedByKey _ _ _).mpr (mem_collect collectedMutations
        (mem_mutationNodes.mpr ⟨isNode, isMutation⟩) isTarget), sameId, rfl⟩
  · intro nodeId ingressNodeId
    constructor
    · rintro ⟨target, membership, rfl, rfl⟩
      obtain ⟨entry, isEntry, isTarget⟩ :=
        exists_of_mem_collect collectedAcks ((mem_sortedByKey _ _ _).mp membership)
      obtain ⟨ingress, bound, rfl⟩ := acknowledgementTarget_eq_ok.mp isTarget
      obtain ⟨isNode, isAck⟩ := mem_acknowledgementNodes.mp isEntry
      exact ⟨entry.1, graph.node?_of_mem isNode, entry.2, isAck, by rw [bound]; rfl⟩
    · rintro ⟨node, found, details, isAck, bound⟩
      obtain ⟨ingress, isBinding, rfl⟩ := Option.map_eq_some_iff.mp bound
      obtain ⟨isNode, sameId⟩ := graph.node?_eq_some found
      have isTarget :=
        (@acknowledgementTarget_eq_ok graph (node, details) _).mpr ⟨ingress, isBinding, rfl⟩
      refine ⟨_, (mem_sortedByKey _ _ _).mpr (mem_collect collectedAcks
        (mem_acknowledgementNodes.mpr ⟨isNode, isAck⟩) isTarget), sameId, rfl⟩
  · have mutationIds : mutations.map (·.mutationNodeId) =
        (mutationNodes graph).map (·.1.nodeId) := by
      refine map_key_of_collect ?_ collectedMutations
      intro entry target isTarget
      obtain ⟨ingress, -, rfl⟩ := mutationTarget_eq_ok.mp isTarget
      rfl
    have ackIds : acknowledgements.map (·.acknowledgementNodeId) =
        (acknowledgementNodes graph).map (·.1.nodeId) := by
      refine map_key_of_collect ?_ collectedAcks
      intro entry target isTarget
      obtain ⟨ingress, -, rfl⟩ := acknowledgementTarget_eq_ok.mp isTarget
      rfl
    have same := ((sortedByKey_perm (·.mutationNodeId) mutations).map (·.mutationNodeId)).append
      ((sortedByKey_perm (·.acknowledgementNodeId) acknowledgements).map (·.acknowledgementNodeId))
    refine same.nodup_iff.mpr ?_
    rw [mutationIds, ackIds]
    exact trackedNodes_nodup

theorem routeId_of_acknowledgement {node : GraphNode} {details : AcknowledgementBoundaryDetails}
    (isAck : node.acknowledgement? = some details) :
    node.routeId? = some details.routeRegistrationId := by
  rw [GraphNode.acknowledgement?] at isAck
  rw [GraphNode.routeId?]
  split at isAck
  next here =>
    cases isAck
    rw [here]
  next => cases isAck

/-- A plan that tracks its graph tracks for an assertion exactly what it refers to. -/
theorem mem_tracked_iff (covered : RoutesCovered graph) {plan : RuntimeTargetPlan}
    (tracks : TracksGraph graph plan) {item : ScenarioInstance} (located : Located graph item)
    {assertion : AssertionApplicability} (isAssertion : assertion ∈ item.assertions)
    (applicable : assertion.state = .applicable) {nodeId : GraphNodeId} :
    nodeId ∈ plan.tracked item assertion ↔ nodeId ∈ evidenceTargets graph assertion := by
  obtain ⟨ingress, isNode, details, isIngress, sameIngress, evidence⟩ :=
    located assertion isAssertion applicable
  have bound := bindingByRoute_of_ingress covered isNode isIngress
  have here {node : GraphNode} (found : graph.node? nodeId = some node)
      (observed : nodeId ∈ observedNodes assertion) :
      node.routeId? = some details.registration.routeRegistrationId := by
    obtain ⟨reference, selected, rfl⟩ := List.mem_map.mp observed
    obtain ⟨listed, isGraphNode⟩ := List.mem_filter.mp selected
    obtain ⟨reason, isReason, isEvidence⟩ := List.mem_flatMap.mp listed
    obtain ⟨other, foundOther, route⟩ := evidence reason isReason reference isEvidence
      (of_decide_eq_true isGraphNode)
    rw [found] at foundOther
    cases foundOther
    exact route
  simp only [RuntimeTargetPlan.tracked, evidenceTargets, List.mem_filter, List.mem_append,
    List.mem_map, sameIngress, Option.some.injEq, decide_eq_true_eq]
  constructor
  · rintro ⟨isTarget, observed⟩
    refine ⟨observed, ?_⟩
    rcases isTarget with ⟨target, ⟨membership, atIngress⟩, sameId⟩ |
        ⟨target, ⟨membership, atIngress⟩, sameId⟩
    · obtain ⟨node, found, mutation, isMutation, -⟩ :=
        (tracks.mutations nodeId ingress.nodeId).mp ⟨target, membership, sameId, atIngress.symm⟩
      exact ⟨node, Option.mem_toList.mpr found, .inl (by rw [isMutation]; rfl)⟩
    · obtain ⟨node, found, ack, isAck, -⟩ :=
        (tracks.acknowledgements nodeId ingress.nodeId).mp
          ⟨target, membership, sameId, atIngress.symm⟩
      exact ⟨node, Option.mem_toList.mpr found, .inr (by rw [isAck]; rfl)⟩
  · rintro ⟨observed, node, found, kind⟩
    have found := Option.mem_toList.mp found
    have route := here found observed
    refine ⟨?_, observed⟩
    rcases kind with isMutation | isAck
    · obtain ⟨mutation, isMutation⟩ := Option.isSome_iff_exists.mp isMutation
      rw [routeId_of_mutation isMutation] at route
      have sameRoute := Option.some.inj route
      obtain ⟨target, membership, sameId, atIngress⟩ :=
        (tracks.mutations nodeId ingress.nodeId).mpr
          ⟨node, found, mutation, isMutation, by rw [sameRoute, bound]; rfl⟩
      exact .inl ⟨target, ⟨membership, atIngress.symm⟩, sameId⟩
    · obtain ⟨ack, isAck⟩ := Option.isSome_iff_exists.mp isAck
      rw [routeId_of_acknowledgement isAck] at route
      have sameRoute := Option.some.inj route
      obtain ⟨target, membership, sameId, atIngress⟩ :=
        (tracks.acknowledgements nodeId ingress.nodeId).mpr
          ⟨node, found, ack, isAck, by rw [sameRoute, bound]; rfl⟩
      exact .inr ⟨target, ⟨membership, atIngress.symm⟩, sameId⟩

/-- Targets are tracked once. -/
theorem tracked_nodup {plan : RuntimeTargetPlan} (tracks : TracksGraph graph plan)
    (item : ScenarioInstance) (assertion : AssertionApplicability) :
    (plan.tracked item assertion).Nodup := by
  refine (tracks.distinct.sublist ?_).filter _
  exact (List.filter_sublist.map _).append (List.filter_sublist.map _)

/-- Every mutation is on a tracked route. -/
theorem tracked_of_mutationNode {entry : GraphNode × MerchantStateMutationDetails}
    (membership : entry ∈ mutationNodes graph) :
    entry.2.routeRegistrationId ∈ trackedRoutes graph :=
  List.mem_append_left _ (List.mem_map.mpr ⟨entry, membership, rfl⟩)

theorem tracked_of_acknowledgementNode {entry : GraphNode × AcknowledgementBoundaryDetails}
    (membership : entry ∈ acknowledgementNodes graph) :
    entry.2.routeRegistrationId ∈ trackedRoutes graph :=
  List.mem_append_right _ (List.mem_map.mpr ⟨entry, membership, rfl⟩)

end

/-! ## The plan -/

/-- The plan of an evaluated artifact is built, and it tracks for every applicable assertion exactly
the mutations and acknowledgements the assertion refers to, each once. -/
theorem runtimeTargetPlan_agrees (hashing : Hashing) (config : Option MerchantPolicyConfig)
    (index : SourceIndexArtifact) (source : SourceAuthority) (graph : PaymentSafetyGraphArtifact)
    (resolution : Option CustomerValueResolution) (resolutionFingerprint : Option Sha256Digest)
    (artifact : ScenarioApplicabilityArtifact) (valid : StructurallyValid graph)
    (covered : RoutesCovered graph) (gates : CapturedGates graph)
    (project : source.projectId = index.projectId)
    (indexed : source.sourceIndexFingerprint = index.sourceIndexFingerprint)
    (evaluated : evaluateApplicability hashing config source graph resolution
      resolutionFingerprint = .ok artifact) :
    ∃ plan, buildRuntimeTargetPlan index graph artifact = .ok plan ∧
      ∀ row ∈ artifact.rows, row.2.2.state = .applicable →
        (∀ nodeId, nodeId ∈ plan.tracked row.2.1 row.2.2 ↔
          nodeId ∈ evidenceTargets graph row.2.2) ∧
        (plan.tracked row.2.1 row.2.2).Nodup := by
  have known := evaluateApplicability_eq_ok evaluated
  have authority : artifact.projectId = source.projectId ∧
      artifact.sourceIndexFingerprint = source.sourceIndexFingerprint := by
    simp only [evaluateApplicability, bind_eq_ok, pure_eq_ok] at evaluated
    obtain ⟨scenarios, -, valid, -, rfl⟩ := evaluated
    exact ⟨rfl, rfl⟩
  have isControl : ∀ control ∈ artifact.normalControls, ControlOf graph control :=
    fun control membership => known.controlOf membership
  obtain ⟨customers, collectedCustomers⟩ : ∃ customers,
      collect (customerValueTarget graph) artifact.normalControls = .ok customers := by
    refine collect_ok fun control membership => customerValueTarget_ok (isControl control membership) ?_
    rw [known.controls] at membership
    exact controlEdge_of_mem membership
  obtain ⟨mutations, collectedMutations⟩ : ∃ mutations,
      collect (mutationTarget graph) (mutationNodes graph) = .ok mutations := by
    refine collect_ok fun entry membership => ?_
    obtain ⟨node, -, details, -, -, bound⟩ :=
      exists_bindingByRoute covered (tracked_of_mutationNode membership)
    exact ⟨_, mutationTarget_eq_ok.mpr ⟨_, bound, rfl⟩⟩
  obtain ⟨acknowledgements, collectedAcks⟩ : ∃ acknowledgements,
      collect (acknowledgementTarget graph) (acknowledgementNodes graph) = .ok acknowledgements := by
    refine collect_ok fun entry membership => ?_
    obtain ⟨node, -, details, -, -, bound⟩ :=
      exists_bindingByRoute covered (tracked_of_acknowledgementNode membership)
    exact ⟨_, acknowledgementTarget_eq_ok.mpr ⟨_, bound, rfl⟩⟩
  have evidence := validateMutationAssertionEvidence_ok known valid gates
  have distinct := ingressBindings_routes.nodup_iff.mpr covered.distinct
  have tracks := @tracksGraph_of_collected graph index customers mutations acknowledgements
    collectedMutations collectedAcks
  refine ⟨{ appTarget := selectedAppTarget index
            ingresses := ingressBindings graph
            customerValues := sortedByKey (·.normalControlId) customers
            mutations := sortedByKey (·.mutationNodeId) mutations
            acknowledgements := sortedByKey (·.acknowledgementNodeId) acknowledgements }, ?_, ?_⟩
  · rw [buildRuntimeTargetPlan,
      raiseIf_of_not (not_not.mpr (project.symm.trans authority.1.symm)),
      raiseIf_of_not (not_not.mpr (indexed.symm.trans authority.2.symm)),
      raiseIf_of_not (not_not.mpr known.graphFingerprint.symm), raiseIf_of_not (not_not.mpr distinct),
      collectedCustomers, collectedMutations, collectedAcks, evidence]
    rfl
  · intro row membership applicable
    obtain ⟨isItem, isAssertion⟩ := (known.mem_rows row.1 row.2.1 row.2.2).mp membership
    have located := located_instancesOf isControl isItem
    exact ⟨fun nodeId => mem_tracked_iff covered tracks located isAssertion applicable,
      tracked_nodup tracks _ _⟩

/-! ### Three webhook routes -/

/-- The index of the sample routes. -/
def plannedIndex : SourceIndexArtifact :=
  { projectId := "project"
    sourceIndexFingerprint := "index"
    symbols := []
    callSites := []
    frameworkInstances := []
    appTargets := []
    routes := []
    routerIncludes := []
    completeness := .complete
    symbolsUnique := List.nodup_nil
    frameworksUnique := List.nodup_nil
    callSitesKnown := callSitesKnown_nil }

/-- A route that two ingresses serve. -/
def twinGraph : PaymentSafetyGraphArtifact :=
  { projectId := "project"
    sourceIndexFingerprint := "index"
    graphFingerprint := "graph"
    completeness := .complete
    diagnostics := []
    nodes := [sampleIngress .webhook, { sampleIngress .webhook with nodeId := "second ingress" }]
    edges := []
    nodesUnique := by decide
    edgesUnique := List.nodup_nil
    endpoints := by simp
    completenessMatches := rfl }

/-- A webhook route with a gate for captured and one for authorised payments; the second branch of
the route admits payments in some state. -/
def branchedGraph (state : AssignedPaymentState) : PaymentSafetyGraphArtifact :=
  { projectId := "project"
    sourceIndexFingerprint := "index"
    graphFingerprint := "graph"
    completeness := .complete
    diagnostics := []
    nodes :=
      [sampleIngress .webhook, sampleGate "captured gate" .captured,
        sampleGate "authorized gate" .authorized, sampleAssignment "captured" .captured,
        sampleAssignment "authorized" .authorized]
    edges :=
      [sampleBranch "captures" "captured gate" "captured" .captured,
        sampleBranch "authorizes" "authorized gate" "authorized" state]
    nodesUnique := by decide
    edgesUnique := by cases state <;> decide
    endpoints := by cases state <;> decide
    completenessMatches := rfl }

/-- What becomes of the plan of an evaluated graph. -/
def plannedOf (graph : PaymentSafetyGraphArtifact) : Except String RuntimeTargetPlan := do
  let artifact ← evaluateApplicability sampleHashing none sampleSource graph none none
  buildRuntimeTargetPlan plannedIndex graph artifact

/-- The plan of an evaluated graph is refused where two ingresses serve one route, and where a
branch admits captured payments below a gate that does not name them. -/
theorem runtimeTargetPlan_refused :
    (StructurallyValid twinGraph ∧
      (∀ routeId ∈ trackedRoutes twinGraph, (ingressRoutes twinGraph).count routeId = 1) ∧
      plannedOf twinGraph = .error "one route registration produced multiple ingress nodes") ∧
    StructurallyValid (branchedGraph .captured) ∧
      (∀ routeId ∈ trackedRoutes (branchedGraph .captured),
        (ingressRoutes (branchedGraph .captured)).count routeId = 1) ∧
      plannedOf (branchedGraph .captured) =
        .error "mutation assertion evidence must match exact route mutation nodes" :=
  ⟨⟨by decide, by decide, rfl⟩, by decide, by decide, rfl⟩

/-- The plan of a route whose branches leave gates that name their states tracks the evidence. -/
theorem branchedGraph_agrees : StructurallyValid (branchedGraph .authorized) ∧
    ∃ artifact, evaluateApplicability sampleHashing none sampleSource (branchedGraph .authorized)
        none none = .ok artifact ∧
      ∃ plan, buildRuntimeTargetPlan plannedIndex (branchedGraph .authorized) artifact = .ok plan ∧
        ∀ row ∈ artifact.rows, row.2.2.state = .applicable →
          (∀ nodeId, nodeId ∈ plan.tracked row.2.1 row.2.2 ↔
            nodeId ∈ evidenceTargets (branchedGraph .authorized) row.2.2) ∧
          (plan.tracked row.2.1 row.2.2).Nodup := by
  have valid : StructurallyValid (branchedGraph .authorized) := by decide
  have covered : RoutesCovered (branchedGraph .authorized) := ⟨by decide, by decide⟩
  have evaluated : evaluateApplicability sampleHashing none sampleSource
      (branchedGraph .authorized) none none = .ok _ := rfl
  exact ⟨valid, _, evaluated, runtimeTargetPlan_agrees sampleHashing none plannedIndex sampleSource
    (branchedGraph .authorized) none none _ valid covered (by decide) rfl rfl evaluated⟩

end StateGuard
