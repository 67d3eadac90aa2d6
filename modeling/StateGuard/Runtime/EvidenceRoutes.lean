import StateGuard.Applicability.Instances
import StateGuard.Applicability.Regression
import StateGuard.Runtime.PlanAgreement

/-!
# The routes of the evidence

Every node that an applicable assertion refers to is on the route of the ingress of its instance
(`located_instancesOf`): one lemma for each state of the engine (`EvidenceOn`), and one for each way
the catalog makes an instance (`Located`).
-/

namespace StateGuard

open Checks KeyOrder

section

variable {graph : PaymentSafetyGraphArtifact}

/-! ## The evidence of an assertion -/

/-- The node references of a state lead to nodes of one route. -/
def EvidenceOn (graph : PaymentSafetyGraphArtifact) (routeId : RouteRegistrationId)
    (item : Assessed) : Prop :=
  ∀ reason ∈ item.2, ∀ evidence ∈ reason.evidence, evidence.kind = .graphNode →
    ∃ node, graph.node? evidence.reference = some node ∧ node.routeId? = some routeId

theorem evidenceOn_assessed {routeId : RouteRegistrationId} {state : ApplicabilityState}
    {code : ApplicabilityReasonCode} {evidence : List EvidenceReference}
    (leads : ∀ item ∈ evidence, item.kind = .graphNode →
      ∃ node, graph.node? item.reference = some node ∧ node.routeId? = some routeId) :
    EvidenceOn graph routeId (assessed state code evidence) := by
  intro reason isReason
  rw [assessed, List.mem_singleton] at isReason
  subst isReason
  exact leads

/-- A state without evidence refers to nothing. -/
theorem evidenceOn_nil {routeId : RouteRegistrationId} {state : ApplicabilityState}
    {code : ApplicabilityReasonCode} : EvidenceOn graph routeId (assessed state code []) :=
  evidenceOn_assessed fun _ impossible => absurd impossible List.not_mem_nil

theorem evidenceOn_control {routeId : RouteRegistrationId} {state : ApplicabilityState}
    {code : ApplicabilityReasonCode} {controls : List NormalControlInstance} :
    EvidenceOn graph routeId (assessed state code (controls.map controlEvidence)) := by
  refine evidenceOn_assessed fun item membership isNode => ?_
  obtain ⟨control, -, rfl⟩ := List.mem_map.mp membership
  cases isNode

theorem evidenceOn_policyState {routeId : RouteRegistrationId} (policy : MerchantPolicyAssessment)
    (control : NormalControlInstance) : EvidenceOn graph routeId (policyState policy control) := by
  rw [policyState]
  split
  next => exact evidenceOn_nil
  next =>
    split
    next => exact evidenceOn_nil
    next => exact @evidenceOn_control graph routeId _ _ [control]

/-- The captured-event evidence of a control is on the route of the control. -/
theorem capturedEvidence_on {control : NormalControlInstance} {evidence : List EvidenceReference}
    (found : capturedWebhookControlEvidence graph control = some evidence) :
    ∀ item ∈ evidence, item.kind = .graphNode →
      ∃ node, graph.node? item.reference = some node ∧
        node.routeId? = some control.routeRegistrationId := by
  rw [capturedWebhookControlEvidence] at found
  split at found
  next => cases found
  next =>
    split at found
    next => cases found
    next =>
      split at found
      next => cases found
      next =>
        cases found
        intro item membership isNode
        rcases List.mem_cons.mp membership with rfl | onBranch
        · cases isNode
        · obtain ⟨edge, isCaptured, isReference⟩ := List.mem_flatMap.mp onBranch
          obtain ⟨-, -, source, found, routeId, onRoute, sameRoute⟩ := of_decide_eq_true
            (List.mem_filter.mp (List.mem_of_mem_filter isCaptured)).2
          rw [List.mem_singleton.mp onRoute] at sameRoute
          simp only [List.mem_cons, List.not_mem_nil, or_false] at isReference
          rcases isReference with rfl | rfl
          · exact ⟨source, Option.mem_toList.mp found, sameRoute⟩
          · cases isNode

theorem evidenceOn_captured {control : NormalControlInstance} {state other : ApplicabilityState}
    {code otherCode : ApplicabilityReasonCode} :
    EvidenceOn graph control.routeRegistrationId
      (match capturedWebhookControlEvidence graph control with
        | none => assessed other otherCode []
        | some evidence => assessed state code evidence) := by
  split
  next => exact evidenceOn_nil
  next evidence found => exact evidenceOn_assessed (capturedEvidence_on found)

theorem evidenceOn_normalCapture (policy : MerchantPolicyAssessment)
    (control : NormalControlInstance) :
    EvidenceOn graph control.routeRegistrationId (normalCaptureState graph policy control) := by
  rw [normalCaptureState]
  split
  next => exact evidenceOn_policyState policy control
  next =>
    split
    next => exact evidenceOn_nil
    next => exact evidenceOn_captured

theorem evidenceOn_duplicateCapture (policy : MerchantPolicyAssessment)
    (control : NormalControlInstance) :
    EvidenceOn graph control.routeRegistrationId (duplicateCaptureState graph policy control) := by
  rw [duplicateCaptureState]
  split
  next => exact evidenceOn_policyState policy control
  next => exact evidenceOn_captured

theorem evidenceOn_retry (policy : MerchantPolicyAssessment) (control : NormalControlInstance) :
    EvidenceOn graph control.routeRegistrationId (retryState graph policy control) := by
  have duplicate := @evidenceOn_duplicateCapture graph policy control
  rw [retryState]
  split
  next => exact duplicate
  next =>
    split
    next edge single =>
      refine evidenceOn_assessed fun item membership isNode => ?_
      rcases List.mem_append.mp membership with earlier | acknowledged
      · obtain ⟨reason, isReason, isEvidence⟩ := List.mem_flatMap.mp earlier
        exact duplicate reason isReason item isEvidence isNode
      · have isEdge : edge ∈ acknowledgementEdges graph control := by
          rw [single]
          exact List.mem_singleton_self edge
        obtain ⟨-, -, ack, found, sameRoute, -⟩ := of_decide_eq_true (List.mem_filter.mp isEdge).2
        simp only [List.mem_cons, List.not_mem_nil, or_false] at acknowledged
        rcases acknowledged with rfl | rfl
        · exact ⟨ack, Option.mem_toList.mp found, sameRoute⟩
        · cases isNode
    next => exact evidenceOn_nil

theorem evidenceOn_forgedValue (control : NormalControlInstance) :
    EvidenceOn graph control.routeRegistrationId (forgedValueState graph control) := by
  rw [forgedValueState]
  exact evidenceOn_captured

theorem evidenceOn_tamperedValue {routeId : RouteRegistrationId} (ingress : GraphNode)
    (control : NormalControlInstance) :
    EvidenceOn graph routeId (tamperedValueState ingress control) := by
  rw [tamperedValueState]
  split
  next => exact evidenceOn_nil
  next => exact @evidenceOn_control graph routeId _ _ [control]

theorem evidenceOn_fallback {routeId : RouteRegistrationId}
    (resolution : Option CustomerValueResolution) (available : List GraphNode) :
    EvidenceOn graph routeId (fallbackState graph resolution available) := by
  rw [fallbackState]
  split
  next => split <;> exact evidenceOn_nil
  next =>
    split
    next => exact evidenceOn_nil
    next => split <;> exact evidenceOn_nil

theorem routeId_of_mutation {node : GraphNode} {details : MerchantStateMutationDetails}
    (isMutation : node.mutation? = some details) :
    node.routeId? = some details.routeRegistrationId := by
  rw [GraphNode.mutation?] at isMutation
  rw [GraphNode.routeId?]
  split at isMutation
  next here =>
    cases isMutation
    rw [here]
  next => cases isMutation

/-- References to mutations of a route. -/
theorem evidenceOn_mutations {routeId : RouteRegistrationId} {state : ApplicabilityState}
    {code : ApplicabilityReasonCode} {mutations : List GraphNode}
    (onRoute : ∀ node ∈ mutations, node ∈ graph.nodes ∧ ∃ details, node.mutation? = some details ∧
      details.routeRegistrationId = routeId) :
    EvidenceOn graph routeId
      (assessed state code (mutations.map fun node => nodeEvidence node.nodeId)) := by
  refine evidenceOn_assessed fun item membership _ => ?_
  obtain ⟨node, isMutation, rfl⟩ := List.mem_map.mp membership
  obtain ⟨isNode, details, here, rfl⟩ := onRoute node isMutation
  exact ⟨node, graph.node?_of_mem isNode, routeId_of_mutation here⟩

/-- The mutations of the regression assertion are on the route of the control. -/
theorem regressionMutations_on {hashing : Hashing} {control : NormalControlInstance}
    {node : GraphNode} (membership : node ∈ regressionMutationsForControl hashing graph control) :
    node ∈ graph.nodes ∧ ∃ details, node.mutation? = some details ∧
      details.routeRegistrationId = control.routeRegistrationId := by
  obtain ⟨carrier, -, assigned, last⟩ := mem_regressionMutations.mp membership
  have assigns := lastStatement?_assigns last
  have found := assigns.node?
  obtain ⟨edge, -, assignment⟩ := assigns
  obtain ⟨details, isMutation, -, -, sameRoute⟩ := assignment.mutation
  exact ⟨(graph.node?_eq_some found).1, details, isMutation, sameRoute⟩

theorem evidenceOn_regression {hashing : Hashing} (control : NormalControlInstance) :
    EvidenceOn graph control.routeRegistrationId (regressionState hashing graph control) := by
  rw [regressionState]
  exact evidenceOn_mutations fun node membership => regressionMutations_on membership

theorem evidenceOn_webhookOnly (controls : List NormalControlInstance)
    (policy : MerchantPolicyAssessment) (control : NormalControlInstance) :
    EvidenceOn graph control.routeRegistrationId
      (webhookOnlyState graph controls policy control) := by
  have duplicate := @evidenceOn_duplicateCapture graph policy control
  rw [webhookOnlyState]
  split
  next => exact duplicate
  next =>
    split
    next => exact evidenceOn_nil
    next =>
      refine evidenceOn_assessed fun item membership isNode => ?_
      rcases List.mem_append.mp membership with linked | first
      · obtain ⟨other, -, rfl⟩ := List.mem_map.mp linked
        cases isNode
      · cases head : (duplicateCaptureState graph policy control).2.head? with
        | none =>
          rw [head] at first
          cases first
        | some reason =>
          rw [head] at first
          exact duplicate reason (List.mem_of_mem_head? head) item first isNode

theorem evidenceOn_late (policy : MerchantPolicyAssessment) (control : NormalControlInstance) :
    ∀ entry ∈ (lateAssertions graph policy control).1 :: (lateAssertions graph policy control).2,
      EvidenceOn graph control.routeRegistrationId entry.2 := by
  rw [lateAssertions]
  split
  next => simpa using evidenceOn_nil
  next =>
    split
    next => simpa using evidenceOn_nil
    next =>
      split
      next => simpa using evidenceOn_nil
      next =>
        split
        next => simpa using evidenceOn_nil
        next =>
          split
          next =>
            simpa using @evidenceOn_control graph control.routeRegistrationId _ _ [control]
          next =>
            split
            next =>
              intro entry membership
              rcases List.mem_cons.mp membership with rfl | capture
              · exact evidenceOn_nil
              · split at capture
                next =>
                  rw [List.mem_singleton.mp capture]
                  dsimp only
                  split
                  next evidence found => exact evidenceOn_assessed (capturedEvidence_on found)
                  next => exact evidenceOn_nil
                next => cases capture
            next => simpa using evidenceOn_nil

/-! ## The ingress of an instance -/

/-- What the applicable assertions of an instance refer to is on the route of its ingress. -/
def Located (graph : PaymentSafetyGraphArtifact) (item : ScenarioInstance) : Prop :=
  ∀ assertion ∈ item.assertions, assertion.state = .applicable →
    ∃ ingress ∈ graph.nodes, ∃ details, ingress.ingress? = some details ∧
      item.ingressNodeId = some ingress.nodeId ∧
      EvidenceOn graph details.registration.routeRegistrationId (assertion.state, assertion.reasons)

theorem located_catalog {hashing : Hashing} {scenario : ScenarioId} {key : AssertionKey}
    {state : Assessed} (inactive : state.1 ≠ .applicable) :
    Located graph (catalogInstance hashing scenario key state) := by
  intro assertion membership applicable
  rw [List.mem_singleton.mp membership] at applicable
  exact absurd applicable inactive

/-- An instance of a control whose states refer to the route of the control. -/
theorem located_control {control : NormalControlInstance} (known : ControlOf graph control)
    {item : ScenarioInstance}
    (ingress : item.ingressNodeId = (graph.node? control.ingressNodeId).map (·.nodeId))
    (states : ∀ assertion ∈ item.assertions, EvidenceOn graph control.routeRegistrationId
      (assertion.state, assertion.reasons)) : Located graph item := by
  intro assertion membership _
  obtain ⟨source, found, -, details, isIngress, -, sameRoute⟩ := known.node?
  refine ⟨source, (graph.node?_eq_some found).1, details, isIngress, ?_, ?_⟩
  · rw [ingress, found]
    rfl
  · rw [sameRoute]
    exact states assertion membership

section Instances

variable {hashing : Hashing} {resolution : Option CustomerValueResolution}
  {controls : List NormalControlInstance} {policy : MerchantPolicyAssessment}
  (known : ∀ control ∈ controls, ControlOf graph control)

include known

theorem located_webhookInstances {scenario : ScenarioId} {key : AssertionKey}
    {available : List GraphNode} {state : NormalControlInstance → Assessed}
    (states : ∀ control, EvidenceOn graph control.routeRegistrationId (state control))
    {item : ScenarioInstance} (membership : item ∈ webhookInstances hashing graph resolution
      controls scenario key available state) : Located graph item := by
  rcases mem_orCatalog.mp membership with isInstance | ⟨-, rfl⟩
  · obtain ⟨control, isWebhook, rfl⟩ := List.mem_map.mp isInstance
    refine located_control (known control (List.mem_of_mem_filter isWebhook)) rfl ?_
    intro assertion isAssertion
    rw [List.mem_singleton.mp isAssertion]
    exact states control
  · exact located_catalog (fallbackState_ne_applicable _ _ _)

theorem located_sg04 {item : ScenarioInstance}
    (membership : item ∈ sg04Instances hashing graph resolution controls policy) :
    Located graph item := by
  rcases mem_orCatalog.mp membership with isInstance | ⟨-, rfl⟩
  · obtain ⟨control, isWebhook, rfl⟩ := List.mem_map.mp isInstance
    refine located_control (known control (List.mem_of_mem_filter isWebhook)) rfl ?_
    intro assertion isAssertion
    rcases List.mem_cons.mp isAssertion with rfl | isRegression
    · exact evidenceOn_duplicateCapture policy control
    · rw [List.mem_singleton.mp isRegression]
      exact evidenceOn_regression control
  · exact located_catalog (fallbackState_ne_applicable _ _ _)

theorem located_sg07 {item : ScenarioInstance}
    (membership : item ∈ sg07Instances hashing graph resolution controls policy) :
    Located graph item := by
  rcases mem_orCatalog.mp membership with isInstance | ⟨-, rfl⟩
  · split at isInstance
    next => cases isInstance
    next =>
      obtain ⟨control, isWebhook, rfl⟩ := List.mem_map.mp isInstance
      refine located_control (known control (List.mem_of_mem_filter isWebhook)) rfl ?_
      intro assertion isAssertion
      rw [List.mem_singleton.mp isAssertion]
      exact evidenceOn_webhookOnly controls policy control
  · refine located_catalog ?_
    split
    next => exact fallbackState_ne_applicable _ _ _
    next => exact ApplicabilityState.noConfusion

theorem located_sg08 {item : ScenarioInstance}
    (membership : item ∈ sg08Instances hashing graph resolution controls policy) :
    Located graph item := by
  rcases mem_orCatalog.mp membership with isInstance | ⟨-, rfl⟩
  · obtain ⟨control, selected, rfl⟩ := List.mem_map.mp isInstance
    have isWebhook := List.mem_of_mem_filter selected
    refine located_control (known control (List.mem_of_mem_filter isWebhook)) rfl ?_
    intro assertion isAssertion
    have late := @evidenceOn_late graph policy control
    rcases List.mem_cons.mp isAssertion with rfl | isLater
    · exact late _ List.mem_cons_self
    · obtain ⟨entry, isEntry, rfl⟩ := List.mem_map.mp isLater
      exact late entry (List.mem_cons_of_mem _ isEntry)
  · refine located_catalog ?_
    split
    next => exact ApplicabilityState.noConfusion
    next => exact fallbackState_ne_applicable _ _ _

omit known in
/-- The instance of an ingress and of one of its controls. -/
theorem located_trustInstance {scenario : ScenarioId} {mutationKey valueKey : AssertionKey}
    {ingress : GraphNode} (isNode : ingress ∈ graph.nodes) {details : PaymentIngressDetails}
    (isIngress : ingress.ingress? = some details) {control : Option NormalControlInstance}
    {mutationState valueState : Assessed}
    (mutations : EvidenceOn graph details.registration.routeRegistrationId mutationState)
    (value : EvidenceOn graph details.registration.routeRegistrationId valueState) :
    Located graph
      (trustInstance hashing scenario mutationKey valueKey ingress control mutationState
        valueState) := by
  intro assertion membership _
  refine ⟨ingress, isNode, details, isIngress, rfl, ?_⟩
  rcases List.mem_cons.mp membership with rfl | isValue
  · exact mutations
  · rw [List.mem_singleton.mp isValue]
    exact value

omit known in
/-- The mutation assertion refers to mutations of the route. -/
theorem evidenceOn_trustMutation {routeId : RouteRegistrationId} {ingress : GraphNode}
    {unbound : Prop} [Decidable unbound] {mutations : List GraphNode}
    (onRoute : ∀ node ∈ mutations, node ∈ graph.nodes ∧ ∃ details, node.mutation? = some details ∧
      details.routeRegistrationId = routeId) :
    EvidenceOn graph routeId (trustMutationState hashing graph ingress unbound mutations) := by
  rw [trustMutationState]
  refine evidenceOn_mutations fun node membership => onRoute node ?_
  exact (mem_sortedByKey _ _ _).mp membership

omit known in
theorem mem_ingressesOf {kind : PaymentIngressKind} {ingress : GraphNode}
    (membership : ingress ∈ ingressesOf graph kind) :
    ingress ∈ graph.nodes ∧ ∃ details, ingress.ingress? = some details ∧
      details.ingressKind = kind := by
  obtain ⟨isNode, isKind⟩ := List.mem_filter.mp membership
  exact ⟨isNode, Option.map_eq_some_iff.mp (of_decide_eq_true isKind)⟩

/-- The controls of an ingress are on its route. -/
theorem route_of_controlsOfIngress {ingress : GraphNode} (isNode : ingress ∈ graph.nodes)
    {details : PaymentIngressDetails} (isIngress : ingress.ingress? = some details)
    {control : Option NormalControlInstance}
    (membership : control ∈ controlsOfIngress controls ingress) {item : NormalControlInstance}
    (isControl : control = some item) :
    item ∈ controls ∧ item.ingressNodeId = ingress.nodeId ∧
      item.routeRegistrationId = details.registration.routeRegistrationId := by
  subst isControl
  rw [controlsOfIngress] at membership
  split at membership
  next => cases List.mem_singleton.mp membership
  next =>
    obtain ⟨other, selected, same⟩ := List.mem_map.mp membership
    cases same
    obtain ⟨isItem, sameIngress⟩ := List.mem_filter.mp selected
    have sameIngress := of_decide_eq_true sameIngress
    obtain ⟨source, found, -, sourceDetails, sourceIngress, -, sameRoute⟩ := (known _ isItem).node?
    rw [sameIngress, graph.node?_of_mem isNode] at found
    cases found
    rw [isIngress] at sourceIngress
    cases sourceIngress
    exact ⟨isItem, sameIngress, sameRoute.symm⟩

theorem located_sg05 {item : ScenarioInstance}
    (membership : item ∈ sg05Instances hashing graph resolution controls) :
    Located graph item := by
  rcases mem_orCatalog.mp membership with isInstance | ⟨-, rfl⟩
  · obtain ⟨ingress, isWebhook, isItem⟩ := List.mem_flatMap.mp isInstance
    obtain ⟨control, isControl, rfl⟩ := List.mem_map.mp isItem
    obtain ⟨isNode, details, isIngress, -⟩ := mem_ingressesOf isWebhook
    refine located_trustInstance isNode isIngress (evidenceOn_trustMutation ?_) ?_
    · intro node isMutation
      by_cases posts : PostsWebhooks ingress
      · obtain ⟨edge, -, -, -, found, mutation⟩ :=
          (mem_capturedPathMutations isIngress posts).mp isMutation
        exact ⟨(graph.node?_eq_some found).1, mutation⟩
      · rw [capturedPathMutations, isIngress] at isMutation
        dsimp only at isMutation
        rw [if_pos posts] at isMutation
        cases isMutation
    · cases control with
      | none => exact evidenceOn_fallback resolution [ingress]
      | some item =>
        obtain ⟨-, -, sameRoute⟩ := route_of_controlsOfIngress known isNode isIngress isControl rfl
        rw [← sameRoute]
        exact evidenceOn_forgedValue item
  · exact located_catalog (fallbackState_ne_applicable _ _ _)

omit known in
theorem located_sg06 {item : ScenarioInstance}
    (membership : item ∈ sg06Instances hashing graph resolution controls) :
    Located graph item := by
  rcases mem_orCatalog.mp membership with isInstance | ⟨-, rfl⟩
  · obtain ⟨ingress, isCheckout, isItem⟩ := List.mem_flatMap.mp isInstance
    obtain ⟨control, isControl, rfl⟩ := List.mem_map.mp isItem
    obtain ⟨isNode, details, isIngress, -⟩ := mem_ingressesOf isCheckout
    refine located_trustInstance isNode isIngress (evidenceOn_trustMutation ?_) ?_
    · intro node isMutation
      rw [checkoutProtectedMutations, isIngress] at isMutation
      dsimp only at isMutation
      rw [mem_sortedByKey] at isMutation
      obtain ⟨inGraph, conditions⟩ := List.mem_filter.mp isMutation
      obtain ⟨mutation, here, sameRoute, -⟩ := of_decide_eq_true conditions
      exact ⟨inGraph, mutation, Option.mem_toList.mp here, sameRoute⟩
    · cases control with
      | none => exact evidenceOn_fallback resolution [ingress]
      | some item => exact evidenceOn_tamperedValue ingress item
  · exact located_catalog (fallbackState_ne_applicable _ _ _)

/-- Every instance of the catalog refers to the route of its ingress. -/
theorem located_instancesOf {scenario : ScenarioId} {item : ScenarioInstance}
    (membership : item ∈ instancesOf hashing graph resolution controls policy scenario) :
    Located graph item := by
  cases scenario with
  | sg01 => exact located_webhookInstances known (evidenceOn_normalCapture policy) membership
  | sg02 => exact located_webhookInstances known (evidenceOn_duplicateCapture policy) membership
  | sg03 => exact located_webhookInstances known (evidenceOn_retry policy) membership
  | sg04 => exact located_sg04 known membership
  | sg05 => exact located_sg05 known membership
  | sg06 => exact located_sg06 membership
  | sg07 => exact located_sg07 known membership
  | sg08 => exact located_sg08 known membership

end Instances

end

end StateGuard
